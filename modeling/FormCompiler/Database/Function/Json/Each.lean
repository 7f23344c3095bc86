import FormCompiler.Database.Function.Json.Apply

namespace FormCompiler.Database.Json

structure Entry where
  key : Value := .null
  json : Json
  id : Nat
  parent : Option Nat := none
  fullKey : List Char
  path : List Char

def pathName (t : Json.Text) : List Char :=
  if t.letters.isEmpty || t.letters.any (!·.isAlphanum) then ['.', '"'] ++ t.letters ++ ['"'] else '.' :: t.letters

def pathIndex (k : Nat) : List Char := '[' :: Text.Numeral.digits k ++ [']']

def children (offset : Nat) (j : Json) : List (Value × List Char × Nat × Nat × Json) :=
  let start := offset + headLength j.size
  match j with
  | .array items =>
    (items.zipIdx.foldl (fun (s : Nat × List (Value × List Char × Nat × Nat × Json)) (i, k) =>
      (s.1 + i.fullSize, (.integer k, pathIndex k, s.1, s.1, i) :: s.2)) (start, [])).2.reverse
  | .object members =>
    (members.foldl (fun (s : Nat × List (Value × List Char × Nat × Nat × Json)) (t, i) =>
      let at_ := s.1 + headLength t.letters.length + t.letters.length
      (at_ + i.fullSize, (.ofLetters t.meaning, pathName t, s.1, at_, i) :: s.2)) (start, [])).2.reverse
  | _ => []

def each (p : Part) (root : List Char) : List Entry :=
  if p.json.isContainer then
    (children p.offset p.json).map fun (key, name, id, _, j) =>
      { key, json := j, id, fullKey := root ++ name, path := root }
  else [{ json := p.json, id := p.label.getD p.offset, fullKey := root, path := root }]

def descendants : Nat → List Char → Nat → Nat → Json → List Entry
  | 0, _, _, _, _ => []
  | fuel + 1, path, head, offset, j =>
    (children offset j).flatMap fun (key, name, id, at_, i) =>
      { key, json := i, id, parent := some head, fullKey := path ++ name, path } ::
        descendants fuel (path ++ name) id at_ i

def parentLength (whole : Json) (id : Nat) (root : List Char) : Nat :=
  let isParent (n : Nat) : Bool :=
    match lookup whole ((root.take n).drop 1) with
    | .ok q => q.offset + headLength q.json.size == id
    | .error _ => false
  let places := (List.range root.length).filter fun n => 0 < n && (root[n]? == some '[' || root[n]? == some '.')
  (places.reverse.find? isParent).getD (min root.length 1)

def lastKey (root : List Char) (n : Nat) : Value :=
  match root.drop n with
  | '[' :: digits => .integer (Nat.ofDigitChars 10 (digits.takeWhile Char.isDigit) 0)
  | _ :: '"' :: name => .ofLetters name.dropLast
  | _ :: name => .ofLetters name
  | [] => .null

def tree (whole : Json) (p : Part) (root : List Char) : List Entry :=
  let id := p.label.getD p.offset
  let n := if 2 ≤ root.length then parentLength whole id root else root.length
  let key := if root.length = 1 then .null else lastKey root n
  { key, json := p.json, id, fullKey := root, path := root.take n } ::
    descendants (maxDepth + 1) root id p.offset p.json

def entries (isTree : Bool) (v : Value) (root : Option Value) : Except String (List Entry) := do
  match ← argument v with
  | none => return []
  | some (whole, _) =>
    let take (p : Part) (path : List Char) : List Entry := if isTree then tree whole p path else each p path
    match root with
    | none => return take { json := whole } ['$']
    | some r =>
      if r.isNull then return []
      match rooted? r with
      | none => .error (badPath r)
      | some rest =>
        match lookup whole rest with
        | .ok p => return take p (pathOf r)
        | .error .missing => return []
        | .error .badPath => .error (badPath r)

def Entry.row (e : Entry) (v : Value) (root : Option Value) : List Marked :=
  let atom : Value := if e.json.isContainer then .null else e.json.toValue
  [⟨e.key, false⟩, ⟨e.json.toValue, e.json.isContainer⟩, ⟨.ofString e.json.typeName, false⟩, ⟨atom, false⟩,
    ⟨.integer e.id, false⟩, ⟨(e.parent.map fun n => Value.integer n).getD .null, false⟩, ⟨.ofLetters e.fullKey, false⟩,
    ⟨.ofLetters e.path, false⟩, ⟨v, false⟩, ⟨root.getD (.ofString "$"), false⟩]

end FormCompiler.Database.Json
