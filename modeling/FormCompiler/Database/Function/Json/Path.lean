import FormCompiler.Database.Function.Json.Write

namespace FormCompiler.Database.Json

inductive Astray where
  | missing
  | badPath
  deriving DecidableEq

structure Label where
  letters : List Char
  isRaw : Bool := true

def labelOf? : List Char → Option (Label × List Char)
  | '"' :: rest =>
    let name := rest.takeWhile (· != '"')
    match rest.drop name.length with
    | _ :: more => some (⟨name, !name.contains '\\'⟩, more)
    | [] => none
  | path =>
    let name := path.takeWhile fun c => c != '.' && c != '['
    if name.isEmpty then none else some (⟨name, true⟩, path.drop name.length)

def Label.isNameOf (l : Label) (t : Json.Text) : Bool :=
  let own := if l.isRaw then l.letters else unescape (l.letters.length + 1) l.letters
  own == t.meaning

def Label.text (l : Label) : Json.Text := ⟨if l.isRaw then .raw else .loose, l.letters⟩

def natOf (digits : List Char) : Nat := Nat.ofDigitChars 10 digits 0 % Nat.pow 2 32

def indexOf? (count : Nat) (path : List Char) : Except Astray (Nat × List Char) :=
  let digits := path.takeWhile Char.isDigit
  match path.drop digits.length with
  | ']' :: rest => if digits.isEmpty then .error .badPath else .ok (natOf digits, rest)
  | _ =>
    match path with
    | '#' :: ']' :: rest => .ok (count, rest)
    | '#' :: '-' :: more =>
      let digits := more.takeWhile Char.isDigit
      if digits.isEmpty then .error .badPath
      else if count < natOf digits then .error .missing
      else
        match more.drop digits.length with
        | ']' :: rest => .ok (count - natOf digits, rest)
        | _ => .error .badPath
    | _ => .error .badPath

structure Part where
  json : Json
  offset : Nat := 0
  label : Option Nat := none

def follow : Nat → Part → List Char → Except Astray Part
  | _, p, [] => .ok p
  | 0, _, _ => .error .missing
  | fuel + 1, p, '.' :: path =>
    match labelOf? path with
    | none => .error .badPath
    | some (l, rest) =>
      match p.json with
      | .object members =>
        let start := p.offset + headLength p.json.size
        let found := members.foldl (fun (s : Nat × Option Part) (t, j) =>
          let at_ := s.1 + headLength t.letters.length + t.letters.length
          (at_ + j.fullSize, s.2 <|> if l.isNameOf t then some ⟨j, at_, some s.1⟩ else none)) (start, none)
        match found.2 with
        | some q => follow fuel q rest
        | none => .error .missing
      | _ => .error .missing
  | fuel + 1, p, '[' :: path =>
    match p.json with
    | .array items => do
      let (k, rest) ← indexOf? items.length path
      match items[k]? with
      | some j =>
        let before := (items.take k).foldl (fun n i => n + i.fullSize) (p.offset + headLength p.json.size)
        follow fuel ⟨j, before, none⟩ rest
      | none => .error .missing
    | _ => .error .missing
  | _, _, _ => .error .badPath

def lookup (j : Json) (path : List Char) : Except Astray Part := follow (path.length + 1) { json := j } path

inductive Edit where
  | remove
  | insert (j : Json)
  | replace (j : Json)
  | set (j : Json)

def Edit.fresh? : Edit → Option Json
  | insert j | set j => some j
  | _ => none

def edit (e : Edit) : Nat → Json → List Char → Except Astray (Option Json)
  | _, j, [] =>
    .ok (match e with
      | .remove => none
      | .insert _ => some j
      | .replace new | .set new => some new)
  | 0, _, _ => .error .missing
  | fuel + 1, j, '.' :: path =>
    match labelOf? path with
    | none => .error .badPath
    | some (l, rest) =>
      match j with
      | .object members =>
        match members.findIdx? fun m => l.isNameOf m.1 with
        | some k => do
          match members[k]? with
          | none => .error .missing
          | some (t, old) =>
            match ← edit e fuel old rest with
            | some new => return some (.object (members.set k (t, new)))
            | none => return some (.object (members.eraseIdx k))
        | none =>
          match e.fresh? with
          | none => .error .missing
          | some new => do
            match if rest.isEmpty then .ok (some new) else edit e fuel (container rest) rest with
            | .ok (some made) => return some (.object (members ++ [(l.text, made)]))
            | .ok none => .error .missing
            | .error a => .error a
      | _ => .error .missing
  | fuel + 1, j, '[' :: path =>
    match j with
    | .array items => do
      let (k, rest) ← indexOf? items.length path
      match items[k]? with
      | some old =>
        match ← edit e fuel old rest with
        | some new => return some (.array (items.set k new))
        | none => return some (.array (items.eraseIdx k))
      | none =>
        match e.fresh? with
        | none => .error .missing
        | some new =>
          if k != items.length then .error .missing
          else
            match if rest.isEmpty then .ok (some new) else edit e fuel (container rest) rest with
            | .ok (some made) => return some (.array (items ++ [made]))
            | .ok none => .error .missing
            | .error a => .error a
    | _ => .error .missing
  | _, _, _ => .error .badPath
where
  container (path : List Char) : Json := if path.head? == some '.' then .object [] else .array []

def memberIndex? (members : List (Json.Text × Json)) (t : Json.Text) : Option Nat :=
  members.findIdx? fun m => m.1.meaning == t.meaning

def merge : Nat → Json → Json → Json
  | 0, _, patch => patch
  | fuel + 1, target, .object changes =>
    let start := match target with
      | .object members => members
      | _ => []
    .object (changes.foldl (fun (members : List (Json.Text × Json)) (t, change) =>
      match memberIndex? members t, change with
      | some k, .null => members.eraseIdx k
      | none, .null => members
      | some k, change => members.set k (((members[k]?).map (·.1)).getD t,
        merge fuel (((members[k]?).map (·.2)).getD .null) change)
      | none, change => members ++ [(t, merge fuel (.object []) change)]) start)
  | _, _, patch => patch

end FormCompiler.Database.Json
