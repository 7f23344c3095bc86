import FormCompiler.Database.FullText.Token

namespace FormCompiler.Database.FullText

structure Phrase where
  terms : List Octets := []
  isOpen : Bool := false
  isFirst : Bool := false

structure Near where
  phrases : List Phrase
  distance : Nat := 10
  columns : Option (List Nat) := none

inductive Query where
  | nothing
  | near (n : Near)
  | and (a b : Query)
  | or (a b : Query)
  | not (a b : Query)

namespace Query

def phrases : Query → List (Phrase × Option (List Nat))
  | nothing => []
  | near n => n.phrases.map (·, n.columns)
  | and a b | or a b | not a b => a.phrases ++ b.phrases

def within (columns : List Nat) : Query → Query
  | nothing => nothing
  | near n => near { n with columns := some (match n.columns with
      | some own => own.filter columns.contains
      | none => columns) }
  | and a b => and (a.within columns) (b.within columns)
  | or a b => or (a.within columns) (b.within columns)
  | not a b => not (a.within columns) (b.within columns)

end Query

inductive Word where
  | sign (b : UInt8)
  | and
  | or
  | not
  | text (s written : Octets)

namespace Word

def written : Word → Octets
  | sign b => [b]
  | and => Octets.ofString "AND"
  | or => Octets.ofString "OR"
  | not => Octets.ofString "NOT"
  | text _ w => w

def isBare (b : UInt8) : Bool :=
  128 ≤ b || (48 ≤ b && b ≤ 57) || (65 ≤ b && b ≤ 90) || (97 ≤ b && b ≤ 122) || b == 95 || b == 26

def quoted : Octets → Option (Octets × Octets)
  | 34 :: 34 :: rest => (quoted rest).map fun (s, r) => (34 :: s, r)
  | 34 :: rest => some ([], rest)
  | b :: rest => (quoted rest).map fun (s, r) => (b :: s, r)
  | [] => none

def signs : List UInt8 := ("()\x7b\x7d:,+*-^".toUTF8).toList

def read : Nat → Octets → Except String (List Word)
  | 0, _ => .ok []
  | fuel + 1, s =>
    match s.dropWhile fun b => b == 32 || b == 9 || b == 10 || b == 13 with
    | [] => .ok []
    | b :: rest =>
      if signs.contains b then do return .sign b :: (← read fuel rest)
      else if b == 34 then
        match quoted rest with
        | none => .error "unterminated string"
        | some (t, more) => do
          let length := rest.length + 1 - more.length
          return .text t ((b :: rest).take length) :: (← read fuel more)
      else if isBare b then do
        let all := b :: rest
        let bare := all.takeWhile isBare
        let word := match Octets.text bare with
          | "AND" => Word.and
          | "OR" => .or
          | "NOT" => .not
          | _ => .text bare bare
        return word :: (← read fuel (all.dropWhile isBare))
      else .error ("fts5: syntax error near \"" ++ Octets.text [b] ++ "\"")

end Word

namespace Query

structure Grammar where
  tokenizer : Tokenizer
  columns : List String

def unexpected {α : Type} (words : List Word) : Except String α :=
  .error ("fts5: syntax error near \"" ++ ((words.head?.map Word.written).getD []).text ++ "\"")

abbrev Reading (α : Type) : Type := List Word → Except String (α × List Word)

def columnOf (g : Grammar) (name : Octets) : Except String Nat :=
  match g.columns.findIdx? fun c => c.map Char.toLower == name.text.map Char.toLower with
  | some i => .ok i
  | none => .error ("no such column: " ++ name.text)

def columnList (g : Grammar) : Reading (List Nat)
  | .text s _ :: rest => do
    let i ← columnOf g s
    match rest with
    | .sign 125 :: more => return ([i], more)
    | _ =>
      let (is, more) ← columnList g rest
      return (i :: is, more)
  | words => unexpected words

def columnSet? (g : Grammar) (words : List Word) : Except String (Option (List Nat × List Word)) := do
  let others (is : List Nat) : List Nat := (List.range g.columns.length).filter fun i => !is.contains i
  let found ← match words with
    | .sign 45 :: .sign 123 :: rest => do
      let (is, more) ← columnList g rest
      pure (some (others is, more))
    | .sign 123 :: rest => do
      let (is, more) ← columnList g rest
      pure (some (is, more))
    | .sign 45 :: .text s _ :: rest => do pure (some (others [← columnOf g s], rest))
    | .text s _ :: .sign 58 :: rest => do pure (some ([← columnOf g s], .sign 58 :: rest))
    | _ => pure none
  match found with
  | none => return none
  | some (is, .sign 58 :: rest) => return some (is, rest)
  | some (_, rest) => unexpected rest

def phrase (g : Grammar) : Nat → Phrase → Reading Phrase
  | 0, _, words => unexpected words
  | fuel + 1, p, words =>
    match words with
    | .text s _ :: rest =>
      let p := { p with terms := p.terms ++ (g.tokenizer.tokens s).map Token.text, isOpen := false }
      let (p, rest) := match rest with
        | .sign 42 :: more => ({ p with isOpen := true }, more)
        | _ => (p, rest)
      match rest with
      | .sign 43 :: more => phrase g fuel p more
      | _ => .ok (p, rest)
    | words => unexpected words

def nearPhrases (g : Grammar) : Nat → List Phrase → Reading Near
  | 0, _, words => unexpected words
  | fuel + 1, found, words => do
    match words with
    | .text .. :: _ =>
      let (p, rest) ← phrase g (words.length + 1) {} words
      nearPhrases g fuel (found ++ [p]) rest
    | .sign 41 :: rest => if found.isEmpty then unexpected words else return ({ phrases := found }, rest)
    | .sign 44 :: .text n w :: .sign 41 :: rest =>
      if found.isEmpty then unexpected words
      else if n.all fun b => 48 ≤ b && b ≤ 57 then
        return ({ phrases := found, distance := n.foldl (fun k b => k * 10 + (b.toNat - 48)) 0 }, rest)
      else .error ("expected integer, got \"" ++ w.text ++ "\"")
    | words => unexpected words

def nearSet (g : Grammar) (words : List Word) : Except String (Near × List Word) := do
  match words with
  | .text s w :: .sign 40 :: rest =>
    if s.text != "NEAR" then .error ("fts5: syntax error near \"" ++ w.text ++ "\"")
    else nearPhrases g (words.length + 1) [] rest
  | .sign 94 :: rest =>
    let (p, more) ← phrase g (words.length + 1) {} rest
    return ({ phrases := [{ p with isFirst := true }] }, more)
  | words =>
    let (p, more) ← phrase g (words.length + 1) {} words
    return ({ phrases := [p] }, more)

def ofNear (n : Near) : Query :=
  match n.phrases.filter fun p => !p.terms.isEmpty with
  | [] => nothing
  | ps => near { n with phrases := ps }

def startsNear : List Word → Bool
  | .text .. :: _ | .sign 94 :: _ | .sign 45 :: _ | .sign 123 :: _ => true
  | _ => false

def beside (a b : Query) : Query :=
  match a, b with
  | nothing, b => b
  | a, nothing => a
  | a, b => and a b

def operator? : Nat → Word → Option (Query → Query → Query)
  | 0, .or => some or
  | 1, .and => some and
  | 2, .not => some not
  | _, _ => none

mutual

def joined (g : Grammar) : Nat → Nat → Reading Query
  | 0, _, words => unexpected words
  | fuel + 1, 3, words => primary g fuel words
  | fuel + 1, level, words => do
    let (q, rest) ← joined g fuel (level + 1) words
    moreJoined g fuel level q rest

def moreJoined (g : Grammar) : Nat → Nat → Query → Reading Query
  | 0, _, _, words => unexpected words
  | fuel + 1, level, q, words => do
    match words.head?.bind (operator? level) with
    | some op =>
      let (r, more) ← joined g fuel (level + 1) words.tail
      moreJoined g fuel level (op q r) more
    | none => return (q, words)

def primary (g : Grammar) : Nat → Reading Query
  | 0, words => unexpected words
  | fuel + 1, words => do
    match words with
    | .sign 40 :: rest =>
      let (q, more) ← joined g fuel 0 rest
      match more with
      | .sign 41 :: more => return (q, more)
      | more => unexpected more
    | words =>
      match ← columnSet? g words with
      | some (columns, .sign 40 :: rest) =>
        let (q, more) ← joined g fuel 0 rest
        match more with
        | .sign 41 :: more => return (q.within columns, more)
        | more => unexpected more
      | some (columns, rest) =>
        let (n, more) ← nearSet g rest
        moreBeside g fuel ((ofNear n).within columns) more
      | none =>
        let (n, more) ← nearSet g words
        moreBeside g fuel (ofNear n) more

def moreBeside (g : Grammar) : Nat → Query → Reading Query
  | 0, _, words => unexpected words
  | fuel + 1, q, words => do
    if !startsNear words then return (q, words)
    match ← columnSet? g words with
    | some (columns, rest) =>
      let (n, more) ← nearSet g rest
      moreBeside g fuel (beside q ((ofNear n).within columns)) more
    | none =>
      let (n, more) ← nearSet g words
      moreBeside g fuel (beside q (ofNear n)) more

end

def ofText (g : Grammar) (s : Octets) : Except String Query := do
  let words ← Word.read (s.length + 1) (s.takeWhile (· != 0))
  if words.isEmpty then return nothing
  let (q, rest) ← joined g (8 * words.length + 16) 0 words
  if rest.isEmpty then return q else unexpected rest

end Query

structure Spot where
  column : Nat
  word : Nat
  deriving DecidableEq, Inhabited

abbrev Document := List (List Octets)

namespace Phrase

def startsAt (isOpen : Bool) : List Octets → List Octets → Bool
  | [], _ => true
  | [t], w :: _ => if isOpen then t.isPrefixOf w else t == w
  | t :: ts, w :: ws => t == w && startsAt isOpen ts ws
  | _ :: _, [] => false

def spots (p : Phrase) (columns : Option (List Nat)) (d : Document) : List Spot :=
  if p.terms.isEmpty then []
  else
    d.zipIdx.flatMap fun (words, column) =>
      if !(columns.all fun cs => cs.contains column) then []
      else
        (List.range words.length).filterMap fun word =>
          if (p.isFirst && 0 < word) || !startsAt p.isOpen p.terms (words.drop word) then none else some ⟨column, word⟩

end Phrase

namespace Near

def Spot.number (s : Spot) : Int := s.column * 0x80000000 + s.word

def settle (sizes : List (Nat × Nat)) : Nat → List (List Spot) → Option (List (List Spot))
  | 0, _ => none
  | fuel + 1, lists =>
    let heads := lists.map fun l => (l.head?).map Spot.number
    if heads.any (·.isNone) then none
    else
      let furthest := heads.foldl (fun (m : Int) h => max m (h.getD 0)) (-1)
      let moved := (lists.zip sizes).map fun (l, n, distance) =>
        l.dropWhile fun s => Spot.number s < furthest - n - distance
      if moved.any (·.isEmpty) then none
      else if (moved.zip lists).all fun (a, b) => a.length == b.length then some lists
      else settle sizes fuel moved

def close (sizes : List (Nat × Nat)) : Nat → List (List Spot) → List (List Spot) → List (List Spot)
  | 0, _, found => found
  | fuel + 1, lists, found =>
    match settle sizes (fuel + 1) lists with
    | none => found
    | some lists =>
      let found := (found.zip lists).map fun (out, l) =>
        match l.head? with
        | some s => if out.getLast? == some s then out else out ++ [s]
        | none => out
      let next := lists.zipIdx.foldl (fun (best : Option (Int × Nat)) (l, i) =>
        match (l[1]?).map Spot.number, best with
        | none, best => best
        | some n, some (m, k) => if n < m then some (n, i) else some (m, k)
        | some n, none => some (n, i)) none
      match next with
      | none => found
      | some (_, i) => close sizes fuel (lists.modify i (·.drop 1)) found

def find? (n : Near) (d : Document) : Option (List (List Spot)) :=
  let lists := n.phrases.map fun p => p.spots n.columns d
  match lists with
  | [l] => if l.isEmpty then none else some [l]
  | lists =>
    let sizes := n.phrases.map fun p => (p.terms.length, n.distance)
    let total := lists.foldl (fun k l => k + l.length) 1
    let found := close sizes total lists (lists.map fun _ => [])
    if found.all fun l => !l.isEmpty then some found else none

end Near

namespace Query

def find? : Query → Document → Option (List (List Spot))
  | nothing, _ => none
  | near n, d => n.find? d
  | and a b, d => (a.find? d).bind fun x => (b.find? d).map (x ++ ·)
  | or a b, d =>
    let none_ (q : Query) : List (List Spot) := q.phrases.map fun _ => []
    match a.find? d, b.find? d with
    | none, none => none
    | some x, none => some (x ++ none_ b)
    | none, some y => some (none_ a ++ y)
    | some x, some y => some (x ++ y)
  | not a b, d =>
    match b.find? d with
    | some _ => none
    | none => (a.find? d).map (· ++ b.phrases.map fun _ => [])

end Query

end FormCompiler.Database.FullText
