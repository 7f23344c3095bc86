import FormCompiler.Database.Function.Json.Basic

namespace FormCompiler.Database.Json

structure Reading where
  mark : Nat := 0
  isLoose : Bool := false

abbrev Reader := StateM Reading

inductive Found where
  | value (j : Json) (next : Nat)
  | brace
  | bracket
  | comma
  | colon
  | nothing
  | wrong

def isSpace (c : Char) : Bool := c == ' ' || c == '\t' || c == '\n' || c == '\r'

abbrev Letters := Array Char

namespace Letters

variable (z : Letters) (i : Nat)

def at_ : Char := z[i]?.getD '\x00'

def skip (z : Letters) (p : Char → Bool) (i : Nat) : Nat :=
  if h : i < z.size then (if p z[i] then skip z p (i + 1) else i) else i
termination_by z.size - i

def skipSpaces : Nat := z.skip isSpace i

def has (codes : List Nat) : Bool := codes.zipIdx.all fun (c, k) => (z.at_ (i + k)).toNat == c

def commentEnd? (z : Letters) (i : Nat) : Option Nat :=
  if h : i < z.size then (if z[i] == '/' && z.at_ (i - 1) == '*' then some (i + 1) else commentEnd? z (i + 1)) else none
termination_by z.size - i

def lineEnd (z : Letters) (i : Nat) : Nat :=
  if h : i < z.size then
    if z[i] == '\n' || z[i] == '\r' then i + 1
    else if z.has i [0xE2, 0x80, 0xA8] || z.has i [0xE2, 0x80, 0xA9] then i + 3
    else lineEnd z (i + 1)
  else i
termination_by z.size - i

def blank? : Option Nat :=
  let c := z.at_ i
  if isSpace c || c.toNat == 0x0B || c.toNat == 0x0C then some (i + 1)
  else if c == '/' then
    if z.at_ (i + 1) == '*' && z.at_ (i + 2) != '\x00' then z.commentEnd? (i + 3)
    else if z.at_ (i + 1) == '/' then some (z.lineEnd (i + 2))
    else none
  else if z.has i [0xC2, 0xA0] then some (i + 2)
  else if z.has i [0xE1, 0x9A, 0x80] || z.has i [0xE2, 0x81, 0x9F] || z.has i [0xE3, 0x80, 0x80] ||
    z.has i [0xEF, 0xBB, 0xBF] then
    some (i + 3)
  else if z.has i [0xE2, 0x80] then
    let d := (z.at_ (i + 2)).toNat
    if (0x80 ≤ d && d ≤ 0x8A) || d == 0xA8 || d == 0xA9 || d == 0xAF then some (i + 3) else none
  else none

def skipBlanks (z : Letters) : Nat → Nat → Nat
  | 0, i => i
  | fuel + 1, i =>
    match z.blank? i with
    | some next => skipBlanks z fuel next
    | none => i

def afterBlanks : Nat := z.skipBlanks (z.size + 1) i

def isHex (c : Char) : Bool := (Octets.hexValue? c.toUInt8).isSome && c.toNat < 128

def isHexAt (z : Letters) (i n : Nat) : Bool := (List.range n).all fun k => isHex (z.at_ (i + k))

def part (z : Letters) (i j : Nat) : List Char := (z.extract i j).toList

def hasWord (word : String) : Bool := (z.part i (i + word.length)).map Char.toLower == word.toList

end Letters

def startsName (c : Char) : Bool := c.isAlpha || c == '_' || c == '$' || 128 ≤ c.toNat
def isInName (c : Char) : Bool := startsName c || c.isDigit

def wrongAt (i : Nat) : Reader Found := do
  modify fun s => { s with mark := i }
  return .wrong

def loosen : Reader Unit := modify fun s => { s with isLoose := true }

def signAt (i : Nat) (f : Found) : Reader Found := do
  modify fun s => { s with mark := i }
  return f

def failAfter (x : Found) (i : Nat) : Reader Found :=
  match x with
  | .wrong => return .wrong
  | _ => wrongAt i

def readQuoted (z : Letters) (quote : Char) : Nat → Nat → Style → Reader (Except Nat (Nat × Style))
  | 0, j, _ => return .error j
  | fuel + 1, j, style => do
    let c := z.at_ j
    if c == quote then return .ok (j, style)
    else if c == '\\' then
      let d := z.at_ (j + 1)
      if ['"', '\\', '/', 'b', 'f', 'n', 'r', 't'].contains d || (d == 'u' && z.isHexAt (j + 2) 4) then
        readQuoted z quote fuel (j + 2) (if style = .plain then .escaped else style)
      else if d == '\'' || d == 'v' || d == '\n' || (d == '0' && !(z.at_ (j + 2)).isDigit)
          || z.has (j + 1) [0xE2, 0x80, 0xA8] || z.has (j + 1) [0xE2, 0x80, 0xA9] ||
            (d == 'x' && z.isHexAt (j + 2) 2) then
        loosen
        readQuoted z quote fuel (j + 2) .loose
      else if d == '\r' then
        loosen
        readQuoted z quote fuel (if z.at_ (j + 2) == '\n' then j + 3 else j + 2) .loose
      else return .error (j + 1)
    else if c.toNat ≤ 0x1F then
      if c.toNat = 0 then return .error j
      loosen
      readQuoted z quote fuel (j + 1) .loose
    else readQuoted z quote fuel (j + 1) (if c == '"' then .loose else style)

def readDigits (z : Letters) (start : Nat) : Nat → Nat → Bool → Bool → Bool → Except Nat (Nat × Bool × Bool)
  | 0, j, isReal, isLoose, _ => .ok (j, isReal, isLoose)
  | fuel + 1, j, isReal, isLoose, seenExponent =>
    let c := z.at_ j
    let endsInPoint : Bool := z.at_ (j - 1) == '.' && start + 2 ≤ j && (z.at_ (j - 2)).isDigit
    if c.isDigit then readDigits z start fuel (j + 1) isReal isLoose seenExponent
    else if c == '.' then if isReal then .error j else readDigits z start fuel (j + 1) true isLoose seenExponent
    else if c == 'e' || c == 'E' then
      let bad : Bool := decide ((z.at_ (j - 1)).toNat < 48)
      if (bad && !endsInPoint) || seenExponent then .error j
      else
        let d := z.at_ (j + 1)
        let k := if d == '+' || d == '-' then j + 1 else j
        if (z.at_ (k + 1)).isDigit then readDigits z start fuel (k + 1) true (isLoose || bad) true else .error k
    else if (z.at_ (j - 1)).toNat < 48 then if endsInPoint then .ok (j, isReal, true) else .error j
    else .ok (j, isReal, isLoose)

def otherNumbers : List (String × Json) :=
  [("inf", .number true false "9e999".toList), ("infinity", .number true false "9e999".toList), ("nan", .null),
    ("qnan", .null), ("snan", .null)]

def readNumber (z : Letters) (i : Nat) : Reader Found := do
  let c := z.at_ i
  let finish (isReal isLoose : Bool) (j : Nat) : Reader Found := do
    if isLoose then loosen
    return .value (.number isReal isLoose (z.part (if c == '+' then i + 1 else i) j)) j
  let digits (isReal isLoose : Bool) : Reader Found := do
    match readDigits z i (z.size + 2) (i + 1) isReal isLoose false with
    | .ok (j, isReal, isLoose) => finish isReal isLoose j
    | .error j => wrongAt j
  let isHexNumber (k : Nat) : Bool := z.at_ k == '0' && (z.at_ (k + 1) == 'x' || z.at_ (k + 1) == 'X') &&
    z.isHexAt (k + 2) 1
  if c == '+' then loosen
  if c == '.' then
    if (z.at_ (i + 1)).isDigit then
      loosen
      digits true true
    else wrongAt i
  else if c == '0' then
    if isHexNumber i then finish false true (z.skip Letters.isHex (i + 3))
    else if (z.at_ (i + 1)).isDigit then wrongAt (i + 1)
    else digits false false
  else if c == '-' || c == '+' then
    let d := z.at_ (i + 1)
    if !d.isDigit then
      if z.hasWord (i + 1) "inf" then
        loosen
        let letters := if c == '-' then "-9e999".toList else "9e999".toList
        return .value (.number true false letters) (if z.hasWord (i + 4) "inity" then i + 9 else i + 4)
      else if d == '.' then
        loosen
        digits false true
      else wrongAt i
    else if d == '0' && (z.at_ (i + 2)).isDigit then wrongAt (i + 1)
    else if isHexNumber (i + 1) then finish false true (z.skip Letters.isHex (i + 4))
    else digits false false
  else digits false false

def maxDepth : Nat := 1000

def readName? (z : Letters) (j : Nat) : Option (Nat × Style) :=
  let escape (k : Nat) : Bool := z.at_ k == '\\' && z.at_ (k + 1) == 'u' && z.isHexAt (k + 2) 4
  let rec go : Nat → Nat → Style → Nat × Style
    | 0, k, style => (k, style)
    | fuel + 1, k, style =>
      if isInName (z.at_ k) && (z.blank? k).isNone then go fuel (k + 1) style
      else if escape k then go fuel (k + 1) .escaped
      else (k, style)
  if startsName (z.at_ j) then some (go (z.size + 1) (j + 1) .plain)
  else if escape j then some (go (z.size + 1) (j + 1) .escaped)
  else none

mutual

def readValue (z : Letters) : Nat → Nat → Nat → Reader Found
  | 0, _, _ => return .wrong
  | fuel + 1, depth, i => do
    let c := z.at_ i
    if c == '\x7b' then
      if maxDepth ≤ depth then wrongAt i else readMembers z fuel (depth + 1) (i + 1) []
    else if c == '[' then
      if maxDepth ≤ depth then wrongAt i else readItems z fuel (depth + 1) (i + 1) []
    else if c == '"' || c == '\'' then
      if c == '\'' then loosen
      match ← readQuoted z c (z.size + 2) (i + 1) .plain with
      | .ok (j, style) => return .value (.text ⟨style, z.part (i + 1) j⟩) (j + 1)
      | .error j => wrongAt j
    else if c == '+' || c == '-' || c == '.' || c.isDigit then readNumber z i
    else if c == '\x7d' then signAt i .brace
    else if c == ']' then signAt i .bracket
    else if c == ',' then signAt i .comma
    else if c == ':' then signAt i .colon
    else if c == '\x00' then return .nothing
    else if isSpace c then readValue z fuel depth (z.skipSpaces i)
    else
      let next := z.afterBlanks i
      let isWord (word : String) : Bool :=
        z.part i (i + word.length) == word.toList && !(z.at_ (i + word.length)).isAlphanum
      if i < next then
        loosen
        readValue z fuel depth next
      else if c == 't' then if isWord "true" then return .value .yes (i + 4) else wrongAt i
      else if c == 'f' then if isWord "false" then return .value .no (i + 5) else wrongAt i
      else if isWord "null" then return .value .null (i + 4)
      else
        match otherNumbers.find? fun (w, _) => z.hasWord i w && !(z.at_ (i + w.length)).isAlphanum with
        | some (w, j) =>
          loosen
          return .value j (i + w.length)
        | none => wrongAt i

def readItems (z : Letters) : Nat → Nat → Nat → List Json → Reader Found
  | 0, _, _, _ => return .wrong
  | fuel + 1, depth, i, found => do
    match ← readValue z fuel depth i with
    | .value j next =>
      let items := j :: found
      let k := z.skipSpaces next
      if z.at_ k == ',' then readItems z fuel depth (k + 1) items
      else if z.at_ k == ']' then return .value (.array items.reverse) (k + 1)
      else
        match ← readValue z fuel depth k with
        | .comma => readItems z fuel depth ((← get).mark + 1) items
        | .bracket => return .value (.array items.reverse) ((← get).mark + 1)
        | _ => wrongAt k
    | .bracket =>
      if !found.isEmpty then loosen
      return .value (.array found.reverse) ((← get).mark + 1)
    | x => failAfter x i

def readMembers (z : Letters) : Nat → Nat → Nat → List (Json.Text × Json) → Reader Found
  | 0, _, _, _ => return .wrong
  | fuel + 1, depth, i, found => do
    match ← readValue z fuel depth i with
    | .value (.text t) next => readMember z fuel depth next t found
    | .value _ _ => wrongAt i
    | .brace =>
      if !found.isEmpty then loosen
      return .value (.object found.reverse) ((← get).mark + 1)
    | x =>
      let j := z.afterBlanks i
      match readName? z j with
      | some (k, style) =>
        loosen
        readMember z fuel depth k ⟨style, z.part j k⟩ found
      | none => failAfter x j

def readMember (z : Letters) : Nat → Nat → Nat → Json.Text → List (Json.Text × Json) → Reader Found
  | 0, _, _, _, _ => return .wrong
  | fuel + 1, depth, i, label, found => do
    let k := z.skipSpaces i
    let start ← if z.at_ k == ':' then pure (some (k + 1)) else do
      match ← readValue z fuel depth k with
      | .colon => pure (some ((← get).mark + 1))
      | x =>
        discard (failAfter x k)
        pure none
    match start with
    | none => return .wrong
    | some start =>
      match ← readValue z fuel depth start with
      | .value j next =>
        let members := (label, j) :: found
        let k := z.skipSpaces next
        if z.at_ k == ',' then readMembers z fuel depth (k + 1) members
        else if z.at_ k == '\x7d' then return .value (.object members.reverse) (k + 1)
        else
          match ← readValue z fuel depth k with
          | .comma => readMembers z fuel depth ((← get).mark + 1) members
          | .brace => return .value (.object members.reverse) ((← get).mark + 1)
          | _ => wrongAt k
      | x => failAfter x start

end

def read (s : Octets) : Except Nat (Json × Bool) :=
  let z : Letters := (Characters.untilNul s).letters.toArray
  let (found, state) := (readValue z (4 * z.size + 16) 0 0).run {}
  match found with
  | .value j next =>
    let k := z.skipSpaces next
    if k = z.size then .ok (j, state.isLoose)
    else if z.afterBlanks k = z.size then .ok (j, true)
    else .error state.mark
  | _ => .error state.mark

end FormCompiler.Database.Json
