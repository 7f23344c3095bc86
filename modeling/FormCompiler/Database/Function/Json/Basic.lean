import FormCompiler.Database.Value.Characters

namespace FormCompiler.Database

inductive Json.Style where
  | plain
  | escaped
  | loose
  | raw
  deriving DecidableEq

structure Json.Text where
  style : Json.Style
  letters : List Char
  deriving DecidableEq

inductive Json where
  | null
  | yes
  | no
  | number (isReal isLoose : Bool) (letters : List Char)
  | text (t : Json.Text)
  | array (items : List Json)
  | object (members : List (Json.Text × Json))

namespace Json

def Style.number : Style → Nat
  | plain => 7
  | escaped => 8
  | loose => 9
  | raw => 10

def kind : Json → Nat
  | null => 0
  | yes => 1
  | no => 2
  | number isReal isLoose _ => 3 + (if isLoose then 1 else 0) + (if isReal then 2 else 0)
  | text t => t.style.number
  | array _ => 11
  | object _ => 12

def typeName : Json → String
  | null => "null"
  | yes => "true"
  | no => "false"
  | number isReal _ _ => if isReal then "real" else "integer"
  | text _ => "text"
  | array _ => "array"
  | object _ => "object"

def isContainer : Json → Bool
  | array _ | object _ => true
  | _ => false

def headLength (size : Nat) : Nat := if size ≤ 11 then 1 else if size ≤ 0xFF then 2 else if size ≤ 0xFFFF then 3 else 5

def head (kind size : Nat) : List UInt8 :=
  if size ≤ 11 then [(kind + 16 * size).toUInt8]
  else
    let n := headLength size
    (kind + 16 * (if n = 2 then 12 else if n = 3 then 13 else 14)).toUInt8 :: Bytes.ofNumber (n - 1) size

mutual

def size : Json → Nat
  | number _ _ letters => letters.length
  | text t => t.letters.length
  | array items => sizeOfItems items
  | object members => sizeOfMembers members
  | _ => 0

def sizeOfItems : List Json → Nat
  | [] => 0
  | j :: rest => headLength (size j) + size j + sizeOfItems rest

def sizeOfMembers : List (Json.Text × Json) → Nat
  | [] => 0
  | (t, j) :: rest =>
    headLength t.letters.length + t.letters.length + (headLength (size j) + size j) + sizeOfMembers rest

end

def fullSize (j : Json) : Nat := headLength j.size + j.size

mutual

def bytes : Json → List UInt8
  | number isReal isLoose letters => head (kind (.number isReal isLoose letters)) letters.length ++
    Octets.ofLetters letters
  | text t => head t.style.number t.letters.length ++ Octets.ofLetters t.letters
  | array items =>
    let b := bytesOfItems items
    head 11 b.length ++ b
  | object members =>
    let b := bytesOfMembers members
    head 12 b.length ++ b
  | j => head j.kind 0

def bytesOfItems : List Json → List UInt8
  | [] => []
  | j :: rest => bytes j ++ bytesOfItems rest

def bytesOfMembers : List (Json.Text × Json) → List UInt8
  | [] => []
  | (t, j) :: rest =>
    head t.style.number t.letters.length ++ Octets.ofLetters t.letters ++ bytes j ++ bytesOfMembers rest

end

def readHead (b : ByteArray) (i : Nat) : Option (Nat × Nat × Nat) :=
  let first := Bytes.byte b i
  let wide (n : Nat) : Option (Nat × Nat × Nat) :=
    if b.size ≤ i + n then none else some (first % 16, n + 1, Bytes.number b (i + 1) n)
  let found := match first / 16 with
    | 12 => wide 1
    | 13 => wide 2
    | 14 => wide 4
    | 15 => if Bytes.number b (i + 1) 4 = 0 then wide 8 else none
    | n => if i < b.size then some (first % 16, 1, n) else none
  found.filter fun (_, n, size) => i + n + size ≤ b.size

def isBytes (b : ByteArray) : Bool :=
  (readHead b 0).any fun (kind, n, size) => kind ≤ 12 && n + size == b.size && (2 < kind || size == 0)

def styleOf? : Nat → Option Style
  | 7 => some .plain
  | 8 => some .escaped
  | 9 => some .loose
  | 10 => some .raw
  | _ => none

mutual

def valueIn (b : ByteArray) : Nat → Nat → Option (Json × Nat)
  | 0, _ => none
  | fuel + 1, i => do
    let (kind, n, size) ← readHead b i
    let stop := i + n + size
    let letters := Octets.letters (b.extract (i + n) stop).toList
    match kind with
    | 0 => return (.null, stop)
    | 1 => return (.yes, stop)
    | 2 => return (.no, stop)
    | 11 => return (.array (← itemsIn b fuel (i + n) stop), stop)
    | 12 => return (.object (← membersIn b fuel (i + n) stop), stop)
    | k =>
      match styleOf? k with
      | some style => return (.text ⟨style, letters⟩, stop)
      | none => if k < 7 && !letters.isEmpty then return (.number (4 < k) (k % 2 = 0) letters, stop) else none

def itemsIn (b : ByteArray) : Nat → Nat → Nat → Option (List Json)
  | 0, _, _ => none
  | fuel + 1, i, stop =>
    if i = stop then some []
    else do
      let (j, next) ← valueIn b fuel i
      if stop < next then none
      return j :: (← itemsIn b fuel next stop)

def membersIn (b : ByteArray) : Nat → Nat → Nat → Option (List (Json.Text × Json))
  | 0, _, _ => none
  | fuel + 1, i, stop =>
    if i = stop then some []
    else do
      let (k, next) ← valueIn b fuel i
      let (j, last) ← valueIn b fuel next
      if stop < last then none
      match k with
      | .text t => return (t, j) :: (← membersIn b fuel last stop)
      | _ => none

end

def ofBytes? (b : ByteArray) : Option Json := ((valueIn b (2 * b.size + 2) 0).filter fun r => r.2 == b.size).map (·.1)

end Json

end FormCompiler.Database
