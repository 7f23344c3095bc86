import FormCompiler.Database.Value.Basic

namespace FormCompiler.Database.Row

def lengthOf (kind : Nat) : Nat :=
  match kind with
  | 0 | 8 | 9 | 10 | 11 => 0
  | 1 => 1
  | 2 => 2
  | 3 => 3
  | 4 => 4
  | 5 => 6
  | 6 | 7 => 8
  | n => (n - 12) / 2

def value (e : Encoding) (b : ByteArray) (kind i : Nat) : Value :=
  let size := lengthOf kind
  match kind with
  | 0 | 10 | 11 => .null
  | 8 => .integer 0
  | 9 => .integer 1
  | 7 =>
    let x := Float.ofBits (Bytes.number b i 8).toUInt64
    if x.isNaN then .null else .real x
  | n =>
    if n < 7 then .integer (Bytes.signed (8 * size) (Bytes.number b i size))
    else
      let part := b.extract i (i + size)
      if n % 2 = 0 then .blob part
      else .text (if e = .utf8 then part else (Characters.decode e part.toList).toByteArray)

def read? (e : Encoding) (b : ByteArray) (count : Nat) : Option (Array Value) :=
  let (header, start) := Bytes.varint b 0
  if 98307 < header || b.size < header then none
  else go header count start header #[]
where
  go (header : Nat) : Nat → Nat → Nat → Array Value → Option (Array Value)
    | 0, _, _, values => some values
    | more + 1, at_, offset, values =>
      if header ≤ at_ then some values
      else
        let (kind, n) := Bytes.varint b at_
        let next := offset + lengthOf kind
        if b.size < next || (header ≤ at_ + n && (header < at_ + n || next != b.size)) then none
        else go header more (at_ + n) next (values.push (value e b kind offset))

def integerKind (n : Int) : Nat :=
  let fits (bits : Nat) : Bool := decide (Text.Numeral.Fits bits n)
  if n = 0 then 8 else if n = 1 then 9 else if fits 8 then 1 else if fits 16 then 2 else if fits 24 then 3
  else if fits 32 then 4 else if fits 48 then 5 else 6

def encode (e : Encoding) : Value → Nat × ByteArray
  | .null => (0, .empty)
  | .integer n =>
    let kind := integerKind n
    (kind, (Bytes.ofNumber (lengthOf kind) (Bytes.unsigned 64 n)).toByteArray)
  | .real x => (7, (Bytes.ofNumber 8 x.toBits.toNat).toByteArray)
  | .text s =>
    let b := if e = .utf8 then s else (Characters.encode e s.toList).toByteArray
    (13 + 2 * b.size, b)
  | .blob b => (12 + 2 * b.size, b)

def write (e : Encoding) (values : List Value) : ByteArray :=
  let parts := values.map (encode e)
  let kinds := parts.flatMap fun p => Bytes.ofVarint p.1
  let n := kinds.length
  let size := if n + 1 < 128 then n + 1 else n + 2
  parts.foldl (fun b p => b ++ p.2) (Bytes.ofVarint size ++ kinds).toByteArray

end FormCompiler.Database.Row
