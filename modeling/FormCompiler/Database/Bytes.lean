import FormCompiler.Text.Octets

namespace FormCompiler.Bytes

variable (b : ByteArray)

def byte (i : Nat) : Nat := (b[i]?.getD 0).toNat

def number (i size : Nat) : Nat := (List.range size).foldl (fun n k => n * 256 + byte b (i + k)) 0

def word (i : Nat) : Nat := byte b i * 256 + byte b (i + 1)

def long (i : Nat) : Nat := word b i * 65536 + word b (i + 2)

def setByte (i n : Nat) : ByteArray := if h : i < b.size then b.set i n.toUInt8 h else b

def setWord (i n : Nat) : ByteArray := setByte (setByte b i (n / 256)) (i + 1) n

def setLong (i n : Nat) : ByteArray := setWord (setWord b i (n / 65536)) (i + 2) n

def zeros (n : Nat) : ByteArray := ⟨Array.replicate n 0⟩

def overlay (i : Nat) (part : ByteArray) : ByteArray :=
  if b.size < i then b else part.copySlice 0 b i (min part.size (b.size - i))

def move (source target count : Nat) : ByteArray := overlay b target (b.extract source (source + count))

def clear (i count : Nat) : ByteArray := overlay b i (zeros count)

def resize (n : Nat) : ByteArray :=
  if n ≤ b.size then b.extract 0 n else b ++ zeros (n - b.size)

def varint (b : ByteArray) (i : Nat) : Nat × Nat := go 8 0 0
where
  go : Nat → Nat → Nat → Nat × Nat
    | 0, n, k => (n * 256 + byte b (i + k), k + 1)
    | more + 1, n, k =>
      let c := byte b (i + k)
      if c < 128 then (n * 128 + c, k + 1) else go more (n * 128 + c % 128) (k + 1)

def groups : Nat → Nat → List UInt8 → List UInt8
  | 0, _, tail => tail
  | fuel + 1, n, tail =>
    if n = 0 then tail else groups fuel (n / 128) ((n % 128 + 128).toUInt8 :: tail)

def ofVarint (n : Nat) : List UInt8 :=
  if n < 0x100000000000000 then groups 8 (n / 128) [(n % 128).toUInt8]
  else
    let leading := (List.range 8).map fun k => (n / 256 / Nat.pow 128 (7 - k) % 128 + 128).toUInt8
    leading ++ [n.toUInt8]

def ofNumber (size n : Nat) : List UInt8 :=
  (List.range size).map fun k => (n / Nat.pow 256 (size - 1 - k)).toUInt8

def signed (bits n : Nat) : Int := if n < Nat.pow 2 (bits - 1) then n else (n : Int) - Nat.pow 2 bits

def unsigned (bits : Nat) (n : Int) : Nat := (n % (Nat.pow 2 bits : Int)).toNat

end FormCompiler.Bytes
