import FormCompiler.Database.Bytes

namespace FormCompiler.Database.Characters

def goesOn (b : UInt8) : Bool := b.toNat / 64 == 2

def tailLength (first : UInt8) (rest : Octets) : Nat :=
  if 0xC0 ≤ first.toNat then (rest.takeWhile goesOn).length else 0

def leadBits (n : Nat) : Nat :=
  if n < 0xE0 then n % 32 else if n < 0xF0 then n % 16 else if n < 0xF8 then n % 8 else if n < 0xFC then n % 4
  else if n < 0xFE then n % 2 else 0

def codeOf (first : UInt8) (tail : Octets) : Nat :=
  if first.toNat < 0xC0 then first.toNat
  else
    let c := tail.foldl (fun c b => (c * 64 + b.toNat % 64) % 0x100000000) (leadBits first.toNat)
    if c < 0x80 || c / 0x800 == 0x1B || c / 2 == 0x7FFF then 0xFFFD else c

def split : Octets → List Octets
  | [] => []
  | b :: rest => (b :: rest.take (tailLength b rest)) :: split (rest.drop (tailLength b rest))
termination_by s => s.length
decreasing_by simp only [List.length_drop, List.length_cons]; omega

def code : Octets → Nat
  | [] => 0
  | b :: tail => codeOf b tail

def codes (s : Octets) : List Nat := (split s).map code

def ofCode (c : Nat) : Octets :=
  let tail (k : Nat) : UInt8 := (0x80 + c / Nat.pow 64 k % 64).toUInt8
  if c < 0x80 then [c.toUInt8]
  else if c < 0x800 then [(0xC0 + c / 64 % 32).toUInt8, tail 0]
  else if c < 0x10000 then [(0xE0 + c / 4096 % 16).toUInt8, tail 1, tail 0]
  else [(0xF0 + c / 262144 % 8).toUInt8, tail 2, tail 1, tail 0]

def untilNul (s : Octets) : Octets := s.takeWhile (· != 0)

def upper (b : UInt8) : UInt8 := if 97 ≤ b.toNat && b.toNat ≤ 122 then b - 32 else b

def lower (b : UInt8) : UInt8 := if 65 ≤ b.toNat && b.toNat ≤ 90 then b + 32 else b

def encode (e : Encoding) (s : Octets) : Octets :=
  match e with
  | .utf8 => s
  | .utf16le => ((codes s).flatMap Encoding.units).flatMap fun u => [u.toUInt8, (u / 256).toUInt8]
  | .utf16be => ((codes s).flatMap Encoding.units).flatMap fun u => [(u / 256).toUInt8, u.toUInt8]

def ofUnits : List Nat → List Nat
  | [] => []
  | [u] => [u]
  | u :: v :: rest =>
    if 0xD800 ≤ u && u < 0xE000 then (v % 0x400 + u % 0x40 * 0x400 + (u / 0x40 % 0x10 + 1) * 0x10000) :: ofUnits rest
    else u :: ofUnits (v :: rest)

def unitsOf (isBig : Bool) : Octets → List Nat
  | a :: b :: rest => (if isBig then a.toNat * 256 + b.toNat else b.toNat * 256 + a.toNat) :: unitsOf isBig rest
  | _ => []

def decode (e : Encoding) (b : Octets) : Octets :=
  match e with
  | .utf8 => b
  | e => (ofUnits (unitsOf (e = .utf16be) b)).flatMap ofCode

end FormCompiler.Database.Characters
