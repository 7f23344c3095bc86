namespace FormCompiler

abbrev Octets := List UInt8

namespace Octets

def ofString (s : String) : Octets := s.toUTF8.data.toList

def letters (s : Octets) : List Char := s.map fun b => Char.ofNat b.toNat

def ofLetters (cs : List Char) : Octets := cs.map Char.toUInt8

/-- The character that an octet starts, and how many of those behind it belong to it. Each character
has one form only. -/
def character? (b : UInt8) (rest : Octets) : Option (Char × Nat) :=
  ((b :: rest.take 3).toByteArray.utf8DecodeChar? 0).map fun c => (c, c.utf8Size - 1)

def characters : Octets → List (Except UInt8 Char)
  | [] => []
  | b :: rest =>
    match character? b rest with
    | some (c, more) => .ok c :: characters (rest.drop more)
    | none => .error b :: characters rest
termination_by s => s.length
decreasing_by all_goals simp only [List.length_drop, List.length_cons]; omega

def text (s : Octets) : String :=
  String.ofList (s.characters.map fun
    | .ok c => c
    | .error _ => Char.ofNat 0xFFFD)

def cut (sep : Char) (s : Octets) : Octets × Option Octets :=
  let before := s.takeWhile (· != sep.toUInt8)
  (before, (s.drop before.length).tail?)

def pieces (sep : Char) : Octets → List Octets
  | [] => [[]]
  | b :: rest =>
    let more := pieces sep rest
    if b = sep.toUInt8 then [] :: more else (b :: more.headD []) :: more.tail

def hexValue? (b : UInt8) : Option UInt8 :=
  let n := b.toNat
  if 48 ≤ n && n ≤ 57 then some (b - 48)
  else if 65 ≤ n && n ≤ 70 then some (b - 55)
  else if 97 ≤ n && n ≤ 102 then some (b - 87)
  else none

def escaped? (a b : UInt8) : Option UInt8 := do
  let high ← hexValue? a
  let low ← hexValue? b
  return 16 * high + low

end Octets

inductive Encoding where
  | utf8
  | utf16le
  | utf16be
  deriving DecidableEq

namespace Encoding

def units (n : Nat) : List Nat :=
  if n < 0x10000 then [n] else [0xD800 + (n - 0x10000) / 0x400 % 0x400, 0xDC00 + (n - 0x10000) % 0x400]

end Encoding

end FormCompiler
