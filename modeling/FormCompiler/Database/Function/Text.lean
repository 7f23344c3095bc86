import FormCompiler.Database.Value.Basic

namespace FormCompiler.Database.Function

open Characters

def short (n : Int) : Int := Int.bmod n (Nat.pow 2 32)

def length (s : Octets) : Nat := (split (untilNul s)).length

def window (length : Nat) (start : Int) (count : Int) : Nat × Nat :=
  let takesBack := count < 0
  let count : Int := count.natAbs
  let (start, count) :=
    if start < 0 then
      let s := start + length
      if s < 0 then (0, max 0 (count + s)) else (s, count)
    else if 0 < start then (start - 1, count)
    else (0, if 0 < count then count - 1 else count)
  let (start, count) :=
    if takesBack then
      let s := start - count
      if s < 0 then (0, max 0 (count + s)) else (s, count)
    else (start, count)
  (start.toNat, count.toNat)

def maxLength : Nat := 1000000000

def substring (v : Value) (start : Int) (count : Option Int) : Value :=
  let count := (count.map short).getD maxLength
  match v with
  | .blob b =>
    let (skip, take) := window b.size (short start) count
    .blob (b.extract skip (skip + take))
  | v =>
    let all := split (untilNul v.octets)
    let (skip, take) := window all.length (short start) count
    .ofOctets ((all.drop skip).take take).flatten

def position (needle : Octets) (isText : Bool) : Nat → Octets → Nat → Nat
  | 0, _, _ => 0
  | fuel + 1, s, n =>
    if needle.isPrefixOf s then n
    else
      match s with
      | [] => 0
      | _ :: rest => position needle isText fuel (if isText then rest.dropWhile goesOn else rest) (n + 1)

def positionOf (hay needle : Value) : Nat :=
  match hay, needle with
  | .blob a, .blob b => position b.toList false (a.size + 1) a.toList 1
  | hay, needle => position needle.octets true (hay.octets.length + 1) hay.octets 1

def replaceAll (old new : Octets) : Nat → Octets → Octets → Octets
  | 0, s, done => done.reverse ++ s
  | _, [], done => done.reverse
  | fuel + 1, b :: rest, done =>
    if old.isPrefixOf (b :: rest) then replaceAll old new fuel ((b :: rest).drop old.length) (new.reverse ++ done)
    else replaceAll old new fuel rest (b :: done)

def replace (v old new : Value) : Value :=
  if old.octets.head?.getD 0 = 0 then v
  else .ofOctets (replaceAll old.octets new.octets (v.octets.length + 1) v.octets [])

def trimFront (set : List Octets) : Nat → Octets → Octets
  | 0, s => s
  | fuel + 1, s =>
    match set.find? fun c => !s.isEmpty && c.isPrefixOf s with
    | some c => trimFront set fuel (s.drop c.length)
    | none => s

def trim (front back : Bool) (s set : Octets) : Octets :=
  let chars := split (untilNul set)
  let s := if front then trimFront chars s.length s else s
  if back then (trimFront (chars.map List.reverse) s.length s.reverse).reverse else s

def hex (b : ByteArray) : List Char := (b.toList.flatMap Text.Numeral.byteHex).map Char.toUpper

def unhex (pass : List Nat) : Nat → Octets → Option Octets
  | 0, _ => none
  | _, [] => some []
  | fuel + 1, b :: rest =>
    match Octets.hexValue? b with
    | some high =>
      match rest with
      | c :: rest =>
        match Octets.hexValue? c with
        | some low => (unhex pass fuel rest).map ((16 * high + low) :: ·)
        | none => none
      | [] => none
    | none =>
      let n := tailLength b rest
      if pass.contains (codeOf b (rest.take n)) then unhex pass fuel (rest.drop n) else none

def quoteText (s : Octets) : Octets := [39] ++ (untilNul s).flatMap (fun b => if b = 39 then [b, b] else [b]) ++ [39]

def soundOf (b : UInt8) : Nat :=
  let codes := [0, 1, 2, 3, 0, 1, 2, 0, 0, 2, 2, 4, 5, 5, 0, 1, 2, 6, 2, 3, 0, 1, 0, 2, 0, 2]
  let n := (upper (b % 128)).toNat
  if 65 ≤ n && n ≤ 90 then codes.getD (n - 65) 0 else 0

def sounds (before : Nat) : Octets → List Nat
  | [] => []
  | b :: rest =>
    let n := soundOf b
    if 0 < n && n != before then n :: sounds n rest else sounds (if n = 0 then 0 else before) rest

def soundex (s : Octets) : List Char :=
  let isLetter (b : UInt8) : Bool := 97 ≤ (lower b).toNat && (lower b).toNat ≤ 122
  match (untilNul s).dropWhile (!isLetter ·) with
  | [] => "?000".toList
  | b :: rest =>
    let found := ((sounds (soundOf b) (b :: rest)).take 3).map Nat.digitChar
    Char.ofNat (upper b).toNat :: found ++ List.replicate (3 - found.length) '0'

def ofNumbers (ns : List Int) : Octets :=
  ns.flatMap fun n => ofCode (if n < 0 || 0x10FFFF < n then 0xFFFD else n.toNat)

def typeName : Value → String
  | .null => "null"
  | .integer _ => "integer"
  | .real _ => "real"
  | .text _ => "text"
  | .blob _ => "blob"

end FormCompiler.Database.Function
