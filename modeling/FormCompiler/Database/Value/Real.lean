import FormCompiler.Text.Numeral

namespace FormCompiler.Database.Real

variable (x : Float)

def parts? : Option (Bool × Nat × Int) :=
  let bits := x.toBits.toNat
  let exponent := bits / Nat.pow 2 52 % 2048
  let fraction := bits % Nat.pow 2 52
  if exponent = 2047 then none
  else if exponent = 0 then some (Nat.pow 2 63 ≤ bits, fraction, -1074)
  else some (Nat.pow 2 63 ≤ bits, fraction + Nat.pow 2 52, (exponent : Int) - 1075)

structure Pair where
  high : Float
  low : Float := 0

namespace Pair

def head (x : Float) : Float := Float.ofBits (x.toBits &&& 0xFFFFFFFFFC000000)

def mul (x : Pair) (y : Pair) : Pair :=
  let hx := head x.high
  let tx := x.high - hx
  let hy := head y.high
  let ty := y.high - hy
  let p := hx * hy
  let q := hx * ty + tx * hy
  let c := p + q
  let cc := p - c + q + tx * ty
  let cc := x.high * y.low + x.low * y.high + cc
  let high := c + cc
  ⟨high, c - high + cc⟩

def scale (goesOn : Float → Bool) (y : Pair) : Nat → Pair → Nat → Pair × Nat
  | 0, x, n => (x, n)
  | fuel + 1, x, n => if goesOn x.high then scale goesOn y fuel (x.mul y) (n + 1) else (x, n)

def times (y : Pair) : Nat → Pair → Pair
  | 0, x => x
  | n + 1, x => times y n (x.mul y)

def up100 : Pair := ⟨1.0e+100, -1.5902891109759918046e+83⟩
def up10 : Pair := ⟨1.0e+10, 0⟩
def up1 : Pair := ⟨1.0e+01, 0⟩
def down100 : Pair := ⟨1.0e-100, -1.99918998026028836196e-117⟩
def down10 : Pair := ⟨1.0e-10, -3.6432197315497741579e-27⟩
def down1 : Pair := ⟨1.0e-01, -5.5511151231257827021e-18⟩

def whole (x : Pair) : Nat :=
  if x.low < 0 then x.high.toUInt64.toNat - (-x.low).toUInt64.toNat
  else x.high.toUInt64.toNat + x.low.toUInt64.toNat

end Pair

def scaled : Nat × Int :=
  let start : Pair := ⟨x, 0⟩
  if 9.223372036854774784e+18 < x then
    let (p, a) := Pair.scale (9.223372036854774784e+118 < ·) .down100 400 start 0
    let (p, b) := Pair.scale (9.223372036854774784e+28 < ·) .down10 400 p 0
    let (p, c) := Pair.scale (9.223372036854774784e+18 < ·) .down1 400 p 0
    (p.whole, 100 * a + 10 * b + c)
  else
    let (p, a) := Pair.scale (· < 9.223372036854774784e-83) .up100 400 start 0
    let (p, b) := Pair.scale (· < 9.223372036854774784e+07) .up10 400 p 0
    let (p, c) := Pair.scale (· < 9.22337203685477478e+17) .up1 400 p 0
    (p.whole, -(100 * a + 10 * b + c : Int))

structure Digits where
  isNegative : Bool := false
  digits : List Char := ['0']
  point : Int := 1

namespace Digits

def increment (ds : List Char) : List Char × Bool :=
  let n := Nat.ofDigitChars 10 ds 0 + 1
  let more := Text.Numeral.digits n
  let padded := List.replicate (ds.length - more.length) '0' ++ more
  (padded, ds.length < padded.length)

def cut (d : Digits) (n : Nat) : Digits :=
  let kept := d.digits.take n
  if d.digits[n]?.any ('5' ≤ ·) then
    let (kept, grows) := increment kept
    { d with digits := kept, point := if grows then d.point + 1 else d.point }
  else { d with digits := kept }

def round (d : Digits) (by_ : Int) (most : Nat) : Digits :=
  let (d, wanted) : Digits × Int :=
    if 0 < by_ then (d, by_)
    else if d.point - by_ = 0 && d.digits.head?.any ('5' ≤ ·) then
      ({ d with digits := '0' :: d.digits, point := d.point + 1 }, 1)
    else (d, d.point - by_)
  if 0 < wanted && (wanted < d.digits.length || most < d.digits.length) then d.cut (min wanted.toNat most) else d

def trim (d : Digits) : Digits := { d with digits := (d.digits.reverse.dropWhile (· == '0')).reverse }

def ofReal (x : Float) (by_ : Int) (most : Nat) : Digits :=
  if x == 0 then {}
  else
    let (n, e) := scaled x.abs
    let ds := Text.Numeral.digits n
    trim (round { isNegative := x < 0, digits := ds, point := ds.length + e } by_ most)

end Digits

def exponentText (letter : Char) (n : Int) : List Char :=
  let digits := Text.Numeral.digits n.natAbs
  letter :: (if n < 0 then '-' else '+') :: (if n.natAbs < 10 then '0' :: digits else digits)

def positional (digits : List Char) (place : Int) : List Char × List Char :=
  if place < 0 then (['0'], List.replicate (-place - 1).toNat '0' ++ digits)
  else
    let whole := place.toNat + 1
    (digits.take whole ++ List.replicate (whole - digits.length) '0', digits.drop whole)

def text : List Char :=
  if x.isNaN then "NaN".toList
  else if x.isInf then (if x < 0 then "-Inf" else "Inf").toList
  else
    let d := Digits.ofReal x 15 26
    let place := d.point - 1
    let withPoint (whole rest : List Char) : List Char := whole ++ '.' :: (if rest.isEmpty then ['0'] else rest)
    let shown :=
      if place < -4 || 14 < place then withPoint (d.digits.take 1) (d.digits.drop 1) ++ exponentText 'e' place
      else
        let (whole, rest) := positional d.digits place
        withPoint whole rest
    if d.isNegative then '-' :: shown else shown

def largest : Nat := Nat.pow 2 64 - 1

def significand (whole places : List Char) : Nat × Int :=
  let limit := (largest - 9) / 10
  let (s, d) := whole.foldl (fun ((s, d) : Nat × Int) c => if limit ≤ s then (s, d + 1)
    else (10 * s + (c.toNat - 48), d)) (0, 0)
  places.foldl (fun ((s, d) : Nat × Int) c => if s < limit then (10 * s + (c.toNat - 48), d - 1) else (s, d)) (s, d)

def absorb : Nat → Nat → Int → Nat × Int
  | 0, s, e => (s, e)
  | fuel + 1, s, e =>
    if 0 < e && s < (largest - 0x7FF) / 10 then absorb fuel (10 * s) (e - 1)
    else if e < 0 && s % 10 = 0 then absorb fuel (s / 10) (e + 1)
    else (s, e)

def ofScaled (s : Nat) (e : Int) : Float :=
  let (s, e) := if s = 0 then (0, 0) else absorb 40 s e
  let high := s.toUInt64.toFloat
  if e = 0 then high
  else
    let back := high.toUInt64.toNat
    let low : Float := if back ≤ s then (s - back).toUInt64.toFloat else -(back - s).toUInt64.toFloat
    let p : Pair := ⟨high, low⟩
    let n := e.natAbs
    let p := if 0 < e then
        ((p |> Pair.times .up100 (n / 100)) |> Pair.times .up10 (n % 100 / 10)) |> Pair.times .up1 (n % 10)
      else ((p |> Pair.times .down100 (n / 100)) |> Pair.times .down10 (n % 100 / 10)) |> Pair.times .down1 (n % 10)
    let x := p.high + p.low
    if x.isNaN then 1.0e300 * 1.0e300 else x

def ofDigits (negative : Bool) (whole places : List Char) (exponent : Int) : Float :=
  let (s, d) := significand whole places
  let x := ofScaled s (exponent + d)
  if negative then -x else x

def magnitude (num den : Nat) : Int :=
  let guess : Int := ((Text.Numeral.digits num).length : Int) - (Text.Numeral.digits den).length
  let reaches : Bool := if 0 ≤ guess then den * Nat.pow 10 guess.toNat ≤ num else den ≤ num * Nat.pow 10 (-guess).toNat
  if reaches then guess else guess - 1

def leading (num den n : Nat) : Nat × Int :=
  let place := magnitude num den
  let shift := (n : Int) - 1 - place
  let num := if 0 ≤ shift then num * Nat.pow 10 shift.toNat else num
  let den := if 0 ≤ shift then den else den * Nat.pow 10 (-shift).toNat
  let q := (2 * num + den) / (2 * den)
  if q < Nat.pow 10 n then (q, place) else (q / 10, place + 1)

def nearest (mantissa : Nat) (exponent : Int) : Float :=
  if 0 ≤ exponent then Float.ofScientific mantissa false (min exponent.toNat 400)
  else Float.ofScientific mantissa true (-exponent).toNat

def shortestFrom (x : Float) (num den : Nat) : Nat → Nat → Nat × Int
  | 0, n => leading num den n
  | more + 1, n =>
    let (q, place) := leading num den n
    if nearest q (place - n + 1) == x then (q, place) else shortestFrom x num den more (n + 1)

def shortest : String :=
  match parts? x with
  | none => if x.isNaN then "NaN" else if x < 0 then "-Inf" else "+Inf"
  | some (negative, 0, _) => if negative then "-0" else "0"
  | some (negative, m, e) =>
    let (q, place) := shortestFrom x.abs (m * Nat.pow 2 e.toNat) (Nat.pow 2 (-e).toNat) 16 1
    let digits := ((Text.Numeral.digits q).reverse.dropWhile (· == '0')).reverse
    let join (whole rest : List Char) : List Char := if rest.isEmpty then whole else whole ++ '.' :: rest
    let shown :=
      if place < -4 || 5 < place then join (digits.take 1) (digits.drop 1) ++ exponentText 'e' place
      else
        let (whole, rest) := positional digits place
        join whole rest
    String.ofList (if negative then '-' :: shown else shown)

def integer? : Option Int :=
  match parts? x with
  | none => none
  | some (negative, m, e) =>
    let whole := if 0 ≤ e then m * Nat.pow 2 e.toNat else m / Nat.pow 2 (-e).toNat
    let isWhole : Bool := 0 ≤ e || m % Nat.pow 2 (-e).toNat == 0
    let n : Int := if negative then -whole else whole
    if isWhole && decide (Text.Numeral.Fits 64 n) then some n else none

def truncate : Int :=
  match parts? x with
  | none => if x.isNaN then 0 else if x < 0 then -(Nat.pow 2 63 : Int) else Nat.pow 2 63 - 1
  | some (negative, m, e) =>
    let whole : Int := if 0 ≤ e then m * Nat.pow 2 e.toNat else (m / Nat.pow 2 (-e).toNat : Nat)
    max (-(Nat.pow 2 63 : Int)) (min (Nat.pow 2 63 - 1) (if negative then -whole else whole))

def ofInt (n : Int) : Float := (Int64.ofInt n).toFloat

def compareInt (n : Int) (x : Float) : Ordering :=
  match parts? x with
  | none => if x.isNaN then .gt else if x < 0 then .gt else .lt
  | some (negative, m, e) =>
    let m : Int := if negative then -(m : Int) else m
    if 0 ≤ e then compare n (m * Nat.pow 2 e.toNat) else compare (n * Nat.pow 2 (-e).toNat) m

end FormCompiler.Database.Real
