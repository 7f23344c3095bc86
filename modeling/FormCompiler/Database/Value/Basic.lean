import FormCompiler.Database.Value.Characters
import FormCompiler.Database.Value.Real

namespace FormCompiler.Database

inductive Value where
  | null
  | integer (n : Int)
  | real (x : Float)
  | text (s : ByteArray)
  | blob (b : ByteArray)
  deriving Inhabited

inductive Affinity where
  | none
  | blob
  | text
  | numeric
  | integer
  | real
  deriving DecidableEq, Inhabited

inductive Collation where
  | binary
  | noCase
  | rightTrim
  deriving DecidableEq, Inhabited

def compareOctets : Octets → Octets → Ordering
  | [], [] => .eq
  | [], _ => .lt
  | _, [] => .gt
  | x :: a, y :: b => if x = y then compareOctets a b else compare x y

def compareBytes (a b : ByteArray) : Ordering := compareOctets a.data.toList b.data.toList

namespace Collation

def ofName? (name : String) : Option Collation :=
  [("binary", binary), ("nocase", noCase), ("rtrim", rightTrim)].lookup (name.map Char.toLower)

def compareIn (e : Encoding) (a b : ByteArray) : Ordering :=
  match e with
  | .utf8 => compareBytes a b
  | e => compareBytes (Characters.encode e a.toList).toByteArray (Characters.encode e b.toList).toByteArray

def compareLetters (a b : ByteArray) : Ordering := go (min a.size b.size) 0
where
  go : Nat → Nat → Ordering
    | 0, _ => compare a.size b.size
    | n + 1, i =>
      let x := Characters.lower (a[i]?.getD 0)
      let y := Characters.lower (b[i]?.getD 0)
      if x != y then compare x.toNat y.toNat
      else if x = 0 then compare a.size b.size
      else go n (i + 1)

def trimmed (s : ByteArray) : ByteArray := (s.toList.reverse.dropWhile (· == 32)).reverse.toByteArray

def compare (c : Collation) (e : Encoding) (a b : ByteArray) : Ordering :=
  match c with
  | binary => compareIn e a b
  | noCase => compareLetters a b
  | rightTrim => compareIn e (trimmed a) (trimmed b)

end Collation

structure Decimal where
  isNegative : Bool := false
  whole : List Char := []
  places : List Char := []
  exponent : Int := 0
  isInteger : Bool := true
  isAll : Bool := true

namespace Decimal

def isBlank (c : Char) : Bool := c = ' ' || (9 ≤ c.toNat && c.toNat ≤ 13)

def readExponent (cs : List Char) : Option (Int × List Char) :=
  match cs with
  | e :: rest =>
    if e != 'e' && e != 'E' then none
    else
      let (negative, rest) := match rest with
        | '-' :: rest => (true, rest)
        | '+' :: rest => (false, rest)
        | rest => (false, rest)
      let digits := rest.takeWhile Char.isDigit
      if digits.isEmpty then none
      else
        let n : Nat := digits.foldl (fun n c => if n < 10000 then 10 * n + (c.toNat - 48) else 10000) 0
        some (if negative then -(n : Int) else n, rest.drop digits.length)
  | [] => none

def read? (cs : List Char) : Option Decimal :=
  let cs := cs.dropWhile isBlank
  let (isNegative, cs) := match cs with
    | '-' :: rest => (true, rest)
    | '+' :: rest => (false, rest)
    | rest => (false, rest)
  let whole := cs.takeWhile Char.isDigit
  let rest := cs.drop whole.length
  let (places, rest, hasPoint) := match rest with
    | '.' :: more =>
      let places := more.takeWhile Char.isDigit
      (places, more.drop places.length, true)
    | rest => ([], rest, false)
  if whole.isEmpty && places.isEmpty then none
  else
    let isEnd (rest : List Char) : Bool := rest.all isBlank
    match readExponent rest with
    | some (e, rest) => some { isNegative, whole, places, exponent := e, isInteger := false, isAll := isEnd rest }
    | none => some { isNegative, whole, places, isInteger := !hasPoint, isAll := isEnd rest }

def toReal (d : Decimal) : Float := Real.ofDigits d.isNegative d.whole d.places d.exponent

def wholePart (d : Decimal) : Int :=
  let n : Int := Nat.ofDigitChars 10 d.whole 0
  if d.isNegative then -n else n

def toInteger? (d : Decimal) : Option Int :=
  if d.isInteger && decide (Text.Numeral.Fits 64 d.wholePart) then some d.wholePart else none

def toValue (d : Decimal) : Value :=
  match d.toInteger? with
  | some n => .integer n
  | none => .real d.toReal

end Decimal

namespace Value

def ofString (s : String) : Value := .text s.toUTF8

def ofOctets (s : Octets) : Value := .text s.toByteArray

def ofLetters (cs : List Char) : Value := .text (Octets.ofLetters cs).toByteArray

def asInteger (x : Float) : Value :=
  match Real.integer? x with
  | some n => if n.natAbs < Nat.pow 2 63 - 1 then .integer n else .real x
  | none => .real x

def toBytes : Value → ByteArray
  | null => .empty
  | integer n => (Text.Numeral.ofInt n).toUTF8
  | real x => (Octets.ofLetters (Real.text x)).toByteArray
  | text s => s
  | blob b => b

def octets (v : Value) : Octets := v.toBytes.toList

def letters (v : Value) : List Char := v.octets.letters

def toText (v : Value) : String := v.octets.text

def toNumber : Value → Value
  | null => null
  | integer n => integer n
  | real x => real x
  | v => (Decimal.read? v.letters).elim (integer 0) Decimal.toValue

def toInteger : Value → Int
  | null => 0
  | integer n => n
  | real x => Real.truncate x
  | v =>
    match Decimal.read? v.letters with
    | some d => max (-(Nat.pow 2 63 : Int)) (min (Nat.pow 2 63 - 1) d.wholePart)
    | none => 0

def toReal : Value → Float
  | null => 0
  | integer n => Real.ofInt n
  | real x => x
  | v => (Decimal.read? v.letters).elim 0 Decimal.toReal

def truth? : Value → Option Bool
  | null => none
  | integer n => some (n != 0)
  | v => some (v.toReal != 0)

def ofTruth : Option Bool → Value
  | none => null
  | some b => integer (if b then 1 else 0)

def isNull : Value → Bool
  | null => true
  | _ => false

def isBlob : Value → Bool
  | blob _ => true
  | _ => false

def asNumber (v : Value) : Value :=
  match v with
  | text s =>
    match Decimal.read? (Octets.letters s.toList) with
    | some d => if d.isAll then (match d.toValue with | real x => asInteger x | n => n) else v
    | none => v
  | v => v

def apply (v : Value) : Affinity → Value
  | .none | .blob => v
  | .text =>
    match v with
    | integer _ | real _ => text v.toBytes
    | v => v
  | .numeric | .integer =>
    match v with
    | real x => asInteger x
    | v => v.asNumber
  | .real =>
    match v.asNumber with
    | integer n => real (Real.ofInt n)
    | v => v

def rank : Value → Nat
  | null => 0
  | integer _ | real _ => 1
  | text _ => 2
  | blob _ => 3

def order (c : Collation) (e : Encoding) : Value → Value → Ordering
  | integer a, integer b => compare a b
  | integer a, real b => Real.compareInt a b
  | real a, integer b => (Real.compareInt b a).swap
  | real a, real b => if a < b then .lt else if b < a then .gt else .eq
  | text a, text b => c.compare e a b
  | blob a, blob b => compareBytes a b
  | a, b => compare a.rank b.rank

def isSame : Value → Value → Bool
  | null, null => true
  | integer a, integer b => a == b
  | real a, real b => a.toBits == b.toBits
  | text a, text b => a == b
  | blob a, blob b => a == b
  | _, _ => false

def toBlob (e : Encoding) : Value → ByteArray
  | blob b => b
  | v => (Characters.encode e v.octets).toByteArray

end Value

end FormCompiler.Database
