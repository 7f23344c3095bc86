import FormCompiler.Database.Function.Apply
import FormCompiler.Database.Schema.Basic
import FormCompiler.Database.Word

namespace FormCompiler.Database.Value

def ofReal (x : Float) : Value := if x.isNaN then .null else .real x

def ofDecimal (text : String) : Float := ((Decimal.read? text.toList).map Decimal.toReal).getD 0

def ofLiteral (negative : Bool) (text : String) : Value :=
  match text.toList with
  | '0' :: x :: digits =>
    if x == 'x' || x == 'X' then
      let n : Int := Int.bmod (Word.hexValue digits) (Text.Numeral.capacity 64)
      .integer (if negative then (if n = -(Nat.pow 2 63 : Int) then n else -n) else n)
    else decimal
  | _ => decimal
where
  decimal : Value :=
    let n : Int := Nat.ofDigitChars 10 text.toList 0
    let n := if negative then -n else n
    if decide (Text.Numeral.Fits 64 n) then .integer n
    else .real (if negative then -(ofDecimal text) else ofDecimal text)

def isTooLong (text : String) : Bool :=
  match text.toList with
  | '0' :: x :: digits => (x == 'x' || x == 'X') && decide (16 < (digits.dropWhile (· == '0')).length)
  | _ => false

def arithmetic (ints : Int → Int → Option Int) (reals : Float → Float → Float) (a b : Value) : Value :=
  match a.toNumber, b.toNumber with
  | .null, _ => .null
  | _, .null => .null
  | .integer m, .integer n =>
    match ints m n with
    | some k => if decide (Text.Numeral.Fits 64 k) then .integer k else ofReal (reals (Real.ofInt m) (Real.ofInt n))
    | none => .null
  | x, y => ofReal (reals x.toReal y.toReal)

def div (a b : Value) : Value :=
  match b.toNumber with
  | .null => .null
  | n => if n.toReal == 0 then .null else arithmetic (fun m n => some (Int.tdiv m n)) (· / ·) a b

def rem (a b : Value) : Value :=
  match a.toNumber, b.toNumber with
  | .null, _ => .null
  | _, .null => .null
  | x, y =>
    let n := b.toInteger
    if n = 0 then .null
    else
      let k := Int.tmod a.toInteger n
      match x, y with
      | .integer _, .integer _ => .integer k
      | _, _ => .real (Real.ofInt k)

def bits (f : Nat → Nat → Nat) (a b : Value) : Value :=
  if a.isNull || b.isNull then .null
  else .integer (Bytes.signed 64 (f (Bytes.unsigned 64 a.toInteger) (Bytes.unsigned 64 b.toInteger)))

def shift (a : Value) (by_ : Int) : Value :=
  let n := a.toInteger
  if 0 ≤ by_ then
    if 64 ≤ by_ then .integer 0
    else .integer (Bytes.signed 64 (Bytes.unsigned 64 n * Nat.pow 2 by_.toNat % Nat.pow 2 64))
  else if by_ ≤ -64 then .integer (if n < 0 then -1 else 0)
  else .integer (Int.fdiv n (Nat.pow 2 (-by_).toNat))

def negate (v : Value) : Value := arithmetic (fun m n => some (m - n)) (· - ·) (.integer 0) v

def concat (a b : Value) : Value := if a.isNull || b.isNull then .null else .text (a.toBytes ++ b.toBytes)

def cast (e : Encoding) (v : Value) (affinity : Affinity) : Value :=
  if v.isNull then .null
  else
    match affinity with
    | .none | .blob => .blob (v.toBlob e)
    | .text =>
      match v with
      | .blob b => .ofOctets (Characters.decode e b.toList)
      | v => .text v.toBytes
    | .integer => .integer v.toInteger
    | .real => .real v.toReal
    | .numeric =>
      match v with
      | .integer _ | .real _ => v
      | v => match v.toNumber with
        | .real x => asInteger x
        | n => n

def operate (op : BinaryOp) (x y : Value) : Value :=
  match op with
  | .add => arithmetic (fun m n => some (m + n)) (· + ·) x y
  | .sub => arithmetic (fun m n => some (m - n)) (· - ·) x y
  | .mul => arithmetic (fun m n => some (m * n)) (· * ·) x y
  | .div => x.div y
  | .rem => x.rem y
  | .concat => x.concat y
  | .bitAnd => bits Nat.land x y
  | .bitOr => bits Nat.lor x y
  | .shiftLeft => if x.isNull || y.isNull then .null else x.shift y.toInteger
  | .shiftRight => if x.isNull || y.isNull then .null else x.shift (-y.toInteger)
  | _ => .null

def holds (op : BinaryOp) (o : Ordering) : Bool :=
  match op with
  | .eq | .is => o == .eq
  | .ne | .isNot => o != .eq
  | .lt => o == .lt
  | .le => o != .gt
  | .gt => o == .gt
  | .ge => o != .lt
  | _ => false

def both (a b : Option Bool) : Option Bool :=
  match a, b with
  | some false, _ => some false
  | _, some false => some false
  | some true, some true => some true
  | _, _ => none

def either (a b : Option Bool) : Option Bool := (both (a.map (!·)) (b.map (!·))).map (!·)

end FormCompiler.Database.Value
