import FormCompiler.Database.Function.Format

namespace FormCompiler.Database.Function

def numeric? (v : Value) : Option Value :=
  match v with
  | .integer _ | .real _ => some v
  | .text s =>
    match Decimal.read? (Octets.letters s.toList) with
    | some d => if d.isAll then some d.toValue else none
    | none => none
  | _ => none

def ofFloat (x : Float) : Value := if x.isNaN then .null else .real x

variable (f : Float → Float) (v : Value)

def map : Value := (numeric? v).elim .null fun n => ofFloat (f n.toReal)

def map2 (f : Float → Float → Float) (a b : Value) : Value :=
  match numeric? a, numeric? b with
  | some m, some n => ofFloat (f m.toReal n.toReal)
  | _, _ => .null

def whole : Value :=
  match numeric? v with
  | some (.real x) => ofFloat (f x)
  | some n => n
  | none => .null

def truncated (x : Float) : Float := if x < 0 then x.ceil else x.floor

def sign (v : Value) : Value :=
  (numeric? v).elim .null fun n => .integer (if n.toReal < 0 then -1 else if 0 < n.toReal then 1 else 0)

def remainder (x y : Float) : Float :=
  match Real.parts? x, Real.parts? y with
  | some (negative, m, e), some (_, n, f) =>
    if n = 0 then 0 / 0
    else
      let low := min e f
      let rest := (m * Nat.pow 2 (e - low).toNat) % (n * Nat.pow 2 (f - low).toNat)
      let r := scaleDown rest low
      if negative then -r else r
  | some _, none => if y.isNaN then y else x
  | none, _ => 0 / 0
where
  /-- A number times a power of two. It has no more digits than a real number. -/
  scaleDown (n : Nat) (e : Int) : Float :=
    if n = 0 then 0
    else
      let extra := n.log2 - 52
      Float.scaleB (n / Nat.pow 2 extra).toUInt64.toFloat (e + extra)

def logarithm (base x : Value) : Value :=
  match numeric? base with
  | none => .null
  | some b =>
    let b := b.toReal
    let x := x.toReal
    if b ≤ 0 || b.log ≤ 0 || x ≤ 0 then .null else ofFloat (x.log / b.log)

def positive : Value := (numeric? v).elim .null fun n => if n.toReal ≤ 0 then .null else ofFloat (f n.toReal)

def pi : Float := 3.141592653589793

def round (v places : Value) : Value :=
  if v.isNull || places.isNull then .null
  else
    let n := (max 0 (min 30 (short places.toInteger))).toNat
    let x := v.toReal
    if x < -4503599627370496.0 || 4503599627370496.0 < x then .real x
    else if n = 0 then .real (Real.ofInt (Real.truncate (x + (if x < 0 then -0.5 else 0.5))))
    else
      let text := Format.real { isExact := true, precision := some n } .fixed 'e' x
      ofFloat ((Decimal.read? text).elim 0 Decimal.toReal)

end FormCompiler.Database.Function
