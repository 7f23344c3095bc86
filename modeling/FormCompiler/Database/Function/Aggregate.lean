import FormCompiler.Database.Function.Json.Apply
import FormCompiler.Database.Function.Number

namespace FormCompiler.Database

structure Sum where
  count : Nat := 0
  whole : Int := 0
  real : Float := 0
  lost : Float := 0
  isReal : Bool := false
  overflows : Bool := false

namespace Sum

def addReal (s : Sum) (x : Float) : Sum :=
  let t := s.real + x
  let lost := if x.abs < s.real.abs then (s.real - t) + x else (x - t) + s.real
  { s with real := t, lost := s.lost + lost }

def parts (n : Int) : Int × Int :=
  if n ≤ -4503599627370496 || 4503599627370496 ≤ n then (n - Int.tmod n 16384, Int.tmod n 16384) else (n, 0)

def addInteger (s : Sum) (n : Int) : Sum :=
  let (big, small) := parts n
  let t := s.addReal (Real.ofInt big)
  if small = 0 then t else t.addReal (Real.ofInt small)

def toReals (s : Sum) : Sum :=
  let (big, small) := parts s.whole
  { s with real := Real.ofInt big, lost := Real.ofInt small, isReal := true }

def add (s : Sum) (v : Value) : Sum :=
  let s := { s with count := s.count + 1 }
  match (Function.numeric? v).getD v with
  | .integer n =>
    if s.isReal then s.addInteger n
    else if decide (Text.Numeral.Fits 64 (s.whole + n)) then { s with whole := s.whole + n }
    else { s.toReals with overflows := true }.addInteger n
  | v =>
    if s.isReal then { s with overflows := false }.addReal v.toReal else s.toReals.addReal v.toReal

def remove (s : Sum) (v : Value) : Sum :=
  let s := { s with count := s.count - 1 }
  match (Function.numeric? v).getD v with
  | .integer n =>
    if !s.isReal then { s with whole := s.whole - n }
    else if n = -(Nat.pow 2 63 : Int) then (s.addInteger (Nat.pow 2 63 - 1)).addInteger 1
    else s.addInteger (-n)
  | v => s.addReal (-v.toReal)

def total (s : Sum) : Float :=
  if s.isReal then (if s.lost.isFinite then s.real + s.lost else s.real) else Real.ofInt s.whole

end Sum

inductive Tally where
  | count (n : Nat)
  | sum (s : Sum)
  | best (v : Option Value)
  | text (s : Option ByteArray)
  | json (parts : List (List Char))

namespace Tally

def start (name : String) : Tally :=
  match name with
  | "count" => count 0
  | "sum" | "total" | "avg" => sum {}
  | "min" | "max" => best none
  | "group_concat" | "string_agg" => text none
  | _ => json []

def step (name : String) (order : Value → Value → Ordering) (t : Tally) (args : List Json.Marked) :
    Except String Tally :=
  let first := (args.head?.map (·.value)).getD .null
  match t with
  | count n => .ok (count (if args.isEmpty || !first.isNull then n + 1 else n))
  | sum s => .ok (sum (if first.isNull then s else s.add first))
  | best v =>
    .ok (best (match v with
      | none => if first.isNull then none else some first
      | some b =>
        if first.isNull then some b
        else if order b first == (if name == "max" then .lt else .gt) then some first
        else some b))
  | text s =>
    if first.isNull then .ok t
    else
      match s with
      | none => .ok (text (some first.toBytes))
      | some b =>
        let between := match args with
          | [_, sep] => sep.value.toBytes
          | _ => ",".toUTF8
        .ok (text (some (b ++ between ++ first.toBytes)))
  | json parts => do
    match args with
    | [v] => return json ((← Json.writeMarked v) :: parts)
    | [k, v] =>
      let label := if k.value.isNull then [] else Json.quoted ((Characters.untilNul k.value.octets).letters)
      return json ((label ++ ':' :: (← Json.writeMarked v)) :: parts)
    | _ => return t

def unstep? (t : Tally) (args : List Json.Marked) : Option Tally :=
  let first := (args.head?.map (·.value)).getD .null
  match t with
  | count n => some (count (if args.isEmpty || !first.isNull then n - 1 else n))
  | sum s => some (sum (if first.isNull then s else s.remove first))
  | _ => none

def improves (name : String) (order : Value → Value → Ordering) (t : Tally) (v : Value) : Bool :=
  match t with
  | best none => true
  | best (some b) => !v.isNull && order b v == (if name == "max" then .lt else .gt)
  | _ => true

def finish (name : String) : Tally → Except String Json.Marked
  | count n => .ok ⟨.integer n, false⟩
  | sum s =>
    if name == "total" then .ok ⟨.real s.total, false⟩
    else if s.count = 0 then .ok ⟨.null, false⟩
    else if name == "avg" then .ok ⟨Function.ofFloat (s.total / Real.ofInt s.count), false⟩
    else if !s.isReal then .ok ⟨.integer s.whole, false⟩
    else if s.overflows then .error "integer overflow"
    else .ok ⟨Function.ofFloat s.total, false⟩
  | best v => .ok ⟨v.getD .null, false⟩
  | text s => .ok ⟨(s.map Value.text).getD .null, false⟩
  | json parts =>
    let asBytes := "jsonb".toList.isPrefixOf name.toList
    let isObject := name == "json_group_object" || name == "jsonb_group_object"
    let inside := Json.commas parts.reverse
    .ok (Json.resultOfText asBytes (if isObject then '\x7b' :: inside ++ ['\x7d'] else '[' :: inside ++ [']']))

end Tally

end FormCompiler.Database
