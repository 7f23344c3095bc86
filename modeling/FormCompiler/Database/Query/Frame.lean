import FormCompiler.Database.FullText.Hit
import FormCompiler.Database.Query.Operator
import FormCompiler.Database.Query.Stream
import FormCompiler.Database.Query.Term

namespace FormCompiler.Database

structure Place where
  values : Array Value := #[]
  number : Option Int := none
  marks : List Nat := []
  hit : Option FullText.Hit := none
  deriving Inhabited

structure Frame where
  places : Array Place := #[]
  slots : Array Json.Marked := #[]
  windows : Array Json.Marked := #[]
  deriving Inhabited

structure Env where
  frames : List Frame := []
  parameters : Array Value := #[]
  recent : List (Nat × Array Value) := []

namespace Env

def inside (env : Env) (f : Frame) : Env := { env with frames := f :: env.frames }

def place (env : Env) (p : Position) : Place := ((env.frames[p.level]?).bind (·.places[p.place]?)).getD {}

def outside (env : Env) (n : Nat) : Env := { env with frames := env.frames.drop n }

end Env

abbrev Tuple := Array Json.Marked

structure Runner where
  rows : Env → Plan → Stream Tuple
  supplied : String → List (Option Value) → Stream Place

def orderBy (e : Encoding) (collation : Collation) (isDescending : Bool) (nullsFirst : Option Bool)
    (a b : Value) : Ordering :=
  match nullsFirst, a.isNull, b.isNull with
  | some first, true, false => if first then .lt else .gt
  | some first, false, true => if first then .gt else .lt
  | _, _, _ => if isDescending then (a.order collation e b).swap else a.order collation e b

def orderRows {τ : Type} (e : Encoding) (keys : List (SortKey τ)) (a b : List Value) : Ordering :=
  match keys, a, b with
  | k :: keys, x :: a, y :: b =>
    match orderBy e k.collation k.isDescending k.nullsFirst x y with
    | .eq => orderRows e keys a b
    | o => o
  | _, _, _ => .eq

def sortRows {τ α : Type} (e : Encoding) (keys : List (SortKey τ)) (rows : Array (List Value × α)) :
    Array (List Value × α) :=
  (rows.toList.mergeSort fun a b => orderRows e keys a.1 b.1 != .gt).toArray

namespace Value

def folded (c : Collation) (s : ByteArray) : ByteArray :=
  match c with
  | .binary => s
  | .rightTrim => Collation.trimmed s
  | .noCase =>
    let lower := s.toList.map Characters.lower
    let front := lower.takeWhile (· != 0)
    (front ++ Bytes.ofNumber 8 s.size).toByteArray

def keyBytes (c : Collation) (v : Value) : ByteArray :=
  let whole (n : Int) : ByteArray := ((1 : UInt8) :: Bytes.ofNumber 8 (Bytes.unsigned 64 n)).toByteArray
  match v with
  | null => [0].toByteArray
  | integer n => whole n
  | real x =>
    match Real.integer? x with
    | some n => if decide (Text.Numeral.Fits 64 n) then
      whole n else ((2 : UInt8) :: Bytes.ofNumber 8 x.toBits.toNat).toByteArray
    | none => ((2 : UInt8) :: Bytes.ofNumber 8 x.toBits.toNat).toByteArray
  | text s => [3].toByteArray ++ folded c s
  | blob b => [4].toByteArray ++ b

def rowKey (collations : List Collation) (values : List Value) : ByteArray :=
  (values.zipIdx).foldl (fun (b : ByteArray) (v, i) =>
    let k := v.keyBytes (collations.getD i .binary)
    b ++ (Bytes.ofNumber 8 k.size).toByteArray ++ k) .empty

end Value

end FormCompiler.Database
