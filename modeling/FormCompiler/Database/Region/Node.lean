import FormCompiler.Database.Value.Basic

namespace FormCompiler.Database.Region

structure Settings where
  columns : List String := []
  beside : List String := []
  isWhole : Bool := false

namespace Settings

def nameOf (s : Octets) : String :=
  match s with
  | 34 :: rest => Octets.text (rest.takeWhile (· != 34))
  | 96 :: rest => Octets.text (rest.takeWhile (· != 96))
  | 39 :: rest => Octets.text (rest.takeWhile (· != 39))
  | 91 :: rest => Octets.text (rest.takeWhile (· != 93))
  | s => Octets.text (s.takeWhile fun b => 128 ≤ b || (48 ≤ b && b ≤ 57) || (65 ≤ b && b ≤ 90) ||
    (97 ≤ b && b ≤ 122) || b == 95)

def ofArguments (isWhole : Bool) (args : List Octets) : Except String Settings :=
  let args := args.map fun a => a.dropWhile fun b => b == 32 || (9 ≤ b && b ≤ 13)
  let isBeside (a : Octets) : Bool := a.head? == some 43
  if args.length < 3 then .error "Too few columns for an rtree table"
  else if 100 < args.length then .error "Too many columns for an rtree table"
  else
    let own := (args.drop 1).takeWhile fun a => !isBeside a
    let beside := (args.drop 1).dropWhile fun a => !isBeside a
    if beside.any fun a => !isBeside a then .error "Auxiliary rtree columns must be last"
    else if own.length < 2 then .error "Too few columns for an rtree table"
    else if 10 < own.length then .error "Too many columns for an rtree table"
    else if own.length % 2 = 1 then .error "Wrong number of columns for an rtree table"
    else .ok { columns := (args.take 1 ++ own).map nameOf, beside := beside.map fun a => nameOf (a.drop 1), isWhole }

def sides (s : Settings) : Nat := s.columns.length - 1

def nodeSize (s : Settings) (page : Nat) : Nat := min (page - 64) (4 + (8 + 4 * s.sides) * 51)

end Settings

structure Cell where
  id : Int
  sides : List UInt32

namespace Cell

def down (x : Float) : Float32 :=
  let f := x.toFloat32
  if x < f.toFloat then (x * (if x < 0 then 1.0 + 1.0 / 8388608.0 else 1.0 - 1.0 / 8388608.0)).toFloat32 else f

def up (x : Float) : Float32 :=
  let f := x.toFloat32
  if f.toFloat < x then (x * (if x < 0 then 1.0 - 1.0 / 8388608.0 else 1.0 + 1.0 / 8388608.0)).toFloat32 else f

def side (isWhole isUpper : Bool) (v : Value) : UInt32 :=
  if isWhole then UInt32.ofInt v.toInteger
  else if isUpper then (up v.toReal).toBits
  else (down v.toReal).toBits

def value (isWhole : Bool) (side : UInt32) : Value :=
  if isWhole then .integer side.toInt32.toInt else .real (Float32.ofBits side).toFloat

def wrongSide? (isWhole : Bool) (c : Cell) : Option Nat :=
  let isWrong (a b : UInt32) : Bool :=
    if isWhole then b.toInt32.toInt < a.toInt32.toInt else Float32.ofBits b < Float32.ofBits a
  let rec go : Nat → List UInt32 → Option Nat
    | i, a :: b :: rest => if isWrong a b then some i else go (i + 2) rest
    | _, _ => none
  go 0 c.sides

end Cell

def readNode (count : Nat) (bytes : Octets) : List Cell :=
  let number (bs : Octets) : Nat := bs.foldl (fun n b => n * 256 + b.toNat) 0
  let cells := number ((bytes.drop 2).take 2)
  (List.range cells).map fun k =>
    let c := bytes.drop (4 + k * (8 + 4 * count))
    let id := number (c.take 8)
    { id := if id < 0x8000000000000000 then id else (id : Int) - 0x10000000000000000
      sides := (List.range count).map fun j => UInt32.ofNat (number ((c.drop (8 + 4 * j)).take 4)) }

def writeNode (size : Nat) (cells : List Cell) : Octets :=
  let body := cells.flatMap fun c =>
    Bytes.ofNumber 8 (Bytes.unsigned 64 c.id) ++ c.sides.flatMap fun s => Bytes.ofNumber 4 s.toNat
  let all := [0, 0] ++ Bytes.ofNumber 2 cells.length ++ body
  all ++ List.replicate (size - all.length) 0

end FormCompiler.Database.Region
