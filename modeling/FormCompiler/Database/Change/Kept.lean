import FormCompiler.Database.Change.Rule
import FormCompiler.Database.Query.Kept

namespace FormCompiler.Database

open Store (Obstacle Code)

namespace Work

variable (i : Nat) (t : Table) (s : FullText.Settings)

def putKept (n : Int) (values : List Value) : Work Unit :=
  addRow i t { values := (.integer n :: values).toArray, number := some n }

def eraseKept (n : Int) : Work Unit := discard (paging i (Paging.eraseRow t.root n))

def sizesOf (values : List Value) : Value :=
  .blob ((s.document (values.map Value.octets)).flatMap fun ws => Bytes.ofVarint ws.length).toByteArray

def putTexts (n : Int) (values : List Value) : Work Unit := do
  match s.place with
  | .own => putKept i (← beside i t "content") n values
  | _ => putKept i (← beside i t "data") (n + copyNumber) [.blob (Row.write (← get).encoding values)]
  if s.keepsSizes then putKept i (← beside i t "docsize") n [sizesOf s values]

def eraseTexts (n : Int) : Work Unit := do
  match s.place with
  | .own => eraseKept i (← beside i t "content") n
  | _ => eraseKept i (← beside i t "data") (n + copyNumber)
  if s.keepsSizes then eraseKept i (← beside i t "docsize") n

def orderTexts (word : String) (number : Option Int) (rank : Value) : Work Unit := do
  match word.map Char.toLower with
  | "delete" =>
    if s.place = .own then refuse .error
    else
      match number with
      | some n => eraseTexts i t s n
      | none => return
  | "delete-all" =>
    if s.place = .own then complain "'delete-all' may only be used with a contentless or external content fts5 table"
    for (n, _) in ← searchedRows i t s do eraseTexts i t s n
  | "rebuild" =>
    match s.place with
    | .own => return
    | .none => complain "'rebuild' may not be used with a contentless fts5 table"
    | .other name =>
      for (n, _) in ← searchedRows i t s do eraseTexts i t s n
      match (← schema i).table? name with
      | none => complain ("no such table: " ++ (← member i).name ++ "." ++ name)
      | some source =>
        let places := s.columns.map source.columnIndex?
        for p in ← (tableRows i source).toArray do
          putTexts i t s (p.number.getD 0) (places.map fun k => (k.bind (p.values[·]?)).getD .null)
  | "optimize" | "merge" | "integrity-check" | "flush" => return
  | "rank" =>
    match FullText.Settings.weights rank.toText with
    | .ok _ => configure
    | .error _ => refuse .error
  | "automerge" | "crisismerge" | "usermerge" | "pgsz" | "hashsize" | "deletemerge" | "secure-delete" => configure
  | _ => refuse .error
where
  configure : Work Unit := do
    let config ← beside i t "config"
    match config.keyIndex? with
    | none => return
    | some own =>
      let (_, found) ← seekKey i config own [.ofString word]
      if found = .eq then eraseKey i config own [.ofString word]
      addRow i config { values := #[.ofString word, rank] }

def numberBehind (numbers : List Int) : Int := (numbers.foldl max 0) + 1

def wrongRegion (t : Table) (s : Region.Settings) (k : Nat) : Obstacle :=
  .detailed (.against .other) ("rtree constraint failed: " ++ t.name ++ ".(" ++ s.columns.getD (k + 1) "" ++ "<=" ++
    s.columns.getD (k + 2) "" ++ ")")

def writeRegions (s : Region.Settings) (cells : List Region.Cell) : Work Unit := do
  let node ← beside i t "node"
  let size := s.nodeSize (← volume i).layout.size
  eraseKept i node 1
  putKept i node 1 [.blob (Region.writeNode size cells).toByteArray]

def eraseRow (kept : Keeping) (n : Int) : Work Unit := do
  match kept with
  | .texts s =>
    if s.place = .none then complain ("cannot DELETE from contentless fts5 table: " ++ t.name)
    eraseTexts i t s n
  | .words _ => return
  | .regions s =>
    writeRegions i t s ((← regionCells i t s).filter fun c => c.id != n)
    eraseKept i (← beside i t "rowid") n

def placeTexts (conflict : Option Conflict) (old given : Option Int) (values : List Value) : Work (Option Int) := do
  let numbers := (← searchedRows i t s).map (·.1)
  let number := given.getD (numberBehind numbers)
  let isTaken := numbers.contains number && old != some number
  if isTaken && s.place = .own && conflict = some .ignore then return none
  if isTaken && s.place = .own && conflict != some .replace then refuse (.against .primaryKey)
  for n in old.toList do eraseTexts i t s n
  if isTaken then eraseTexts i t s number
  putTexts i t s number values
  return some number

def placeRegion (s : Region.Settings) (conflict : Option Conflict) (old : Option Int)
    (values : List Value) : Work (Option Int) := do
  let cells ← regionCells i t s
  let id := values.headD .null
  let number := if id.isNull then numberBehind (cells.map (·.id)) else id.toInteger
  let sides := (List.range s.sides).map fun k => Region.Cell.side s.isWhole (k % 2 = 1) (values[k + 1]?.getD .null)
  let cell : Region.Cell := { id := number, sides }
  let isTaken := cells.any (fun c => c.id == number) && old != some number
  match cell.wrongSide? s.isWhole with
  | some k =>
    if conflict = some .ignore then return none
    throw (wrongRegion t s k)
  | none => pure ()
  if isTaken && conflict = some .ignore then return none
  if isTaken && conflict != some .replace then
    throw (.detailed (.against .other) ("UNIQUE constraint failed: " ++ t.name ++ "." ++ s.columns.headD ""))
  let rowid ← beside i t "rowid"
  for n in old.toList do eraseKept i rowid n
  if isTaken then eraseKept i rowid number
  writeRegions i t s (cells.filter (fun c => c.id != number && old != some c.id) ++ [cell])
  putKept i rowid number (.integer 1 :: values.drop (s.sides + 1))
  return some number

def putRow (kept : Keeping) (conflict : Option Conflict) (values : List Value) (given : Option Int) :
    Work (Option Int) := do
  match kept with
  | .texts s =>
    let n := s.columns.length
    let word := values.getD n .null
    if word.isNull then placeTexts i t s conflict none given (values.take n)
    else
      orderTexts i t s word.toText given (values.getD (n + 1) .null)
      return some 0
  | .words _ => return none
  | .regions s => placeRegion i t s conflict none values

def changeRow (kept : Keeping) (conflict : Option Conflict) (old : Int) (values : List Value)
    (given : Option Int) : Work Bool := do
  match kept with
  | .texts s =>
    if s.place = .none then complain ("cannot UPDATE contentless fts5 table: " ++ t.name)
    return (← placeTexts i t s conflict (some old) (given <|> some old) (values.take s.columns.length)).isSome
  | .words _ => return false
  | .regions s => return (← placeRegion i t s conflict (some old) values).isSome

end Work

end FormCompiler.Database
