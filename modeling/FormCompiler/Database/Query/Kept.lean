import FormCompiler.Database.Query.Table

namespace FormCompiler.Database

open Store (Obstacle Code)

namespace Work

variable (i : Nat) (t : Table) (s : FullText.Settings)

def beside (ending : String) : Work Table := do
  match (← schema i).table? (t.name ++ "_" ++ ending) with
  | some s => return s
  | none => complain ("no such table: " ++ (← member i).name ++ "." ++ t.name ++ "_" ++ ending)

def copyNumber : Int := Nat.pow 2 40

def searchedRows : Work (List (Int × List Value)) := do
  match s.place with
  | .own =>
    let rows ← (tableRows i (← beside i t "content")).toArray
    return rows.toList.map fun (p : Place) => (p.number.getD 0, p.values.toList.drop 1)
  | _ =>
    let rows ← (tableRows i (← beside i t "data")).toArray
    let e := (← get).encoding
    return rows.toList.filterMap fun (p : Place) =>
      match p.number, p.values.getD 1 .null with
      | some n, .blob b =>
        if n < copyNumber then none
        else (Row.read? e b s.columns.length).map fun vs => (n - copyNumber, vs.toList)
      | _, _ => none

def shownValues (rows : List (Int × List Value)) : Work (List (List Value)) := do
  match s.place with
  | .own => return rows.map (·.2)
  | .none => return rows.map fun _ => s.columns.map fun _ => .null
  | .other name =>
    match (← schema i).table? name with
    | none => complain ("no such table: " ++ (← member i).name ++ "." ++ name)
    | some t =>
      let places := s.columns.map t.columnIndex?
      let number := if Name.same s.rowName "rowid" then none else t.columnIndex? s.rowName
      let found ← (tableRows i t).toArray
      let numberOf (p : Place) : Option Int := match number with
        | none => p.number
        | some k => (p.values[k]?).map Value.toInteger
      return rows.map fun (n, _) =>
        match found.toList.find? fun p => numberOf p == some n with
        | some p => places.map fun k => (k.bind (p.values[·]?)).getD .null
        | none => s.columns.map fun _ => .null

def searchFor (given : List (Nat × Value)) : Work (Option FullText.Query) := do
  let n := s.columns.length
  let queries ← (given.filter fun g => g.1 ≤ n).mapM fun (k, v) => do
    if v.isNull then return FullText.Query.nothing
    let q ← ofText (FullText.Query.ofText s.grammar v.octets)
    return if k < n then q.within [k] else q
  match queries with
  | [] => return none
  | q :: rest => return some (rest.foldl FullText.Query.and q)

def weightsFor (given : List (Nat × Value)) : Work (List Float) := do
  match (given.reverse.find? fun g => g.1 == s.columns.length + 1).map (·.2) with
  | some v => ofText (FullText.Settings.weights v.toText)
  | none =>
    let rows ← (tableRows i (← beside i t "config")).toArray
    match rows.toList.find? fun p => (p.values.getD 0 .null).isSame (.ofString "rank") with
    | some p => ofText (FullText.Settings.weights (p.values.getD 1 .null).toText)
    | none => return []

def textRows (given : List (Nat × Value)) : Stream Place :=
  .after (do
    let query ← searchFor s given
    let weights ← weightsFor i t s given
    let rows ← searchedRows i t s
    let shown ← shownValues i s rows
    let documents := rows.map fun (_, vs) => s.document (vs.map Value.octets)
    let phrases := (query.map FullText.Query.phrases).getD []
    let census : FullText.Census := {
      rows := rows.length
      words := documents.foldl (fun n d => d.foldl (fun n ws => n + ws.length) n) 0
      having_ := phrases.map fun (p, columns) => (documents.filter fun d => !(p.spots columns d).isEmpty).length }
    return ((rows.zip shown).zip documents).filterMap fun (((n, vs), values), d) =>
      let texts := vs.map Value.octets
      let place (h : FullText.Hit) (rank : Value) : Place :=
        { values := (values ++ [.integer 1, rank]).toArray, number := some n, hit := some h }
      match query with
      | none => some (place { settings := s, texts } .null)
      | some q => (q.find? d).map fun spots =>
        let h : FullText.Hit := { settings := s, query := q, census, texts, spots }
        place h (.real (h.rank weights))) fun places => .ofArray places.toArray

def regionCells (s : Region.Settings) : Work (List Region.Cell) := do
  let node ← beside i t "node"
  let rows ← (tableRows i node).toArray
  return rows.toList.flatMap fun (p : Place) =>
    match p.values.getD 1 .null with
    | .blob b => Region.readNode s.sides b.toList
    | _ => []

def regionRows (s : Region.Settings) : Stream Place :=
  .after (do
    let cells ← regionCells i t s
    let others ← if s.beside.isEmpty then pure #[] else (tableRows i (← beside i t "rowid")).toArray
    return cells.map fun c =>
      let more := ((others.toList.find? fun p => p.number == some c.id).map fun p => p.values.toList.drop 2).getD []
      ({ values := (.integer c.id :: c.sides.map (Region.Cell.value s.isWhole) ++ more).toArray
         number := some c.id } : Place))
    fun places => .ofArray places.toArray

def wordRows (v : FullText.Vocabulary) : Stream Place :=
  .after (do
    match ((← schema i).table? v.table).bind fun t => t.keeping?.map (t, ·) with
    | some (t, .texts s) =>
      let rows ← searchedRows i t s
      let texts := rows.map fun (n, vs) => (n, s.document (vs.map Value.octets))
      return (v.rows s.columns texts).zipIdx.map fun (values, k) =>
        ({ values := values.toArray, number := some k } : Place)
    | _ => complain ("no such fts5 table: " ++ (← member i).name ++ "." ++ v.table)) fun places =>
      .ofArray places.toArray

def keptRows (kept : Keeping) (given : List (Nat × Value)) : Stream Place :=
  match kept with
  | .texts s => textRows i t s given
  | .words v => wordRows i v
  | .regions s => regionRows i t s

end Work

end FormCompiler.Database
