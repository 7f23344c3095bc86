import FormCompiler.Database.Definition.Record

namespace FormCompiler.Database

open Store (Obstacle Code)

namespace Work

def budget : Nat := 1000

def checkFreeName (name : String) : Work Unit := do
  if "sqlite_".toList.isPrefixOf (name.toList.map Char.toLower) && !(← get).overlooks then
    complain ("object name reserved for internal use: " ++ name)

def isAbout (table : String) (f : Loading.Fields) : Bool := f.table.any (· == table) && f.type != some "trigger"

def establish (i : Nat) (t : Table) (type : String) (text : Octets) (fill : Nat → Work Unit) : Work Unit := do
  beginDefinition i
  let root ← if t.isView then pure 0 else paging i (Paging.createTree (!t.isKeyed))
  let row ← reserveDescription i
  for x in t.indices.reverse do
    if !t.isOwn x then
      let root ← paging i (Paging.createTree false)
      addDescription i { type := "index", name := x.name, table := t.name, root }
  fill root
  writeDescription i row { type, name := t.name, table := t.name, root, text := some text }
  countDefinition i

def sequenceTable : Table := { name := "sqlite_sequence", columns := #[{ name := "name" }, { name := "seq" }] }

def establishSequence (i : Nat) : Work Unit := do
  if ((← schema i).table? sequenceTable.name).isNone then
    establish i sequenceTable "table" (Octets.ofString "CREATE TABLE sqlite_sequence(name,seq)") fun _ => return
    learn i (isAbout sequenceTable.name)

def quotedName (name : String) : String :=
  let cs := name.toList
  let isPlain : Bool := cs.all (fun c => c.isAlphanum || c == '_') && !(cs.head?.any Char.isDigit) && !cs.isEmpty
    && Lexeme.wordKind cs = .name
  if isPlain then name else "\"" ++ String.ofList (cs.flatMap fun c => if c == '"' then [c, c] else [c]) ++ "\""

def definitionFor (t : Table) : String :=
  let typeName (a : Affinity) : String := match a with
    | .none | .blob => ""
    | .text => " TEXT"
    | .numeric => " NUM"
    | .integer => " INT"
    | .real => " REAL"
  let wide (name : String) : Nat := name.utf8ByteSize + (name.toList.filter (· == '"')).length + 2
  let width := t.columns.foldl (fun (n : Nat) c => n + wide c.name + 5) (wide t.name)
  let (first, next, last) := if width < 50 then ("", ",", ")") else ("\n  ", ",\n  ", "\n)")
  "CREATE TABLE " ++ quotedName t.name ++ "(" ++ first ++
    next.intercalate (t.columns.toList.map fun c => quotedName c.name ++ typeName c.affinity) ++ last

def createFromQuery (i : Nat) (t : Table) (q : Query) : Work Unit := do
  let r ← resolve [] (lookIn {} q)
  let columns := ((r.fields.toList.zip r.names).map fun (f, name) =>
    ({ name, affinity := if f.affinity = .none then .blob else f.affinity } : Column)).toArray
  let t := { t with columns }
  verifyUsed
  establish i t "table" (Octets.ofString (definitionFor t)) fun root => do
    for row in ← (engine.rows {} r.plan).toArray do
      let values := (row.toList.zip columns.toList).map fun (m, c) => m.value.apply c.affinity
      countingApart (insertRow budget {} i { t with root } none [] { values := values.toArray } none)
  learn i (isAbout t.name)

def createTable (d : TableDefinition) : Work Unit := do
  let i ← definitionPlace d.name d.isTemporary
  checkFreeName d.name.name.text
  loadSchemas
  let b := { ← builderFor i with isUnchecked := (← get).overlooks }
  match d.query with
  | some q =>
    match ← ofText (b.start d.name false d.ifMissing) with
    | some t => createFromQuery i t q
    | none => verify i
  | none =>
    match ← ofText (b.table d) with
    | none => verify i
    | some t =>
      establish i t "table" (Octets.ofString "CREATE TABLE " ++ d.text) fun _ => return
      if t.isCounting then establishSequence i
      learn i (isAbout t.name)

def beginTable (d : TableDefinition) (limit : Nat) : Work Unit := do
  if d.position < limit then
    let i ← definitionPlace d.name d.isTemporary
    checkFreeName d.name.name.text
    loadSchemas
    let b := { ← builderFor i with isUnchecked := (← get).overlooks }
    discard (ofText (b.begin d limit))

def createView (d : ViewDefinition) : Work Unit := do
  let i ← definitionPlace d.name d.isTemporary
  checkFreeName d.name.name.text
  loadSchemas
  let b := { ← builderFor i with isUnchecked := (← get).overlooks }
  match ← ofText (b.view d) with
  | none => verify i
  | some t =>
    establish i t "view" (Octets.ofString "CREATE VIEW " ++ d.text) fun _ => return
    learn i (isAbout t.name)

def fillIndex (i : Nat) (t : Table) (x : Index) : Work Unit := do
  let rows ← (tableRows i t).toArray
  let keys ← rows.toList.filterMapM fun place => do
    if ← belongs t x place then return some (← keyOf t x place) else return none
  let e := (← get).encoding
  let sorted := keys.mergeSort fun a b => orderKeys e (t.keyParts x) a b != .gt
  for (key, before) in sorted.zip ([] :: sorted) do
    let own := key.take x.parts.length
    let same := !before.isEmpty && !own.any Value.isNull && orderKeys e (t.keyParts x) own before == .eq
    if x.isUnique && same then throw (duplicateKey t x)
    putKey i t x key

def createIndex (d : IndexDefinition) : Work Unit := do
  let named ← definitionPlace d.name false
  loadSchemas
  let found ← findTable? (d.name.database.map (·.text)) d.table.text
  let i := match found with
    | some (k, _) => if d.name.database.isNone && k = temporary then temporary else named
    | none => named
  let b := { ← builderFor i with isUnchecked := (← get).overlooks }
  match ← ofText (b.index d) with
  | none => verify i
  | some (t, x) =>
    checkFreeName x.name
    beginDefinition i
    let root ← paging i (Paging.createTree false)
    let x := { x with root }
    let head := if d.isUnique then "CREATE UNIQUE INDEX " else "CREATE INDEX "
    let text := Octets.ofString head ++ d.text
    addDescription i { type := "index", name := x.name, table := t.name, root, text := some text }
    fillIndex i t x
    countDefinition i
    learn i fun f => f.name == some x.name && f.type == some "index"

def triggerPlace (d : TriggerDefinition) : Work (Nat × Table) := do
  if d.isTemporary && d.name.database.isSome then complain "temporary trigger may not have qualified name"
  let named ← definitionPlace { d.name with database := if d.isTemporary then none else d.name.database } d.isTemporary
  loadSchemas
  let found ← findTable? (d.table.database.map (·.text)) d.table.name.text
  let i := match found with
    | some (k, _) => if d.name.database.isNone && k = temporary then temporary else named
    | none => named
  let own := (← member i).name
  match d.table.database with
  | some n =>
    if i != temporary && !Name.same n.text own then
      complain ("trigger " ++ d.name.name.written ++ " cannot reference objects in database " ++ n.text)
  | none => pure ()
  let database := if i = temporary then d.table.database.map (·.text) else some own
  match ← findTable? database d.table.name.text with
  | some (_, t) => return (i, t)
  | none => complain ("no such table: " ++ (database.elim "" (· ++ ".")) ++ d.table.name.text)

def beginTrigger (d : TriggerDefinition) : Work (Option (Nat × Table)) := do
  let (i, t) ← triggerPlace d
  checkFreeName d.name.name.text
  let b := { ← builderFor i with isUnchecked := (← get).overlooks }
  if ← ofText (b.beginTrigger d t) then return some (i, t) else return none

def createTrigger (d : TriggerDefinition) : Work Unit := do
  match ← beginTrigger d with
  | none => return
  | some (i, t) =>
    let name := d.name.name.text
    beginDefinition i
    let text := Octets.ofString "CREATE TRIGGER " ++ d.text
    addDescription i { type := "trigger", name, table := t.name, text := some text }
    countDefinition i
    if i = temporary then
      modifyMember i fun m => { m with
        schema := m.schema.map fun s => { s with triggers := s.triggers ++ [⟨name, t.name, d⟩] } }
    else learn i fun f => f.type == some "trigger" && f.name == some name

end Work

end FormCompiler.Database
