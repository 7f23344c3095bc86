import FormCompiler.Database.Definition.Drop

namespace FormCompiler.Database

open Store (Obstacle Code)

namespace Keeping

def quotedIn (quote : Char) (s : String) : String :=
  String.ofList (quote :: s.toList.flatMap (fun c => if c == quote then [c, c] else [c]) ++ [quote])

def tables (name : String) : Keeping → List (String × String)
  | .texts s =>
    let define (ending columns rest : String) : String × String :=
      (ending, "CREATE TABLE " ++ quotedIn '\x27' (name ++ "_" ++ ending) ++ "(" ++ columns ++ ")" ++ rest)
    let texts := (List.range s.columns.length).map fun k => ", c" ++ Text.Numeral.ofNat k
    [define "data" "id INTEGER PRIMARY KEY, block BLOB" "",
      define "idx" "segid, term, pgno, PRIMARY KEY(segid, term)" " WITHOUT ROWID"]
    ++ (if s.place = .own then [define "content" ("id INTEGER PRIMARY KEY" ++ String.join texts) ""] else [])
    ++ (if s.keepsSizes then [define "docsize" "id INTEGER PRIMARY KEY, sz BLOB" ""] else [])
    ++ [define "config" "k PRIMARY KEY, v" " WITHOUT ROWID"]
  | .words _ => []
  | .regions s =>
    let define (ending columns : String) : String × String :=
      (ending, "CREATE TABLE " ++ quotedIn '"' (name ++ "_" ++ ending) ++ "(" ++ columns ++ ")")
    let more := (List.range s.beside.length).map fun k => ",a" ++ Text.Numeral.ofNat k
    [define "rowid" ("rowid INTEGER PRIMARY KEY,nodeno" ++ String.join more),
      define "node" "nodeno INTEGER PRIMARY KEY,data",
      define "parent" "nodeno INTEGER PRIMARY KEY,parentnode"]

end Keeping

namespace Work

def define (i : Nat) (text : String) : Work Unit := do
  match Reading.ofText (Octets.ofString text) with
  | .statement (.createTable d) _ _ =>
    let database : Name := { text := (← member i).name }
    createTable { d with
      name := { d.name with database := if i = temporary then none else some database }
      isTemporary := i = temporary }
  | _ => return

def fillKept (i : Nat) (t : Table) (kept : Keeping) : Work Unit := do
  match kept with
  | .texts _ =>
    let data ← beside i t "data"
    putKept i data 1 [.blob .empty]
    putKept i data 10 [.blob (Bytes.zeros 7)]
    addRow i (← beside i t "config") { values := #[.ofString "version", .integer 4] }
  | .words _ => return
  | .regions s => putKept i (← beside i t "node") 1 [.blob (Bytes.zeros (s.nodeSize (← volume i).layout.size))]

def createVirtual (n : FullName) (ifMissing : Bool) (m : Module) (text : Octets) : Work Unit := do
  let i ← definitionPlace n false
  checkFreeName n.name.text
  loadSchemas
  match ← ofText ((← builderFor i).start n false ifMissing) with
  | none => verify i
  | some t =>
    beginDefinition i
    let kept ← ofText m.keeping
    let names := (m.columns t.name).map (·.name)
    let repeated := names.zipIdx.find? fun (c, k) => (names.take k).any (Name.same c)
    match kept, repeated with
    | .texts s, twice =>
      if twice.isSome || s.columns.isEmpty then complain ("vtable constructor failed: " ++ t.name)
    | _, some (c, _) => complain ("duplicate column name: " ++ c)
    | _, none => pure ()
    let text := Octets.ofString "CREATE VIRTUAL TABLE " ++ text
    addDescription i { type := "table", name := t.name, table := t.name, text := some text }
    countDefinition i
    learn i (isAbout t.name)
    for (_, definition) in kept.tables t.name do define i definition
    fillKept i t kept

def dropVirtual (i : Nat) (t : Table) (kept : Keeping) : Work Unit := do
  forget i (isAbout t.name)
  modifySchema i fun s => { s with
    tables := s.tables.filter fun o => !Name.same o.name t.name }
  countDefinition i
  let database : Name := { text := (← member i).name }
  for (ending, _) in kept.tables t.name do
    dropTable false true ⟨some database, { text := t.name ++ "_" ++ ending }⟩

def drop (kind : ObjectKind) (ifThere : Bool) (n : FullName) : Work Unit := do
  match kind with
  | .table =>
    loadSchemas
    match ← findTable? (n.database.map (·.text)) n.name.text with
    | some (i, t) =>
      match t.keeping? with
      | some kept =>
        enterForStatement i
        dropVirtual i t kept
      | none => dropTable false ifThere n
    | none => dropTable false ifThere n
  | .view => dropTable true ifThere n
  | .index => dropIndex ifThere n
  | .trigger => dropTrigger ifThere n

end Work

end FormCompiler.Database
