import FormCompiler.Database.Connection.Transaction
import FormCompiler.Database.Row
import FormCompiler.Database.Schema.Build
import FormCompiler.Database.Schema.Estimate

namespace FormCompiler.Database

open Store (Obstacle Code)

def schemaTable (isTemporary : Bool) : Table where
  name := schemaTableName isTemporary
  root := 1
  columns := #[
    { name := "type", type := "text", affinity := .text },
    { name := "name", type := "text", affinity := .text },
    { name := "tbl_name", type := "text", affinity := .text },
    { name := "rootpage", type := "int", affinity := .integer },
    { name := "sql", type := "text", affinity := .text }]

structure Loading where
  builder : Builder
  pages : Nat
  code : Option Code := none
  message : Option String := none
  after : Option String := none

namespace Loading

structure Fields where
  type : Option String
  name : Option String
  table : Option String
  root : Option String
  text : Option Octets

def textOf : Value → Option Octets
  | .null => none
  | v => some (Characters.untilNul v.octets)

def Fields.ofValues (values : Array Value) : Fields :=
  let octets (i : Nat) : Option Octets := textOf (values[i]?.getD .null)
  let field (i : Nat) : Option String := (octets i).map Octets.text
  ⟨field 0, field 1, field 2, field 3, octets 4⟩

def corrupt (l : Loading) (f : Fields) (extra : String) : Loading :=
  if l.message.isSome then l
  else
    match l.after with
    | some change =>
      let sentence := "error in " ++ f.type.getD "" ++ " " ++ f.name.getD "" ++ " after " ++ change ++ ": " ++ extra
      { l with code := some .error, message := some sentence }
    | none =>
      let sentence := "malformed database schema (" ++ f.name.getD "?" ++ ")"
      if l.builder.isUnchecked then { l with code := some .corrupt }
      else
        { l with code := some .corrupt, message := some (if extra == "" then sentence else sentence ++ " - " ++ extra) }

def pageNumber? (s : Option String) : Option Nat := do
  let n ← Text.Numeral.magnitude? (← s).toList
  if n < 0x100000000 then some n else none

def build (b : Builder) (reading : Reading) : Except String Schema := do
  match reading with
  | .nothing => return b.schema
  | .wrong m begun =>
    match begun with
    | .table d => discard (b.begin d m.position)
    | _ => pure ()
    .error m.message
  | .statement s _ _ =>
    match s with
    | .createTable d =>
      match ← b.table d with
      | some t =>
        let (replacing, others) := t.indices.partition fun x => x.conflict == some .replace
        return b.schema.withTable { t with indices := others ++ replacing }
      | none => return b.schema
    | .createView d =>
      match ← b.view d with
      | some t => return b.schema.withTable t
      | none => return b.schema
    | .createIndex d =>
      match ← b.index d with
      | some (t, i) =>
        if Schema.hasRoot t i then .error "invalid rootpage"
        return b.schema.withTable { t with indices := i :: t.indices }
      | none => return b.schema
    | .createTrigger d =>
      b.checkDatabase d.name
      match b.schema.table? d.table.name.text with
      | none => .error ("no such table: " ++ b.database ++ "." ++ d.table.name.text)
      | some t =>
        let _ ← b.beginTrigger d t
        return { b.schema with triggers := b.schema.triggers ++ [⟨d.name.name.text, t.name, d⟩] }
    | .createVirtual n _ module args _ =>
      match ← b.start n false false with
      | some t =>
        let m : Module := { name := module.text, args }
        return b.schema.withTable { t with module := some m, columns := (m.columns t.name).toArray }
      | none => return b.schema
    | _ => return b.schema

def startsLikeDefinition (s : Octets) : Bool :=
  match s.map Characters.lower with
  | 99 :: 114 :: _ => true
  | _ => false

def addRow (l : Loading) (f : Fields) : Loading :=
  match f.root with
  | none => l.corrupt f ""
  | some _ =>
    let number := pageNumber? f.root
    match f.text with
    | some text =>
      if startsLikeDefinition text then
        let isWrong : Bool := number.all fun n => l.pages < n && l.pages != 0
        let l := if isWrong then l.corrupt f "invalid rootpage" else l
        let b := { l.builder with
          root := number.getD 0
          expected := (f.type.getD "", f.name.getD "", f.table.getD "") }
        match build b (Reading.ofText text) with
        | .ok schema => { l with builder := { l.builder with schema } }
        | .error m => ({ l with code := l.code <|> some Code.error }).corrupt f m
      else if text.isEmpty && f.name.isSome then addAuto l f number else l.corrupt f ""
    | none => if f.name.isSome then addAuto l f number else l.corrupt f ""
where
  addAuto (l : Loading) (f : Fields) (number : Option Nat) : Loading :=
    match l.builder.schema.index? (f.name.getD "") with
    | none => l.corrupt f "orphan index"
    | some (t, i) =>
      let i := { i with root := number.getD 0 }
      let isWrong : Bool := number.all fun n => n < 2 || l.pages < n
      let l := if isWrong || Schema.hasRoot t i then l.corrupt f "invalid rootpage" else l
      let t := { t with indices := t.indices.map fun o => if Name.same o.name i.name then i else o }
      { l with builder := { l.builder with schema := l.builder.schema.withTable t } }

end Loading

namespace Work

def encodingOf (n : Nat) : Encoding :=
  match n % 4 with
  | 2 => .utf16le
  | 3 => .utf16be
  | _ => .utf8

def encodingNumber : Encoding → Nat
  | .utf8 => 1
  | .utf16le => 2
  | .utf16be => 3

variable (i : Nat)

def settleEncoding (n : Nat) : Work Unit := do
  let c ← get
  if n = 0 then return
  else if i = 0 && !c.encodingIsFixed then set { c with encoding := encodingOf n }
  else if n % 4 != encodingNumber c.encoding then
    complain "attached databases must use the same text encoding as main database"

def schemaRows : Work (Array (Int × ByteArray) × Option Code) := do
  if (← volume i).count = 0 then return (#[], none)
  let s ← paging i (Paging.rows 1)
  return (s.items, s.stopped)

def statisticRows (s : Schema) (name : String) : Work (List (List Value)) := do
  match s.table? name with
  | none => return []
  | some t =>
    if t.isView || t.isVirtual || t.isKeyed then return []
    match ← attempt (paging i (Paging.rows t.root)) with
    | .error _ => return []
    | .ok found =>
      let e := (← get).encoding
      return found.items.toList.filterMap fun (_, b) => (Row.read? e b t.columns.size).map (·.toList)

def withStatistics (s : Schema) : Work Schema := do
  let found := (← statisticRows i s "sqlite_stat1").filterMap fun
    | tbl :: idx :: stat :: _ =>
      if tbl.isNull || stat.isNull then none
      else some { table := tbl.toText, index := if idx.isNull then none else some idx.toText, text := stat.toText }
    | _ => none
  let sampled := (← statisticRows i s "sqlite_stat4").filterMap fun
    | _ :: idx :: _ => if idx.isNull then none else some idx.toText
    | _ => none
  return if found.isEmpty && sampled.isEmpty then s else s.withStatistics found sampled.eraseDups

def readSchemaAfter (after : Option String) : Work Schema := do
  enter i
  let v ← volume i
  settleEncoding i (v.cookie 5)
  let format := v.cookie 2 % 256
  if 4 < format then complain "unsupported file format"
  let c ← get
  let m ← member i
  let (rows, stopped) ← schemaRows i
  let builder : Builder := {
    database := m.name
    schema := {
      cookie := v.cookie 1
      format := if format = 0 then 1 else format
      tables := [schemaTable (i = temporary)] }
    isTemporary := i = temporary
    isLoading := true
    isUnchecked := c.overlooks }
  let (l, stopped) := rows.foldl (fun (l, stopped) (_, row) =>
    if stopped.isSome then (l, stopped)
    else
      match Row.read? c.encoding row 5 with
      | some values => (Loading.addRow l (.ofValues values), none)
      | none => (l, some Code.corrupt)) (({ builder, pages := v.count, after } : Loading), (none : Option Code))
    |> fun (l, found) => (l, found <|> stopped)
  if !rows.isEmpty then modify fun c => { c with encodingIsFixed := true }
  let code := stopped <|> l.code
  match code with
  | none => withStatistics i l.builder.schema
  | some code =>
    if c.overlooks then return l.builder.schema
    match l.message with
    | some s => throw (.detailed code s)
    | none => refuse code

def readSchema : Work Schema := readSchemaAfter i none

def loadSchema : Work Unit := do
  let m ← member i
  if m.schema.isSome then return
  match ← attempt (readSchema i) with
  | .ok schema =>
    modifyMember i fun m => { m with schema := some schema }
    if m.current.isNone then leave i
  | .error o =>
    if m.current.isNone then leave i
    throw o

def loadSchemas : Work Unit := do
  loadSchema 0
  for i in (← memberNumbers).reverse do
    if i != 0 then loadSchema i

def schema : Work Schema := return ((← member i).schema).getD {}

def verify : Work Unit := do
  enter i
  let m ← member i
  match m.schema with
  | some s =>
    if s.cookie != (← volume i).cookie 1 then
      modifyMember i fun m => { m with schema := none }
      loadSchemas
  | none => loadSchemas

def schemaTableNames (isTemporary : Bool) : List String :=
  if isTemporary then ["sqlite_temp_master", "sqlite_temp_schema", "sqlite_master", "sqlite_schema"]
  else ["sqlite_master", "sqlite_schema"]

def tableIn? (name : String) : Work (Option Table) := do
  let s ← schema i
  if (schemaTableNames (i = temporary)).any (Name.same name) then return s.table? (schemaTableName (i = temporary))
  return s.table? name

def findTable? (database : Option String) (name : String) : Work (Option (Nat × Table)) := do
  match database with
  | some d =>
    match ← findMember? d with
    | some i => return (← tableIn? i name).map (i, ·)
    | none => return none
  | none =>
    let numbers ← memberNumbers
    let order := temporary :: numbers.filter (· != temporary)
    for i in order do
      let found ← if i = temporary && (schemaTableNames false).any (Name.same name) then pure none else tableIn? i name
      match found with
      | some t => return some (i, t)
      | none => pure ()
    return none

def locate (database : Option String) (name : String) : Work (Nat × Table) := do
  loadSchemas
  match ← findTable? database name with
  | some found =>
    modify fun c => { c with used := if c.used.contains found.1 then c.used else found.1 :: c.used }
    return found
  | none => complain ("no such table: " ++ (database.elim "" (· ++ ".")) ++ name)

def verifyUsed : Work Unit := do
  for i in (← get).used.reverse do verify i

end Work

end FormCompiler.Database
