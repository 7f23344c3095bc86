import FormCompiler.Database.Query.Own
import FormCompiler.Database.Statement.Read

namespace FormCompiler.Database

structure Builder where
  database : String := "main"
  schema : Schema := {}
  isTemporary : Bool := false
  isLoading : Bool := false
  isUnchecked : Bool := false
  isNested : Bool := false
  expected : String × String × String := ("", "", "")
  root : Nat := 0

namespace Builder

abbrev Building := Except String

variable (b : Builder) (t : Table)

def checkName (name type table : String) : Building Unit :=
  if b.isUnchecked then .ok ()
  else if b.isLoading then
    if Name.same type b.expected.1 && Name.same name b.expected.2.1 && Name.same table b.expected.2.2 then .ok ()
    else .error ""
  else if !b.isNested && "sqlite_".toList.isPrefixOf (name.toList.map Char.toLower) then
    .error ("object name reserved for internal use: " ++ name)
  else .ok ()

def checkDatabase (n : FullName) : Building Unit :=
  if b.isLoading && n.database.isSome then .error "corrupt database" else .ok ()

def start (n : FullName) (isView ifMissing : Bool) : Building (Option Table) := do
  let isFirst := b.isLoading && b.root == 1
  let name := if isFirst then schemaTableName b.isTemporary else n.name.text
  if !isFirst then b.checkDatabase n
  b.checkName name (if isView then "view" else "table") name
  match b.schema.table? name with
  | some t =>
    if ifMissing then return none
    .error ((if t.isView then "view " else "table ") ++ n.name.written ++ " already exists")
  | none =>
    if (b.schema.index? name).isSome then .error ("there is already an index named " ++ name)
    return some { name, root := b.root }

def plainType (type : String) : String :=
  let isBlank (c : Char) : Bool := c = ' ' || (9 ≤ c.toNat && c.toNat ≤ 13)
  let trimEnd (cs : List Char) : List Char := (cs.reverse.dropWhile isBlank).reverse
  let without (word : String) (cs : List Char) : List Char :=
    trimEnd (cs.take (cs.length - word.length))
  let endsWith (word : String) (cs : List Char) : Bool :=
    word.toList.isSuffixOf (cs.map Char.toLower)
  let cs := type.toList
  let cs := if 16 ≤ cs.length && endsWith "always" cs then
      let cs := without "always" cs
      if endsWith "generated" cs then without "generated" cs else cs
    else cs
  match cs with
  | q :: rest =>
    if q == '\'' || q == '"' || q == '\x60' then String.ofList (Lexeme.unquote q rest)
    else if q == '[' then String.ofList (rest.takeWhile (· != ']'))
    else String.ofList cs
  | [] => ""

def addColumn (name type : String) : Building Table := do
  if 2000 ≤ t.columns.size then .error ("too many columns on " ++ t.name)
  if (t.columnIndex? name).isSome then .error ("duplicate column name: " ++ name)
  let type := plainType type
  let affinity := if type == "" then .blob else affinityOf type
  return { t with columns := t.columns.push { name, type, affinity } }

def onLast (f : Column → Column) : Table := { t with columns := t.columns.modify (t.columns.size - 1) f }

def columnOf? (e : Expr) : Option Nat :=
  match e.withoutCollation with
  | .column none none n => t.columnIndex? n.text
  | .string s => t.columnIndex? (Octets.text s.toList)
  | _ => none

def checkNulls (columns : List Sorting) : Building Unit :=
  columns.forM fun
    | .mk _ _ (some first) => .error ("unsupported use of NULLS " ++ (if first then "FIRST" else "LAST"))
    | _ => .ok ()

def checkCollation (name : String) : Building Unit :=
  if b.isLoading || (Collation.ofName? name).isSome then .ok ()
  else .error ("no such collation sequence: " ++ name)

def partsOf (columns : List Sorting) (isOfTable : Bool) : Building (List IndexPart) :=
  columns.mapM fun (.mk e isDescending _) => do
    let inner := match e.withoutCollation with
      | .string s => .column none none { text := Octets.text s.toList }
      | inner => inner
    inner.checkOwn t .index b.isLoading Expr.maxDepth
    let column := columnOf? t inner
    if column.isNone && isOfTable then .error "expressions prohibited in PRIMARY KEY and UNIQUE constraints"
    let own := (column.bind fun i => t.columns[i]?).bind (·.collation)
    let collation := (e.collation?.map (·.text)).getD (own.getD "BINARY")
    b.checkCollation collation
    return { column, expr := inner, collation, isDescending }

def samePart (p q : IndexPart) : Bool :=
  p.column.isSome && p.column == q.column && Name.same p.collation q.collation

def addIndex (columns : List Sorting) (conflict : Option Conflict) (origin : IndexOrigin) : Building Table := do
  checkNulls columns
  let parts ← b.partsOf t columns true
  let name := "sqlite_autoindex_" ++ t.name ++ "_" ++ Text.Numeral.ofNat (t.indices.length + 1)
  let isSame (i : Index) : Bool :=
    i.parts.length == parts.length && (i.parts.zip parts).all fun (p, q) => samePart p q
  match t.indices.find? isSame with
  | some i =>
    if i.conflict != conflict && i.conflict.isSome && conflict.isSome then
      .error "conflicting ON CONFLICT clauses specified"
    let merged : Index := { i with
      conflict := i.conflict <|> conflict
      origin := if origin = .primaryKey then origin else i.origin }
    return { t with indices := t.indices.map fun o => if o.name == i.name then merged else o }
  | none =>
    return { t with indices := { name, parts, isUnique := true, conflict, origin } :: t.indices }

def addKey (columns : Option (List Sorting)) (isDescending : Bool)
    (conflict : Option Conflict) (isCounting : Bool) : Building Table := do
  if t.hasKey then .error ("table \"" ++ t.name ++ "\" has more than one primary key")
  let last := t.columns.size - 1
  let found : List Nat := match columns with
    | none => [last]
    | some list => list.filterMap fun (.mk e _ _) => columnOf? t e
  let t := { t with hasKey := true }
  let t ← found.foldlM (fun (t : Table) i => do
    if (t.columns[i]?.bind (·.generated)).isSome then
      .error "generated columns cannot be part of the PRIMARY KEY"
    return { t with columns := t.columns.modify i fun c => { c with isKey := true } }) t
  let count := columns.elim 1 List.length
  let column := found.getLast?
  let isInteger := (column.bind fun i => t.columns[i]?).any fun c => Name.same c.type "integer"
  if count = 1 && isInteger && !isDescending then
    checkNulls (columns.getD [])
    return { t with rowColumn := column, keyConflict := conflict, isCounting }
  else if isCounting then .error "AUTOINCREMENT is only allowed on an INTEGER PRIMARY KEY"
  else
    let name := (t.columns[last]?).elim "" (·.name)
    b.addIndex t (columns.getD [.mk (.column none none { text := name }) isDescending none]) conflict .primaryKey

def addReference (columns : Option (List Name)) (r : Reference) : Building Table := do
  match columns with
  | none =>
    let last := t.columns.size - 1
    if 1 < r.columns.length then
      .error ("foreign key on " ++ (t.columns[last]?).elim "" (·.name) ++
        " should reference only one column of table " ++ r.table.written)
    return { t with references := ⟨[last], r⟩ :: t.references }
  | some names =>
    if !r.columns.isEmpty && r.columns.length != names.length then
      .error "number of columns in foreign key does not match the number of columns in the referenced table"
    let found ← names.mapM fun n =>
      match t.columnIndex? n.text with
      | some i => .ok i
      | none => .error ("unknown column \"" ++ n.text ++ "\" in foreign key definition")
    return { t with references := ⟨found, r⟩ :: t.references }

def trimmed (s : String) : String :=
  let isBlank (c : Char) : Bool := [' ', '\t', '\n', '\r', '\x0b', '\x0c'].contains c
  String.ofList (((s.toList.dropWhile isBlank).reverse.dropWhile isBlank).reverse)

def addComputation (e : Expr) (kind : Option Name) : Building Table := do
  let column := t.columns[t.columns.size - 1]?
  let wrong : Building Table := .error ("error in generated column \"" ++ column.elim "" (·.name) ++ "\"")
  if (column.bind (·.default)).isSome || (column.bind (·.generated)).isSome then wrong
  else
    let isKept ← match kind.map fun k => Word.lower k.written with
      | none | some "virtual" => pure false
      | some "stored" => pure true
      | some _ => do
        let _ ← wrong
        pure false
    if column.any (·.isKey) then .error "generated columns cannot be part of the PRIMARY KEY"
    return onLast t fun c => { c with generated := some (e, isKept) }

def addPart (label : Option String) : TablePart → Building (Table × Option String)
  | .column name type => return (← addColumn t name.text type, none)
  | .named name => return (t, some name.text)
  | .default e text => do
    let column := t.columns[t.columns.size - 1]?
    let name := column.elim "" (·.name)
    if !e.isConstant then .error ("default value of column [" ++ name ++ "] is not constant")
    if (column.bind (·.generated)).isSome then .error "cannot use DEFAULT on a generated column"
    return (onLast t fun c => { c with default := some e, defaultText := some (trimmed text) }, label)
  | .null => return (t, label)
  | .deferred isDeferred =>
    let references := match t.references with
      | f :: rest => { f with reference := { f.reference with isDeferred } } :: rest
      | [] => []
    return ({ t with references }, label)
  | .notNull conflict => return (onLast t fun c => { c with notNull := some (conflict.getD .abort) }, label)
  | .primaryKey isDescending conflict isCounting =>
    return (← b.addKey t none isDescending conflict isCounting, label)
  | .unique conflict => do
    let name := (t.columns[t.columns.size - 1]?).elim "" (·.name)
    return (← b.addIndex t [.mk (.column none none { text := name }) false none] conflict .unique, label)
  | .check e text => return ({ t with checks := t.checks ++ [(e, label.getD (trimmed text))] }, label)
  | .references r => return (← addReference t none r, label)
  | .collate name => do
    b.checkCollation name.text
    let last := t.columns.size - 1
    let t := onLast t fun c => { c with collation := some name.text }
    let reset (p : IndexPart) : IndexPart := if p.column == some last then { p with collation := name.text } else p
    return ({ t with indices := t.indices.map fun i => { i with parts := i.parts.map reset } }, label)
  | .generated e kind => return (← addComputation t e kind, label)
  | .tablePrimaryKey columns conflict isCounting => return (← b.addKey t (some columns) false conflict isCounting, none)
  | .tableUnique columns conflict => return (← b.addIndex t columns conflict .unique, none)
  | .tableReferences columns r => return (← addReference t (some columns) r, none)

def addParts (b : Builder) (limit : Nat) : List TableStep → Table → Option String → Building Table
  | [], t, _ => .ok t
  | s :: steps, t, label => do
    if limit ≤ s.position then return t
    let (t, label) ← b.addPart t label s.part
    addParts b limit steps t label

def checkStrict : Building Table := do
  t.columns.toList.forM fun c => do
    if !strictTypes.contains (Word.lower c.type) then
      .error (if c.type == "" then "missing datatype for " ++ t.name ++ "." ++ c.name
        else "unknown datatype for " ++ t.name ++ "." ++ c.name ++ ": \"" ++ c.type ++ "\"")
  let columns := t.columns.mapIdx fun i c => { c with
    affinity := if Word.lower c.type == "any" then .blob else c.affinity
    notNull := if c.isKey && t.rowColumn != some i then c.notNull <|> some .abort else c.notNull }
  return { t with isStrict := true, columns }

def keepByKey : Building Table := do
  if t.isCounting then .error "AUTOINCREMENT not allowed on WITHOUT ROWID tables"
  if !t.hasKey then .error ("PRIMARY KEY missing on table " ++ t.name)
  let columns := t.columns.map fun (c : Column) =>
    if c.isKey then { c with notNull := c.notNull <|> some .abort } else c
  let t := { t with columns }
  let t ← match t.rowColumn with
    | some i =>
      let name := (t.columns[i]?).elim "" (·.name)
      let part := .mk (.column none none { text := name }) false none
      b.addIndex { t with rowColumn := none } [part] t.keyConflict .primaryKey
    | none => pure t
  let isOwn (i : Index) : Bool := i.origin = .primaryKey
  return { t with isKeyed := true, indices := t.indices.map fun i => if isOwn i then { i with root := t.root } else i }

def finish (isKeyed isStrict : Bool) : Building Table := do
  let t ← if isStrict then checkStrict t else pure t
  let t ← if isKeyed then b.keepByKey t else pure t
  t.checks.forM fun (e, _) => e.checkOwn t .check b.isLoading Expr.maxDepth
  t.columns.toList.forM fun c =>
    match c.generated with
    | some (e, _) => e.checkOwn t .generated b.isLoading Expr.maxDepth
    | none => .ok ()
  if !t.columns.isEmpty && t.columns.all (·.generated.isSome) then
    .error "must have at least one non-generated column"
  return t

def begin (d : TableDefinition) (limit : Nat) : Building (Option Table) := do
  if limit ≤ d.position then return none
  match ← b.start d.name false d.ifMissing with
  | none => return none
  | some t => return some (← b.addParts limit d.steps t none)

def unlimited : Nat := 0xFFFFFFFF

def table (d : TableDefinition) : Building (Option Table) := do
  match ← b.begin d unlimited with
  | none => return none
  | some t =>
    if b.isLoading && d.query.isSome then .error ""
    return some (← b.finish t d.isKeyed d.isStrict)

def view (b : Builder) (d : ViewDefinition) : Building (Option Table) := do
  match ← b.start d.name true d.ifMissing with
  | none => return none
  | some t =>
    if b.isLoading && b.root != 0 then .error ""
    return some { t with view := some d }

def index (b : Builder) (d : IndexDefinition) : Building (Option (Table × Index)) := do
  b.checkDatabase d.name
  match b.schema.table? d.table.text with
  | none => .error ("no such table: " ++ b.database ++ "." ++ d.table.text)
  | some t =>
    if !b.isLoading && !b.isNested && "sqlite_".toList.isPrefixOf (t.name.toList.map Char.toLower) then
      .error ("table " ++ t.name ++ " may not be indexed")
    if t.isView then .error "views may not be indexed"
    if t.isVirtual then .error "virtual tables may not be indexed"
    let name := d.name.name.text
    b.checkName name "index" t.name
    if !b.isLoading then
      if (b.schema.table? name).isSome then .error ("there is already a table named " ++ name)
    if (b.schema.index? name).isSome then
      if d.ifMissing then return none
      .error ("index " ++ name ++ " already exists")
    checkNulls d.columns
    match d.where_ with
    | some e => e.checkOwn t .condition b.isLoading Expr.maxDepth
    | none => pure ()
    let parts ← b.partsOf t d.columns false
    return some (t, { name, root := b.root, parts, isUnique := d.isUnique, where_ := d.where_ })

def beginTrigger (d : TriggerDefinition) (t : Table) : Building Bool := do
  if t.isVirtual then .error "cannot create triggers on virtual tables"
  let name := d.name.name.text
  b.checkName name "trigger" t.name
  if (b.schema.trigger? name).isSome then
    if d.ifMissing then return false
    .error ("trigger " ++ d.name.name.written ++ " already exists")
  if "sqlite_".toList.isPrefixOf (t.name.toList.map Char.toLower) then
    .error "cannot create trigger on system table"
  let shown := (d.table.database.elim "" fun n => n.text ++ ".") ++ d.table.name.text
  if t.isView && d.time != .instead then
    .error ("cannot create " ++ (if d.time = .before then "BEFORE" else "AFTER") ++ " trigger on view: " ++ shown)
  if !t.isView && d.time = .instead then
    .error ("cannot create INSTEAD OF trigger on table: " ++ shown)
  return true

end Builder

end FormCompiler.Database
