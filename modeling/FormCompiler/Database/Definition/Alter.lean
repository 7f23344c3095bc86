import FormCompiler.Database.Definition.Virtual
import FormCompiler.Database.Definition.Text

namespace FormCompiler.Database

open Store (Obstacle Code)

namespace Work

def alterable (n : FullName) : Work (Nat × Table) :=
  locate (n.database.map (·.text)) n.name.text

def checkAlterable (t : Table) : Work Unit := do
  if "sqlite_".toList.isPrefixOf (t.name.toList.map Char.toLower) then
    complain ("table " ++ t.name ++ " may not be altered")

variable (i : Nat)

def rewriteDescriptions (change : Loading.Fields → Option Loading.Fields) : Work Unit := do
  let e := (← get).encoding
  for (n, f) in ← descriptions i do
    match change f with
    | none => pure ()
    | some f =>
      let root : Value := match f.root.bind fun r => Text.Numeral.magnitude? r.toList with
        | some r => .integer r
        | none => .null
      paging i (Paging.putRow 1 n (Row.write e (f.values root)))

def relearn (change : String) : Work Unit := do
  countDefinition i
  modifyMember i fun m => { m with schema := none }
  let schema ← readSchemaAfter i (some change)
  modifyMember i fun m => { m with schema := some schema }

def checkTriggerAlone (g : Trigger) : Work Unit := do
  let (k, t) ← locate (some (← member i).name) g.table
  checkTrigger budget (← triggerSite [] k t g.definition.event i g) g.definition

def isOwnDescription (f : Loading.Fields) : Bool :=
  f.name.any fun s => "sqlite_".toList.isPrefixOf (s.toList.map Char.toLower)

def testDefinitions (when_ : String) : Work Unit := do
  if !(← get).overlooks then
    for (_, f) in ← descriptions i do
      let name := f.name.getD ""
      let s ← schema i
      let result ← attempt (do
        match f.type with
        | some "view" =>
          match (s.table? name).bind fun t => t.view.map (t, ·) with
          | some (t, d) => discard (view i t d)
          | none => pure ()
        | some "trigger" =>
          match s.trigger? name with
          | some g => checkTriggerAlone i g
          | none => pure ()
        | _ => pure ())
      match result with
      | .ok _ => pure ()
      | .error (.detailed .error m) =>
        complain ("error in " ++ f.type.getD "" ++ " " ++ name ++
          (if when_ == "" then "" else " " ++ when_) ++ ": " ++ m)
      | .error o => throw o

def renameTable (t : Table) (new : Name) : Work Unit := do
  let s ← schema i
  if (s.table? new.text).isSome || (s.index? new.text).isSome then
    complain ("there is already another table or index with this name: " ++ new.text)
  checkAlterable t
  checkFreeName new.text
  if t.isView then complain ("view " ++ t.name ++ " may not be altered")
  enterForStatement i
  testDefinitions i ""
  let auto := "sqlite_autoindex_" ++ t.name
  rewriteDescriptions i fun f =>
    let isOf : Bool := f.table.any (Name.same t.name)
    let name := f.name.map fun s =>
      if isOf && f.type == some "table" then new.text
      else if isOf && auto.toList.isPrefixOf s.toList then
        "sqlite_autoindex_" ++ new.text ++ String.ofList (s.toList.drop auto.length)
      else s
    let text := f.text.map fun s => DefinitionText.withTableRenamed s t.name new.text
    some { f with name, table := if isOf then some new.text else f.table, text }
  match s.table? "sqlite_sequence" with
  | some q =>
    for place in ← (tableRows i q).toArray do
      match place.number, place.values.toList with
      | some n, [name, seq] =>
        if name.isSame (.ofString t.name) then
          paging i (Paging.putRow q.root n (Row.write (← get).encoding [.ofString new.text, seq]))
      | _, _ => pure ()
  | none => pure ()
  relearn i "rename"
  testDefinitions i "after rename"

def isLiteral : Expr → Bool
  | .integer _ | .float _ | .string _ | .blob _ | .null => true
  | .unary .minus e | .unary .plus e => match e with
    | .integer _ | .float _ => true
    | _ => false
  | .column none none n => (Scope.other? none n).isSome
  | .cast e _ => match e with
    | .integer _ | .float _ | .string _ => true
    | _ => false
  | _ => false

def addColumn (t : Table) (steps : List TableStep) (text : String) : Work Unit := do
  if t.isVirtual then complain "virtual tables may not be altered"
  if t.isView then complain "Cannot add a column to a view"
  checkAlterable t
  let b ← builderFor i
  let parts := steps.map (·.part)
  let bare : Table := { name := "sqlite_altertab_" ++ t.name, columns := t.columns }
  let extended ← ofText (b.addParts Builder.unlimited steps bare none)
  if parts.any fun | .primaryKey .. => true | _ => false then complain "Cannot add a PRIMARY KEY column"
  if parts.any fun | .unique _ => true | _ => false then complain "Cannot add a UNIQUE column"
  enterForStatement i
  let isEmpty := (← (tableRows i t).first?).isNone
  let unlessEmpty (m : String) : Work Unit := if isEmpty then return else complain m
  let column := extended.columns.back?
  match column.bind (·.generated) with
  | none =>
    let default := (column.bind (·.default)).filter fun | .null => false | _ => true
    if (← get).checksReferences && !extended.references.isEmpty && default.isSome then
      unlessEmpty "Cannot add a REFERENCES column with non-NULL default value"
    if (column.bind (·.notNull)).isSome && default.isNone then
      unlessEmpty "Cannot add a NOT NULL column with default value NULL"
    if default.any fun e => !isLiteral e then unlessEmpty "Cannot add a column with non-constant default"
  | some (_, isKept) => if isKept then unlessEmpty "cannot add a STORED column"
  rewriteDescriptions i fun f =>
    if f.type == some "table" && f.name.any (Name.same t.name) then
      some { f with text := f.text.map fun s => DefinitionText.withColumn s text }
    else none
  relearn i "add column"
  match (← schema i).table? t.name with
  | none => return
  | some new =>
    let checks := new.checks.drop t.checks.length
    if !checks.isEmpty then
      for place in ← (tableRows i new).toArray do
        for (e, _) in checks do
          if (← evalFor new place e).truth? == some false then complain "CHECK constraint failed"

def renameColumn (t : Table) (old new : Name) : Work Unit := do
  checkAlterable t
  if t.isView then complain ("cannot rename columns of view \"" ++ t.name ++ "\"")
  if t.isVirtual then complain ("cannot rename columns of virtual table \"" ++ t.name ++ "\"")
  if (t.columnIndex? old.text).isNone then complain ("no such column: \"" ++ old.written ++ "\"")
  enterForStatement i
  testDefinitions i ""
  rewriteDescriptions i fun f =>
    if isOwnDescription f then none
    else
      let isOf : Bool := f.table.any (Name.same t.name)
      let uses (s : Octets) : Bool := (Lexeme.read s.letters).any fun l => l.isName && Name.same l.name t.name
      let edited (s : Octets) : Octets :=
        match f.type with
        | some "table" =>
          if isOf then DefinitionText.withColumnRenamed s t.name old new
          else DefinitionText.withReferenceRenamed s t.name old new
        | some "index" => if isOf then DefinitionText.withUseRenamed s [t.name] old new else s
        | _ =>
          let names := DefinitionText.namesOf (Lexeme.read s.letters) t.name
          if uses s then DefinitionText.withUseRenamed s (if isOf then "new" :: "old" :: names else names) old new
            else s
      some { f with text := f.text.map edited }
  relearn i "rename"
  testDefinitions i "after rename"

def dropColumn (t : Table) (name : Name) : Work Unit := do
  checkAlterable t
  if t.isView then complain ("cannot drop column from view \"" ++ t.name ++ "\"")
  if t.isVirtual then complain ("cannot drop column from virtual table \"" ++ t.name ++ "\"")
  match t.columnIndex? name.text with
  | none => complain ("no such column: \"" ++ name.written ++ "\"")
  | some k =>
    let isUnique : Bool := t.indices.any fun x => x.origin = .unique && x.parts.map (·.column) == [some k]
    if (t.columns[k]?).any (·.isKey) then complain ("cannot drop PRIMARY KEY column: \"" ++ name.text ++ "\"")
    if isUnique then complain ("cannot drop UNIQUE column: \"" ++ name.text ++ "\"")
    if t.columns.size = 1 then complain ("cannot drop column \"" ++ name.text ++ "\": no other columns exist")
    enterForStatement i
    testDefinitions i ""
    let places ← (tableRows i t).toArray
    rewriteDescriptions i fun f =>
      if f.type == some "table" && f.name.any (Name.same t.name) then
        some { f with text := f.text.map fun s => DefinitionText.withoutColumn s k }
      else none
    relearn i "drop column"
    testDefinitions i "after drop column"
    match (← schema i).table? t.name with
    | none => return
    | some new =>
      if new.isKeyed then discard (paging i (Paging.clearTree new.tree))
      for place in places do
        let place := { place with values := place.values.eraseIdxIfInBounds k }
        match place.number, new.keyIndex? with
        | some n, _ => paging i (Paging.putRow new.root n (Row.write (← get).encoding (storedRow new place)))
        | none, some own => putKey i new own (← keyOf new own place)
        | none, none => pure ()

def alter (n : FullName) (change : Alteration) : Work Unit := do
  let (i, t) ← alterable n
  match change with
  | .rename new =>
    renameTable i t new
    match t.keeping? with
    | some kept =>
      for (ending, _) in kept.tables t.name do
        renameTable i (← beside i t ending) { text := new.text ++ "_" ++ ending }
    | none => return
  | .addColumn steps text => addColumn i t steps text
  | .renameColumn old new => renameColumn i t old new
  | .dropColumn name => dropColumn i t name

end Work

end FormCompiler.Database
