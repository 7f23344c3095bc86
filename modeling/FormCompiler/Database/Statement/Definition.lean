import FormCompiler.Database.Statement.Query

namespace FormCompiler.Database.Reader

def columnNames : Reader (List Name) := parenthesized (separated do
  let n ← name
  let collation ← word? "collate"
  if collation then discard plainName
  let order ← oneOf? ["asc", "desc"]
  if collation || order.isSome then reject ("syntax error after column name \"" ++ n.written ++ "\"")
  return n)

def columnNames? : Reader (List Name) := do if ← lookSign "(" then columnNames else return []

def ifNotExists : Reader Bool := do
  if ← word? "if" then
    word "not"
    word "exists"
    return true
  else return false

def newName : Reader (Bool × Nat × FullName) := do
  let ifMissing ← ifNotExists
  let i ← start
  let first ← name
  if ← sign? "." then
    let i ← start
    return (ifMissing, i, ⟨some first, ← name⟩)
  return (ifMissing, i, ⟨none, first⟩)

def ifExists : Reader Bool := do
  if ← word? "if" then
    word "exists"
    return true
  else return false

def reaction : Reader String := do
  match ← oneOf? ["set", "cascade", "restrict", "no"] with
  | some "set" =>
    match ← oneOf? ["null", "default"] with
    | some w => return "set " ++ w
    | none => fail
  | some "no" =>
    word "action"
    return ""
  | some w => return w
  | none => fail

def deferrable : Reader Bool := do
  word "deferrable"
  if ← word? "initially" then
    match ← oneOf? ["deferred", "immediate"] with
    | some w => return w == "deferred"
    | none => fail
  else return false

def reference : Reader Reference := do
  let table ← name
  let columns ← columnNames?
  let reactions ← repeated do
    if ← word? "match" then
      let _ ← name
      return some ("", "")
    else if ← word? "on" then
      match ← oneOf? ["insert", "delete", "update"] with
      | some w => return some (w, ← reaction)
      | none => fail
    else return none
  let last (w : String) : String := ((reactions.filter (·.1 == w)).getLast?.map (·.2)).getD ""
  return { table, columns, onDelete := last "delete", onUpdate := last "update" }

def step (part : TablePart) : Reader TableStep := return ⟨part, (← get).position⟩

def defaultValue : Reader TablePart := do
  let i ← start
  if ← sign? "(" then
    let j ← start
    let e ← expression
    let text ← textFrom j
    sign ")"
    return .default e text
  let sign ← take? fun l => l.isSign "+" || l.isSign "-"
  let e ← match ← literal? with
    | some e => pure e
    | none => do
      if sign.isSome then fail
      let l ← take fun l => l.kind = .name || l.isWord "indexed" || l.word?.any Lexeme.contextual.contains
      match Word.lower l.text with
      | "true" => pure (.integer "1")
      | "false" => pure (.integer "0")
      | _ => pure (.string l.octets.toByteArray)
  return .default (if sign.any (·.isSign "-") then .unary .minus e else e) (← textFrom i)

def checked : Reader TablePart := parenthesized do
  let i ← start
  let e ← expression
  return .check e (← textFrom i)

def columnRule : Reader (Option TablePart) := do
  if ← word? "constraint" then return some (.named (← name))
  else if ← word? "default" then return some (← defaultValue)
  else if ← word? "null" then
    let _ ← onConflict
    return some .null
  else if ← word? "not" then
    if ← word? "null" then return some (.notNull (← onConflict))
    let _ ← deferrable
    return some (.deferred false)
  else if ← lookWord "deferrable" then return some (.deferred (← deferrable))
  else if ← word? "primary" then
    word "key"
    let direction ← oneOf? ["asc", "desc"]
    let conflict ← onConflict
    return some (.primaryKey (direction == some "desc") conflict (← word? "autoincrement"))
  else if ← word? "unique" then return some (.unique (← onConflict))
  else if ← word? "check" then return some (← checked)
  else if ← word? "references" then return some (.references (← reference))
  else if ← word? "collate" then return some (.collate (← plainName))
  else
    let isGenerated ← word? "generated"
    if isGenerated then word "always"
    let isAs ← if isGenerated then do
        word "as"
        pure true
      else word? "as"
    if isAs then
      let e ← parenthesized expression
      let kind ← take? fun l => l.kind = .name || l.word?.any Lexeme.contextual.contains
      return some (.generated e (kind.map ofLexeme))
    else return none

def addStep (s : TableStep) : Reader Unit :=
  modify fun r =>
    match r.begun with
    | .table d => { r with begun := .table { d with steps := d.steps ++ [s] } }
    | .alteration t p steps => { r with begun := .alteration t p (steps ++ [s]) }
    | _ => r

def columnDefinition : Reader Unit := do
  let n ← name
  let t ← type
  addStep (← step (.column n t))
  let _ ← repeated do
    match ← columnRule with
    | some part =>
      addStep (← step part)
      return some ()
    | none => return none

def tableRule : Reader (Option TablePart) := do
  if ← word? "constraint" then return some (.named (← name))
  else if ← word? "primary" then
    word "key"
    sign "("
    let columns ← sortings (← depth)
    let isCounting ← word? "autoincrement"
    sign ")"
    return some (.tablePrimaryKey columns (← onConflict) isCounting)
  else if ← word? "unique" then
    let columns ← parenthesized (do sortings (← depth))
    return some (.tableUnique columns (← onConflict))
  else if ← word? "check" then
    let rule ← checked
    let _ ← onConflict
    return some rule
  else if ← word? "foreign" then
    word "key"
    let columns ← columnNames
    word "references"
    let r ← reference
    let isDeferred ← if ← word? "not" then do
        let _ ← deferrable
        pure false
      else if ← lookWord "deferrable" then deferrable else pure false
    return some (.tableReferences columns { r with isDeferred })
  else return none

def startsTableRule : Reader Bool :=
  look fun l => l.word?.any ["constraint", "primary", "unique", "check", "foreign"].contains

def tableBody : Nat → Reader Unit
  | 0 => fail
  | fuel + 1 => do
    columnDefinition
    if ← sign? "," then
      if ← startsTableRule then
        let _ ← repeated do
          match ← tableRule with
          | some part =>
            addStep (← step part)
            if ← sign? "," then
              if !(← startsTableRule) then fail
            return some ()
          | none => return none
      else tableBody fuel

def tableOption : Reader (Bool × Bool) := do
  let unknown (n : Name) : Reader (Bool × Bool) := do
    if !(← look fun l => l.isSign "," || l.isSign ";") && !(← get).rest.isEmpty then fail
    reject ("unknown table option: " ++ n.written)
  if ← word? "without" then
    let n ← name
    if Word.lower n.written == "rowid" then return (true, false) else unknown n
  else
    let n ← name
    if Word.lower n.written == "strict" then return (false, true) else unknown n

def begunTable : Reader TableDefinition := do
  match (← get).begun with
  | .table d => return d
  | _ => fail

def table (isTemporary : Bool) : Reader Statement := do
  let (ifMissing, i, n) ← newName
  let position := (← get).position
  modify fun s => { s with begun := .table { isTemporary, ifMissing, name := n, position } }
  if ← word? "as" then
    let q ← readQuery
    return .createTable { ← begunTable with query := some q, text := ← octetsFrom i }
  sign "("
  tableBody (← budget)
  sign ")"
  let options ← if (← look fun l => l.isName || l.kind = .string) then separated tableOption else pure []
  return .createTable { ← begunTable with
    isKeyed := options.any (·.1)
    isStrict := options.any (·.2)
    text := ← octetsFrom i }

def index (isUnique : Bool) : Reader Statement := do
  let (ifMissing, i, n) ← newName
  word "on"
  let table ← name
  let columns ← parenthesized (do sortings (← depth))
  let where_ ← if ← word? "where" then do pure (some (← expression)) else pure none
  return .createIndex { isUnique, ifMissing, name := n, table, columns, where_, text := ← octetsToEnd i }

def view (isTemporary : Bool) : Reader Statement := do
  let (ifMissing, i, n) ← newName
  let columns ← columnNames?
  word "as"
  let query ← readQuery
  return .createView { isTemporary, ifMissing, name := n, columns, query, text := ← octetsFrom i }

def assignments : Reader (List Assignment) := separated do
  let columns ← if ← lookSign "(" then names else do pure [← name]
  let _ ← take isEquals
  return ⟨columns, ← expression⟩

def returning : Reader (List ResultColumn) := do
  if ← word? "returning" then resultColumns (← depth) else return []

def where? : Reader (Option Expr) := do if ← word? "where" then return some (← expression) else return none

def upserts : Nat → List Upsert → Reader (List Upsert × List ResultColumn)
  | 0, _ => fail
  | fuel + 1, found => do
    if ← word? "on" then
      word "conflict"
      let target ← if ← lookSign "(" then do
          let t ← parenthesized (do sortings (← depth))
          pure (some t)
        else pure none
      let condition ← if target.isSome then where? else pure none
      word "do"
      let changes ← if ← word? "nothing" then pure none else do
        word "update"
        word "set"
        let a ← assignments
        let w ← where?
        pure (some (a, w))
      let found := found ++ [{ target := target.getD [], where_ := condition, changes }]
      if target.isSome then upserts fuel found else return (found, ← returning)
    else return (found, ← returning)

def changedTable : Reader (FullName × Option Name) := do
  let n ← fullName
  let a ← if ← word? "as" then do pure (some (← name)) else pure none
  return (n, a)

variable (common : List CommonTable)

def insertRest (conflict : Option Conflict) : Reader InsertStatement := do
  word "into"
  let (table, asName) ← changedTable
  let columns ← if ← lookSign "(" then names else pure []
  if ← word? "default" then
    word "values"
    return { common, conflict, table, asName, columns, returning := ← returning }
  let source ← readQuery
  let (ups, ret) ← upserts (← budget) []
  return { common, conflict, table, asName, columns, source := some source, upserts := ups, returning := ret }

def updateOf (st : UpdateStatement) : Reader UpdateStatement := do
  let index ← indexHint
  word "set"
  let changes ← assignments
  let from_ ← if ← word? "from" then sources (← depth) else pure []
  return { st with index, changes, sources := from_, where_ := ← where? }

def updateRest : Reader UpdateStatement := do
  let conflict ← orConflict
  let (table, asName) ← changedTable
  return { ← updateOf { common, conflict, table, asName, changes := [] } with returning := ← returning }

def deleteRest : Reader DeleteStatement := do
  word "from"
  let (table, asName) ← changedTable
  let index ← indexHint
  let where_ ← where?
  return { common, table, asName, index, where_, returning := ← returning }

def checkAction (table : FullName) (index : Option (Option Name)) : Reader Unit := do
  if table.database.isSome then
    reject "qualified table names are not allowed on INSERT, UPDATE, and DELETE statements within triggers"
  match index with
  | some (some _) => reject "the INDEXED BY clause is not allowed on UPDATE or DELETE statements within triggers"
  | some none => reject "the NOT INDEXED clause is not allowed on UPDATE or DELETE statements within triggers"
  | none => return

def triggerAction : Reader TriggerAction := do
  if ← word? "update" then
    let conflict ← orConflict
    let st ← updateOf { conflict, table := ← fullName, changes := [] }
    checkAction st.table st.index
    return .update st
  else if ← word? "delete" then
    word "from"
    let table ← fullName
    let index ← indexHint
    let where_ ← where?
    checkAction table index
    return .delete { table, index, where_ }
  else if ← lookWord "insert" then
    skip
    insertAction (← orConflict)
  else if ← word? "replace" then insertAction (some .replace)
  else return .select (← readQuery)
where
  insertAction (conflict : Option Conflict) : Reader TriggerAction := do
    word "into"
    let table ← fullName
    let columns ← if ← lookSign "(" then names else pure []
    let source ← readQuery
    let (ups, ret) ← upserts (← budget) []
    checkAction table none
    if !ret.isEmpty then reject "cannot use RETURNING in a trigger"
    return .insert { conflict, table, columns, source := some source, upserts := ups }

def trigger (isTemporary : Bool) : Reader Statement := do
  let (ifMissing, i, n) ← newName
  let time ← match ← oneOf? ["before", "after", "instead"] with
    | some "after" => pure TriggerTime.after
    | some "instead" => do
      word "of"
      pure TriggerTime.instead
    | _ => pure TriggerTime.before
  let event ← match ← oneOf? ["delete", "insert", "update"] with
    | some "delete" => pure TriggerEvent.delete
    | some "insert" => pure TriggerEvent.insert
    | some _ => do if ← word? "of" then pure (TriggerEvent.update (← separated name)) else pure (TriggerEvent.update [])
    | none => fail
  word "on"
  let table ← fullName
  if ← word? "for" then
    word "each"
    word "row"
  let when_ ← if ← word? "when" then do pure (some (← expression)) else pure none
  let d : TriggerDefinition :=
    { isTemporary, ifMissing, name := n, time, event, table, when_, position := (← get).position }
  modify fun s => { s with begun := .trigger d }
  word "begin"
  let action : Reader TriggerAction := do
    let a ← triggerAction
    sign ";"
    return a
  let head ← action
  let rest ← repeated do
    if ← lookWord "end" then return none
    return some (← action)
  word "end"
  return .createTrigger { d with actions := head :: rest, text := ← octetsFrom i }

end FormCompiler.Database.Reader
