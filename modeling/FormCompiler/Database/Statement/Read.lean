import FormCompiler.Database.Statement.Definition

namespace FormCompiler.Database

namespace Reader

def creation : Reader Statement := do
  if ← word? "unique" then
    word "index"
    index true
  else if ← word? "index" then index false
  else if ← word? "virtual" then
    word "table"
    let (ifMissing, i, n) ← newName
    word "using"
    let module ← name
    let args ← if ← sign? "(" then moduleArguments (← budget) (← start) 0 [] else pure []
    return .createVirtual n ifMissing module args (← octetsFrom i)
  else
    let isTemporary := (← oneOf? ["temp", "temporary"]).isSome
    match ← oneOf? ["table", "view", "trigger"] with
    | some "table" => table isTemporary
    | some "view" => view isTemporary
    | some _ => trigger isTemporary
    | none => fail
where
  moduleArguments : Nat → Nat → Nat → List Octets → Reader (List Octets)
    | 0, _, _, _ => fail
    | fuel + 1, from_, open_, args => do
      match ← peek with
      | none => fail
      | some l =>
        if l.kind = .illegal || l.isSign ";" then fail
        let piece ← octetsFrom from_
        let args' := if piece.isEmpty then args else args ++ [piece]
        skip
        if l.isSign "(" then moduleArguments fuel from_ (open_ + 1) args
        else if l.isSign ")" then if open_ = 0 then return args' else moduleArguments fuel from_ (open_ - 1) args
        else if l.isSign "," && open_ = 0 then moduleArguments fuel (← start) 0 args'
        else moduleArguments fuel from_ open_ args

def settingValue : Reader (String × Option String) := do
  match ← peek with
  | none => fail
  | some l =>
    if l.isSign "-" || l.isSign "+" || l.kind = .integer || l.kind = .float then
      let text ← signed
      return (text, some (if text.startsWith "-" then String.ofList (text.toList.drop 1) else text))
    else if l.isWord "on" || l.isWord "delete" || l.isWord "default" then
      skip
      return (l.text, none)
    else return ((← name).text, none)

def setting : Reader Pragma := do
  let n ← fullName
  let value ←
    if (← take? isEquals).isSome then do pure (some (← settingValue))
    else if ← lookSign "(" then do pure (some (← parenthesized settingValue))
    else pure none
  return { database := n.database, name := n.name, value := value.map (·.1), digits := value.bind (·.2) }

def transaction? : Reader Unit := do
  if ← word? "transaction" then discard (take? fun l => l.isName || l.kind = .string)

def alteration : Reader Statement := do
  word "table"
  let table ← fullName
  let position := (← get).position
  match ← oneOf? ["rename", "add", "drop"] with
  | some "rename" =>
    if ← word? "to" then return .alter table position (.rename (← name))
    discard (word? "column")
    let from_ ← name
    word "to"
    return .alter table position (.renameColumn from_ (← name))
  | some "drop" =>
    discard (word? "column")
    return .alter table position (.dropColumn (← name))
  | some _ =>
    modify fun s => { s with begun := .alteration table position [] }
    discard (word? "column")
    let i ← start
    columnDefinition
    let steps := match (← get).begun with
      | .alteration _ _ steps => steps
      | _ => []
    return .alter table position (.addColumn steps (← textFrom i))
  | none => fail

def withCommon (common : List CommonTable) : Reader Statement := do
  if ← word? "insert" then
    let conflict ← orConflict
    return .insert (← insertRest common conflict)
  else if ← word? "replace" then return .insert (← insertRest common (some .replace))
  else if ← word? "update" then return .update (← updateRest common)
  else if ← word? "delete" then return .delete (← deleteRest common)
  else
    match ← readQuery with
    | .mk [] first rest => return .select (.mk common first rest)
    | _ => fail

def statement : Reader Statement := do
  match ← peek with
  | none => fail
  | some l =>
    match l.word? with
    | some "begin" =>
      skip
      let start ← match ← oneOf? ["deferred", "immediate", "exclusive"] with
        | some "immediate" => pure Start.immediate
        | some "exclusive" => pure Start.exclusive
        | _ => pure Start.deferred
      transaction?
      return .begin start
    | some "commit" | some "end" =>
      skip
      transaction?
      return .commit
    | some "rollback" =>
      skip
      transaction?
      if ← word? "to" then
        discard (word? "savepoint")
        return .rollback (some (← name))
      return .rollback none
    | some "savepoint" =>
      skip
      return .savepoint (← name)
    | some "release" =>
      skip
      discard (word? "savepoint")
      return .release (← name)
    | some "create" =>
      skip
      creation
    | some "drop" =>
      skip
      let kind ← match ← oneOf? ["table", "index", "view", "trigger"] with
        | some "table" => pure ObjectKind.table
        | some "index" => pure ObjectKind.index
        | some "view" => pure ObjectKind.view
        | some _ => pure ObjectKind.trigger
        | none => fail
      let ifThere ← ifExists
      return .drop kind ifThere (← fullName)
    | some "alter" =>
      skip
      alteration
    | some "pragma" =>
      skip
      return .pragma (← setting)
    | some "attach" =>
      skip
      discard (word? "database")
      let file ← expression
      word "as"
      let n ← expression
      if ← word? "key" then discard expression
      return .attach file n
    | some "detach" =>
      skip
      discard (word? "database")
      return .detach (← expression)
    | some "vacuum" =>
      skip
      let n ← take? fun l => l.isName || l.kind = .string
      let target ← if ← word? "into" then do pure (some (← expression)) else pure none
      return .vacuum (n.map ofLexeme) target
    | some "reindex" =>
      skip
      if ← look fun l => l.isName || l.kind = .string then return .reindex (some (← fullName)) else return .reindex none
    | some "analyze" =>
      skip
      if ← look fun l => l.isName || l.kind = .string then return .analyze (some (← fullName)) else return .analyze none
    | some "with" =>
      skip
      withCommon (← commonTables (← depth))
    | some "select" | some "values" => return .select (← readQuery)
    | some "insert" | some "replace" | some "update" | some "delete" => withCommon []
    | _ => fail

def complete : Reader Statement := do
  let isExplained ← word? "explain"
  if isExplained then
    if ← word? "query" then word "plan"
  let s ← statement
  if !(← get).rest.isEmpty then sign ";"
  return if isExplained then .explain s else s

end Reader

inductive Reading where
  | nothing
  | statement (s : Statement) (parameters : Array String) (rest : List Lexeme)
  | wrong (mistake : Mistake) (begun : Begun)

namespace Reading

def next (source : Array Char) (lexemes : List Lexeme) : Reading :=
  match lexemes.dropWhile (·.isSign ";") with
  | [] => .nothing
  | rest =>
    match Reader.complete { rest, source } with
    | .ok s r => .statement s r.parameters r.rest
    | .error m r => .wrong m r.begun

def ofText (text : Octets) : Reading :=
  let chars := text.letters
  next chars.toArray (Lexeme.read chars)

end Reading

end FormCompiler.Database
