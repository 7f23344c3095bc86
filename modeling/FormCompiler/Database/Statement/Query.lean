import FormCompiler.Database.Statement.Reader

namespace FormCompiler.Database.Reader

namespace Binding

def or : Nat := 1
def and : Nat := 2
def not : Nat := 3
def equality : Nat := 4
def comparison : Nat := 5
def bits : Nat := 7
def sum : Nat := 8
def product : Nat := 9
def concat : Nat := 10
def collate : Nat := 11
def sign : Nat := 12

end Binding

def operator? (l : Lexeme) : Option (BinaryOp × Nat) :=
  match l.word? with
  | some "or" => some (.or, Binding.or)
  | some "and" => some (.and, Binding.and)
  | some _ => none
  | none =>
    if l.kind != .sign then none
    else
      match l.text with
      | "=" | "==" => some (.eq, Binding.equality)
      | "<>" | "!=" => some (.ne, Binding.equality)
      | "<" => some (.lt, Binding.comparison)
      | "<=" => some (.le, Binding.comparison)
      | ">" => some (.gt, Binding.comparison)
      | ">=" => some (.ge, Binding.comparison)
      | "&" => some (.bitAnd, Binding.bits)
      | "|" => some (.bitOr, Binding.bits)
      | "<<" => some (.shiftLeft, Binding.bits)
      | ">>" => some (.shiftRight, Binding.bits)
      | "+" => some (.add, Binding.sum)
      | "-" => some (.sub, Binding.sum)
      | "*" => some (.mul, Binding.product)
      | "/" => some (.div, Binding.product)
      | "%" => some (.rem, Binding.product)
      | "||" => some (.concat, Binding.concat)
      | "->" => some (.arrow, Binding.concat)
      | "->>" => some (.longArrow, Binding.concat)
      | _ => none

def blobOf (l : Lexeme) : ByteArray :=
  let digits := (l.chars.drop 2).dropLast
  go digits #[]
where
  go : List Char → Array UInt8 → ByteArray
    | a :: b :: rest, bytes => go rest (bytes.push (16 * Word.hexValue [a] + Word.hexValue [b]).toUInt8)
    | _, bytes => ⟨bytes⟩

def ungroup (l : Lexeme) : Reader Expr := do
  let isHex : Bool := match l.chars with
    | '0' :: x :: _ => x == 'x' || x == 'X'
    | _ => false
  let isDigit (c : Char) : Bool := if isHex then Word.isHex c else c.isDigit
  let rec isWrong : Option Char → List Char → Bool
    | _, [] => false
    | before, c :: rest =>
      (c == '_' && !(before.any isDigit && rest.head?.any isDigit)) || isWrong (some c) rest
  if isWrong none l.chars then reject ("unrecognized token: \"" ++ l.text ++ "\"")
  let text := String.ofList (l.chars.filter (· != '_'))
  if !isHex && l.chars.any (fun c => c == '.' || c == 'e' || c == 'E') then return .float text
  else return .integer text

def literal? : Reader (Option Expr) := do
  match ← peek with
  | none => return none
  | some l =>
    match l.kind with
    | .integer => skip; return some (.integer l.text)
    | .float => skip; return some (.float l.text)
    | .grouped => skip; return some (← ungroup l)
    | .string => skip; return some (.string l.octets.toByteArray)
    | .blob => skip; return some (.blob (blobOf l))
    | .word =>
      match l.word? with
      | some "null" => skip; return some .null
      | some w =>
        if ["current_date", "current_time", "current_timestamp"].contains w then
          skip
          return some (.now w)
        else return none
      | none => return none
    | _ => return none

def sortOrder : Reader (Bool × Option Bool) := do
  let direction ← oneOf? ["asc", "desc"]
  let nulls ← if ← word? "nulls" then do
      match ← oneOf? ["first", "last"] with
      | some w => pure (some (w == "first"))
      | none => fail
    else pure none
  return (direction == some "desc", nulls)

def asName? : Reader (Option Name) := do
  if ← word? "as" then return some (← name)
  else return (← take? Lexeme.isPlainName).map ofLexeme

def joinOf (words : List Name) : Reader Join := do
  let known := ["natural", "left", "outer", "right", "full", "inner", "cross"]
  let ws := words.map fun w => Word.lower w.written
  let has (w : String) : Bool := ws.contains w
  let isLeft := has "left" || has "full"
  let isRight := has "right" || has "full"
  let isInner := has "inner" || has "cross"
  let isOuter := isLeft || isRight || has "outer"
  if !ws.all known.contains || (isInner && isOuter) || (isOuter && !isLeft && !isRight) then
    reject ("unknown join type: " ++ " ".intercalate (words.map (·.written)))
  return { isNatural := has "natural", isLeft, isRight, isCross := has "cross" }

def join? : Reader (Option Join) := do
  if ← sign? "," then return some {}
  else if ← word? "join" then return some {}
  else
    match ← take? fun l => l.word?.any Lexeme.joinWords.contains with
    | none => return none
    | some first =>
      if ← word? "join" then return some (← joinOf [ofLexeme first])
      let second ← name
      if ← word? "join" then return some (← joinOf [ofLexeme first, second])
      let third ← name
      word "join"
      return some (← joinOf [ofLexeme first, second, third])

def indexHint : Reader (Option (Option Name)) := do
  if ← word? "indexed" then
    word "by"
    return some (some (← name))
  else if ← word? "not" then
    word "indexed"
    return some none
  else return none

def Compound.name : Compound → String
  | .union => "UNION"
  | .unionAll => "UNION ALL"
  | .except => "EXCEPT"
  | .intersect => "INTERSECT"

def compound? : Reader (Option Compound) := do
  match ← oneOf? ["union", "except", "intersect"] with
  | some "union" => if ← word? "all" then return some .unionAll else return some .union
  | some "except" => return some .except
  | some _ => return some .intersect
  | none => return none

def checkCores : List (Option Compound × Core) → Reader Unit
  | [] | [_] => return
  | (_, core) :: (op, next) :: rest => do
    let after := op.elim "" Compound.name
    match core with
    | .select _ _ _ _ _ _ _ (_ :: _) _ _ => reject ("ORDER BY clause should come after " ++ after ++ " not before")
    | .select _ _ _ _ _ _ _ [] (some _) _ => reject ("LIMIT clause should come after " ++ after ++ " not before")
    | _ => checkCores ((op, next) :: rest)

def exclusion : Reader Exclusion := do
  if !(← word? "exclude") then return .nothing
  if ← word? "no" then
    word "others"
    return .nothing
  else if ← word? "current" then
    word "row"
    return .current
  else
    match ← oneOf? ["group", "ties"] with
    | some "group" => return .group
    | some _ => return .ties
    | none => fail

def isOrdered (start stop : FrameBound Expr) : Bool :=
  match start, stop with
  | .current, .before _ | .after _, .before _ | .after _, .current => false
  | _, _ => true

def startsQuery : Reader Bool := look fun l => l.isWord "select" || l.isWord "values" || l.isWord "with"

mutual

def expr : Nat → Nat → Reader Expr
  | 0, _ => fail
  | fuel + 1, least => do
    let a ← operand fuel
    infixes fuel least a

def infixes : Nat → Nat → Expr → Reader Expr
  | 0, _, _ => fail
  | fuel + 1, least, a => do
    match ← peek with
    | none => return a
    | some l =>
      match operator? l with
      | some (op, level) =>
        if level < least then return a
        skip
        let b ← expr fuel (level + 1)
        infixes fuel least (.binary op a b)
      | none =>
        match l.word? with
        | some "collate" =>
          if Binding.collate < least then return a
          skip
          let c ← plainName
          infixes fuel least (.collate a c)
        | some "isnull" =>
          if Binding.equality < least then return a
          skip
          infixes fuel least (.unary .isNull a)
        | some "notnull" =>
          if Binding.equality < least then return a
          skip
          infixes fuel least (.unary .notNull a)
        | some "is" =>
          if Binding.equality < least then return a
          skip
          let negated ← word? "not"
          let distinct ← word? "distinct"
          if distinct then word "from"
          let b ← expr fuel (Binding.equality + 1)
          infixes fuel least (.binary (if negated != distinct then .isNot else .is) a b)
        | some "not" =>
          if Binding.not < least then return a
          skip
          if ← word? "null" then infixes fuel least (.unary .notNull a)
          else
            match ← relation fuel true a with
            | some e => infixes fuel least e
            | none => fail
        | some _ =>
          if Binding.equality < least then return a
          match ← relation fuel false a with
          | some e => infixes fuel least e
          | none => return a
        | none => return a

def relation : Nat → Bool → Expr → Reader (Option Expr)
  | 0, _, _ => fail
  | fuel + 1, negated, a => do
    match ← oneOf? ["like", "glob", "regexp", "match", "between", "in"] with
    | none => return none
    | some "between" =>
      let low ← expr fuel (Binding.and + 1)
      word "and"
      let high ← expr fuel (Binding.equality + 1)
      return some (.between negated a low high)
    | some "in" =>
      if ← sign? "(" then
        if ← startsQuery then
          let q ← query fuel
          sign ")"
          return some (.inQuery negated a q)
        let items ← expressions fuel
        sign ")"
        return some (.inList negated a items)
      let table ← fullName
      let args ← if ← sign? "(" then do
          let args ← expressions fuel
          sign ")"
          pure args
        else pure []
      return some (.inTable negated a table args)
    | some op =>
      let b ← expr fuel (Binding.equality + 1)
      let escape ← if ← word? "escape" then do pure (some (← expr fuel (Binding.equality + 1))) else pure none
      return some (.like op negated a b escape)

def expressions : Nat → Reader (List Expr)
  | 0 => fail
  | fuel + 1 => do
    if ← look fun l => l.isSign ")" || l.isWord "order" then return []
    separated (expr fuel 0)

def operand : Nat → Reader Expr
  | 0 => fail
  | fuel + 1 => do
    match ← peek with
    | none => fail
    | some l =>
      match l.word? with
      | some "not" =>
        skip
        return .unary .not (← expr fuel Binding.not)
      | some "exists" =>
        skip
        return .exists (← parenthesized (query fuel))
      | some "case" =>
        skip
        let base ← if ← lookWord "when" then pure none else do pure (some (← expr fuel 0))
        let branches ← branchesOf fuel
        let otherwise ← if ← word? "else" then do pure (some (← expr fuel 0)) else pure none
        word "end"
        return .case base branches otherwise
      | some "cast" =>
        skip
        parenthesized do
          let a ← expr fuel 0
          word "as"
          return .cast a (← type)
      | some "raise" =>
        skip
        parenthesized do
          if ← word? "ignore" then return .raise .ignore ""
          let action ← match ← oneOf? ["rollback", "abort", "fail"] with
            | some "rollback" => pure Conflict.rollback
            | some "abort" => pure Conflict.abort
            | some _ => pure Conflict.fail
            | none => fail
          sign ","
          return .raise action (← name).text
      | _ =>
        if l.isSign "-" then
          skip
          return .unary .minus (← expr fuel Binding.sign)
        else if l.isSign "+" then
          skip
          return .unary .plus (← expr fuel Binding.sign)
        else if l.isSign "~" then
          skip
          return .unary .bitNot (← expr fuel Binding.sign)
        else if l.isSign "(" then
          skip
          if ← startsQuery then
            let q ← query fuel
            sign ")"
            return .query q
          let items ← separated (expr fuel 0)
          sign ")"
          return match items with
            | [e] => e
            | items => .vector items
        else if l.kind = .parameter then
          skip
          return .parameter (← parameter l.text)
        else if l.kind = .string && ((← get).rest.drop 1).head?.any (·.isSign ".") then columnOf fuel
        else
          match ← literal? with
          | some e => return e
          | none => columnOf fuel

def branchesOf : Nat → Reader (List (Expr × Expr))
  | 0 => fail
  | fuel + 1 => do
    let branch : Reader (Expr × Expr) := do
      word "when"
      let a ← expr fuel 0
      word "then"
      let b ← expr fuel 0
      return (a, b)
    let first ← branch
    let rest ← repeated do
      if ← lookWord "when" then return some (← branch) else return none
    return first :: rest

def columnOf : Nat → Reader Expr
  | 0 => fail
  | fuel + 1 => do
    let first ← take fun l => l.isName || l.kind = .string
    let n := ofLexeme first
    if ← sign? "." then
      let second ← name
      if ← sign? "." then
        let third ← name
        return .column (some n) (some second) third
      return .column none (some n) second
    if first.kind != .string then
      if ← sign? "(" then
        if ← sign? "*" then
          sign ")"
          let (filter, window) ← filterOver fuel
          return .call n false true [] [] filter window
        let distinct ← oneOf? ["distinct", "all"]
        let args ← expressions fuel
        let order ← if ← word? "order" then do
            word "by"
            sortings fuel
          else pure []
        sign ")"
        let (filter, window) ← filterOver fuel
        return .call n (distinct == some "distinct") false args order filter window
    return .column none none n

def filterOver : Nat → Reader (Option Expr × Option Window)
  | 0 => fail
  | fuel + 1 => do
    let filter ← if ← word? "filter" then do
        let e ← parenthesized do
          word "where"
          expr fuel 0
        pure (some e)
      else pure none
    let window ← if ← word? "over" then do
        if ← lookSign "(" then do
          let w ← parenthesized (window fuel)
          pure (some w)
        else do pure (some (Window.named (← name)))
      else pure none
    return (filter, window)

def window : Nat → Reader Window
  | 0 => fail
  | fuel + 1 => do
    let isStart (l : Lexeme) : Bool :=
      l.word?.any ["partition", "order", "range", "rows", "groups"].contains
    let base ← if ← look fun l => isStart l || l.isSign ")" then pure none else do pure (some (← name))
    let partition ← if ← word? "partition" then do
        word "by"
        separated (expr fuel 0)
      else pure []
    let order ← if ← word? "order" then do
        word "by"
        sortings fuel
      else pure []
    match ← oneOf? ["range", "rows", "groups"] with
    | none => return .own base partition order none
    | some unit =>
      let (start, stop) ← if ← word? "between" then do
          let start ← bound fuel true
          word "and"
          pure (start, ← bound fuel false)
        else do pure (← bound fuel true, .current)
      let exclusion ← exclusion
      if !isOrdered start stop then reject "unsupported frame specification"
      let unit : FrameUnit := if unit == "rows" then .rows else if unit == "groups" then .groups else .range
      return .own base partition order (some { unit, start, stop, exclusion })

def bound : Nat → Bool → Reader (FrameBound Expr)
  | 0, _ => fail
  | fuel + 1, isStart => do
    if ← word? "unbounded" then
      word (if isStart then "preceding" else "following")
      return if isStart then .first else .last
    else if ← word? "current" then
      word "row"
      return .current
    else
      let e ← expr fuel 0
      match ← oneOf? ["preceding", "following"] with
      | some "preceding" => return .before e
      | some _ => return .after e
      | none => fail

def sortings : Nat → Reader (List Sorting)
  | 0 => fail
  | fuel + 1 => separated do
    let e ← expr fuel 0
    let (isDescending, nulls) ← sortOrder
    return .mk e isDescending nulls

def resultColumns : Nat → Reader (List ResultColumn)
  | 0 => fail
  | fuel + 1 => separated do
    if ← sign? "*" then return .all
    let s ← get
    if s.rest.head?.any (fun l => l.isName || l.kind = .string) && (s.rest.drop 1).head?.any (·.isSign ".")
        && (s.rest.drop 2).head?.any (·.isSign "*") then
      let n ← name
      skip
      skip
      return .allOf n
    let i ← start
    let e ← expr fuel 0
    let text ← textFrom i
    return .expr e (← asName?) text

def sources : Nat → Reader (List Relation)
  | 0 => fail
  | fuel + 1 => do
    let first ← source fuel {} true
    let rest ← repeated do
      match ← join? with
      | some j => return some (← source fuel j false)
      | none => return none
    return first :: rest

def source : Nat → Join → Bool → Reader Relation
  | 0, _, _ => fail
  | fuel + 1, j, isFirst => do
    let condition : Reader (Option Expr × List Name) := do
      if ← word? "on" then
        let e ← expr fuel 0
        if isFirst then reject "a JOIN clause is required before ON"
        return (some e, [])
      else if ← word? "using" then
        let ns ← names
        if isFirst then reject "a JOIN clause is required before USING"
        return (none, ns)
      else return (none, [])
    if ← sign? "(" then
      if ← startsQuery then
        let q ← query fuel
        sign ")"
        let a ← asName?
        let (on_, using_) ← condition
        return .query j q a on_ using_
      let inner ← sources fuel
      sign ")"
      let a ← asName?
      let (on_, using_) ← condition
      return .group j inner a on_ using_
    let n ← fullName
    if ← sign? "(" then
      let args ← expressions fuel
      sign ")"
      let a ← asName?
      let (on_, using_) ← condition
      return .call j n args a on_ using_
    let a ← asName?
    let hint ← indexHint
    let (on_, using_) ← condition
    return .table j n a hint on_ using_

def core : Nat → Reader Core
  | 0 => fail
  | fuel + 1 => do
    if ← word? "values" then
      return .values (← separated (parenthesized (separated (expr fuel 0))))
    word "select"
    let distinct ← oneOf? ["distinct", "all"]
    let columns ← resultColumns fuel
    let from_ ← if ← word? "from" then sources fuel else pure []
    let where_ ← if ← word? "where" then do pure (some (← expr fuel 0)) else pure none
    let group ← if ← word? "group" then do
        word "by"
        separated (expr fuel 0)
      else pure []
    let having ← if ← word? "having" then do pure (some (← expr fuel 0)) else pure none
    let windows ← if ← word? "window" then
        separated do
          let n ← name
          word "as"
          return (n, ← parenthesized (window fuel))
      else pure []
    let order ← if ← word? "order" then do
        word "by"
        sortings fuel
      else pure []
    let (limit, offset) ← if ← word? "limit" then do
        let a ← expr fuel 0
        if ← word? "offset" then do pure (some a, some (← expr fuel 0))
        else if ← sign? "," then do pure (some (← expr fuel 0), some a)
        else pure (some a, none)
      else pure (none, none)
    return .select (distinct == some "distinct") columns from_ where_ group having windows order limit offset

def commonTables : Nat → Reader (List CommonTable)
  | 0 => fail
  | fuel + 1 => do
    let _ ← word? "recursive"
    separated do
      let n ← name
      let columns ← if ← lookSign "(" then names else pure []
      word "as"
      let isDenied ← word? "not"
      let isKept ← if isDenied then do
          word "materialized"
          pure (some false)
        else do
          let isAsked ← word? "materialized"
          pure (if isAsked then some true else none)
      let q ← parenthesized (query fuel)
      return .mk n columns isKept q

def query : Nat → Reader Query
  | 0 => fail
  | fuel + 1 => do
    let common ← if ← word? "with" then commonTables fuel else pure []
    let first ← core fuel
    let rest ← repeated do
      match ← compound? with
      | some op => return some (op, ← core fuel)
      | none => return none
    checkCores ((none, first) :: rest.map fun (op, c) => (some op, c))
    return .mk common first rest

end

def depth : Reader Nat := return 20 * ((← get).rest.length + 2)

def expression : Reader Expr := do expr (← depth) 0

def readQuery : Reader Query := do query (← depth)

end FormCompiler.Database.Reader
