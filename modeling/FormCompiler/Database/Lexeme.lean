import FormCompiler.Database.Word
import FormCompiler.Text.Octets

namespace FormCompiler.Database

inductive Lexeme.Kind where
  | blank
  | word
  | name
  | string
  | integer
  | float
  | grouped
  | blob
  | parameter
  | sign
  | illegal
  deriving DecidableEq

structure Lexeme where
  kind : Lexeme.Kind
  chars : List Char
  start : Nat := 0
  deriving DecidableEq

namespace Lexeme

variable (l : Lexeme)

def text : String := (Octets.ofLetters l.chars).text

def isSpace (c : Char) : Bool := c = ' ' || c = '\t' || c = '\n' || c = '\x0c' || c = '\r'

def isNamePart (c : Char) : Bool := c.isAlphanum || c = '_' || c = '$' || 0x80 ≤ c.toNat

def reserved : List String :=
  ["add", "all", "alter", "and", "as", "autoincrement", "between", "case", "check", "collate", "commit",
    "constraint", "create", "default", "deferrable", "delete", "distinct", "drop", "else", "escape", "except",
    "exists", "foreign", "from", "group", "having", "in", "index", "insert", "intersect", "into", "is",
    "isnull", "join", "limit", "not", "nothing", "notnull", "null", "on", "or", "order", "primary",
    "references", "returning", "select", "set", "table", "then", "to", "transaction", "union", "unique",
    "update", "using", "values", "when", "where"]

def joinWords : List String := ["cross", "full", "inner", "left", "natural", "outer", "right"]

def contextual : List String :=
  ["abort", "action", "after", "always", "analyze", "asc", "attach", "before", "begin", "by", "cascade",
    "cast", "column", "conflict", "current", "current_date", "current_time", "current_timestamp", "database",
    "deferred", "desc", "detach", "do", "each", "end", "exclude", "exclusive", "explain", "fail", "first",
    "following", "for", "generated", "glob", "groups", "if", "ignore", "immediate", "initially", "instead",
    "key", "last", "like", "match", "materialized", "no", "nulls", "of", "offset", "others", "partition",
    "plan", "pragma", "preceding", "query", "raise", "range", "recursive", "regexp", "reindex", "release",
    "rename", "replace", "restrict", "rollback", "row", "rows", "savepoint", "temp", "temporary", "ties",
    "trigger", "unbounded", "vacuum", "view", "virtual", "with", "without"]

def dependent : List String := ["window", "over", "filter"]

def wordKind (chars : List Char) : Kind :=
  let word := Word.lower (String.ofList chars)
  if reserved.contains word || word == "indexed" || joinWords.contains word || contextual.contains word
    || dependent.contains word then .word else .name

def commentLength : List Char → Nat
  | [] => 0
  | '*' :: '/' :: _ => 2
  | _ :: rest => commentLength rest + 1

def quotedLength (quote : Char) : List Char → Nat × Bool
  | [] => (0, false)
  | [c] => (1, c == quote)
  | c :: d :: rest =>
    if c != quote then
      let (n, closed) := quotedLength quote (d :: rest)
      (n + 1, closed)
    else if d == quote then
      let (n, closed) := quotedLength quote rest
      (n + 2, closed)
    else (1, true)

def runLength (isDigit : Char → Bool) (s : List Char) : Nat :=
  (s.takeWhile fun c => isDigit c || c == '_').length

def exponentLength : List Char → Nat
  | e :: c :: rest =>
    if e != 'e' && e != 'E' then 0
    else if c.isDigit || ((c == '+' || c == '-') && (rest.head?.any Char.isDigit)) then
      2 + runLength Char.isDigit rest
    else 0
  | _ => 0

def numberLength : List Char → Nat
  | '0' :: x :: h :: rest =>
    if (x == 'x' || x == 'X') && Word.isHex h then 3 + runLength Word.isHex rest
    else decimalLength ('0' :: x :: h :: rest)
  | s => decimalLength s
where
  decimalLength (s : List Char) : Nat :=
    let whole := runLength Char.isDigit s
    let places :=
      match s.drop whole with
      | '.' :: rest => 1 + runLength Char.isDigit rest
      | _ => 0
    whole + places + exponentLength (s.drop (whole + places))

def number (s : List Char) : Kind × Nat :=
  let n := numberLength s
  let digits := s.take n
  let isHex : Bool := match digits with
    | '0' :: x :: _ :: _ => x == 'x' || x == 'X'
    | _ => false
  let kind := if digits.contains '_' then .grouped
    else if !isHex && digits.any (fun c => c == '.' || c == 'e' || c == 'E') then .float else .integer
  let more := ((s.drop n).takeWhile isNamePart).length
  (if more = 0 then kind else .illegal, n + more)

def parameterLength (s : List Char) : Nat × Bool :=
  let name := (s.takeWhile fun c => isNamePart c || c == ':').length
  match s.drop name with
  | '(' :: rest =>
    let inner := (rest.takeWhile fun c => !isSpace c && c != ')').length
    if name = 0 then (0, false)
    else if (rest.drop inner).head? = some ')' then (name + inner + 2, true) else (name + inner + 1, false)
  | _ => (name, name != 0)

def octetsLength (s : List Char) : Nat × Bool :=
  let digits := (s.takeWhile Word.isHex).length
  let all := (s.takeWhile (· != '\'')).length
  let closed := (s.drop all).head?.isSome
  ((if closed then all + 1 else all), digits == all && closed && digits % 2 == 0)

def pairs : List (Char × List Char) :=
  [('<', ['=', '>', '<']), ('>', ['=', '>']), ('|', ['|']), ('*', []), (',', []), ('&', []), ('~', []),
    ('%', [])]

def scan (c : Char) (rest : List Char) : Kind × Nat :=
  if isSpace c then (.blank, (rest.takeWhile isSpace).length)
  else if (c :: rest.take 2).map Char.toNat == [0xEF, 0xBB, 0xBF] then (.blank, 2)
  else if c.isDigit then
    let (kind, n) := number (c :: rest)
    (kind, n - 1)
  else if (c == 'x' || c == 'X') && rest.head? == some '\'' then
    let (n, ok) := octetsLength rest.tail
    (if ok then .blob else .illegal, n + 1)
  else if c.isAlpha || c == '_' || 0x80 ≤ c.toNat then
    let more := rest.takeWhile isNamePart
    (wordKind (c :: more), more.length)
  else
    match pairs.lookup c with
    | some seconds => (.sign, if rest.head?.any seconds.contains then 1 else 0)
    | none => sign c rest
where
  sign (c : Char) (rest : List Char) : Kind × Nat :=
    match c, rest with
    | '-', '-' :: _ => (.blank, (rest.takeWhile (· != '\n')).length)
    | '-', '>' :: '>' :: _ => (.sign, 2)
    | '-', '>' :: _ => (.sign, 1)
    | '-', _ => (.sign, 0)
    | '/', '*' :: d :: more => (.blank, 1 + commentLength (d :: more))
    | '/', _ => (.sign, 0)
    | '(', _ => (.sign, 0)
    | ')', _ => (.sign, 0)
    | ';', _ => (.sign, 0)
    | '+', _ => (.sign, 0)
    | '=', '=' :: _ => (.sign, 1)
    | '=', _ => (.sign, 0)
    | '!', '=' :: _ => (.sign, 1)
    | '?', _ => (.parameter, (rest.takeWhile Char.isDigit).length)
    | '.', d :: _ =>
      if d.isDigit then
        let (kind, n) := number ('.' :: rest)
        (kind, n - 1)
      else (.sign, 0)
    | '.', [] => (.sign, 0)
    | '\'', _ => quote .string '\'' rest
    | '"', _ => quote .name '"' rest
    | '\x60', _ => quote .name '\x60' rest
    | '[', _ =>
      let n := (rest.takeWhile (· != ']')).length
      if (rest.drop n).isEmpty then (.illegal, n) else (.name, n + 1)
    | _, _ =>
      if c == '$' || c == '@' || c == '#' || c == ':' then
        let (n, ok) := parameterLength rest
        (if ok then .parameter else .illegal, n)
      else (.illegal, 0)
  quote (kind : Kind) (mark : Char) (rest : List Char) : Kind × Nat :=
    let (n, closed) := quotedLength mark rest
    (if closed then kind else .illegal, n)

def scanAll (start : Nat) : List Char → List Lexeme
  | [] => []
  | c :: rest =>
    let (kind, more) := scan c rest
    let taken := rest.take more
    let here : Lexeme := ⟨kind, c :: taken, start⟩
    let next := start + 1 + taken.length
    match kind with
    | .blank => scanAll next (rest.drop more)
    | .illegal => [here]
    | _ => here :: scanAll next (rest.drop more)
termination_by s => s.length
decreasing_by all_goals simp only [List.length_drop, List.length_cons]; omega

def word? : Option String := if l.kind = .word then some (Word.lower l.text) else none

def isWord (w : String) : Bool := l.word? == some w

def isSign (s : String) : Bool := l.kind = .sign && l.text == s

def isName : Bool :=
  l.kind = .name || l.word?.any fun w => w == "indexed" || joinWords.contains w || contextual.contains w

def isPlainName : Bool := l.kind = .name || l.kind = .string || l.word?.any contextual.contains

def isLikeName : Bool := l.kind = .string || l.isName || l.isWord "window" || l.isWord "over"

def isMeant (previous : Option Lexeme) (rest : List Lexeme) : Bool :=
  let closed := previous.any (·.isSign ")")
  match l.word? with
  | some "window" => rest.head?.any isLikeName && (rest.drop 1).head?.any (·.isWord "as")
  | some "over" => closed && rest.head?.any fun r => r.isSign "(" || r.isLikeName
  | some "filter" => closed && rest.head?.any (·.isSign "(")
  | _ => true

def settleWords : Option Lexeme → List Lexeme → List Lexeme
  | _, [] => []
  | previous, l :: rest =>
    (if l.isMeant previous rest then l else { l with kind := .name }) :: settleWords (some l) rest

def read (s : List Char) : List Lexeme := settleWords none (scanAll 0 s)

def complaint : List Lexeme → String
  | [] => "incomplete input"
  | l :: _ =>
    if l.kind = .illegal then "unrecognized token: \"" ++ l.text ++ "\""
    else "near \"" ++ l.text ++ "\": syntax error"

def unquote (q : Char) : List Char → List Char
  | [] => []
  | [c] => if c == q then [] else [c]
  | c :: d :: rest =>
    if c != q then c :: unquote q (d :: rest) else if d == q then q :: unquote q rest else []

def octets : Octets :=
  Octets.ofLetters (match l.chars with
    | '[' :: rest => rest.takeWhile (· != ']')
    | q :: rest => if q == '\'' || q == '"' || q == '\x60' then unquote q rest else l.chars
    | [] => [])

def name : String := l.octets.text

end Lexeme

end FormCompiler.Database
