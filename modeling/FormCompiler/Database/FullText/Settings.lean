import FormCompiler.Database.FullText.Query
import FormCompiler.Database.Value.Basic

namespace FormCompiler.Database.FullText

inductive Content where
  | own
  | other (table : String)
  | none
  deriving DecidableEq

structure Settings where
  columns : List String := []
  isUnsearched : List Bool := []
  tokenizer : Option Tokenizer := none
  content : Option Content := none
  rowName : String := "rowid"
  keepsSizes : Bool := true

namespace Settings

variable (s : Settings)

def words : Tokenizer := s.tokenizer.getD (.words true [] [])

def place : Content := s.content.getD .own

def grammar : Query.Grammar := { tokenizer := s.words, columns := s.columns }

def document (texts : List Octets) : Document :=
  (texts.zip s.isUnsearched).map fun (t, isUnsearched) => if isUnsearched then [] else (s.words.tokens t).map (·.text)

def isBlank (b : UInt8) : Bool := b == 32 || (9 ≤ b && b ≤ 13)

def unquoted (close : UInt8) : Octets → Option (Octets × Octets)
  | [] => none
  | [b] => if b == close then some ([], []) else none
  | b :: c :: rest =>
    if b == close && c == close then (unquoted close rest).map fun (s, r) => (b :: s, r)
    else if b == close then some ([], c :: rest)
    else (unquoted close (c :: rest)).map fun (s, r) => (b :: s, r)

def word? (s : Octets) : Option (Octets × Bool × Octets) :=
  match s.dropWhile isBlank with
  | [] => none
  | b :: rest =>
    let close := if b == 91 then some 93 else if b == 39 || b == 34 || b == 96 then some b else none
    match close with
    | some c => (unquoted c rest).map fun (w, r) => (w, true, r)
    | none =>
      let bare := (b :: rest).takeWhile Word.isBare
      if bare.isEmpty then none else some (bare, false, (b :: rest).dropWhile Word.isBare)

def allWords : Nat → Octets → Option (List Octets)
  | 0, _ => none
  | fuel + 1, s =>
    if (s.dropWhile isBlank).isEmpty then some []
    else (word? s).bind fun (w, _, rest) => (allWords fuel rest).map (w :: ·)

def options : List String → Option (List (String × String))
  | [] => some []
  | k :: v :: rest => (options rest).map ((k.map Char.toLower, v) :: ·)
  | [_] => none

def tokenizerOf : Nat → List String → Except String Tokenizer
  | 0, _ => .error "parse error in tokenize directive"
  | _, [] => .ok (.words true [] [])
  | fuel + 1, name :: rest =>
    let wrong : Except String Tokenizer := .error "error in tokenizer constructor"
    let codes (s : String) : List Nat := s.toList.map Char.toNat
    let given (os : List (String × String)) (k : String) : List Nat := codes ((os.lookup k).getD "")
    match name.map Char.toLower with
    | "unicode61" =>
      match options rest with
      | none => wrong
      | some os =>
        if os.all fun (k, v) => (k == "remove_diacritics" && ["0", "1", "2"].contains v) ||
          ["tokenchars", "separators", "categories"].contains k
        then .ok (.words ((os.lookup "remove_diacritics").getD "1" != "0") (given os "tokenchars")
          (given os "separators"))
        else wrong
    | "ascii" =>
      match options rest with
      | none => wrong
      | some os =>
        if os.all fun (k, _) => ["tokenchars", "separators"].contains k
        then .ok (.plain (given os "tokenchars") (given os "separators"))
        else wrong
    | "porter" => do return .stems (← tokenizerOf fuel rest)
    | "trigram" =>
      match options rest with
      | none => wrong
      | some os =>
        if os.all fun (k, v) => ["case_sensitive", "remove_diacritics"].contains k && ["0", "1"].contains v
        then .ok (.runs ((os.lookup "case_sensitive").getD "0" == "1"))
        else wrong
    | _ => .error ("no such tokenizer: " ++ name)

def option (s : Settings) (name value : Octets) : Except String Settings := do
  let lower := name.map fun b => if 65 ≤ b && b ≤ 90 then b + 32 else b
  let text := Octets.text value
  let is (full : String) : Bool := lower.isPrefixOf (Octets.ofString full)
  if is "prefix" then
    let parts := (text.toList.map fun c => if c == ',' then ' ' else c)
    if parts.all fun c => c.isDigit || c == ' ' then return s else .error "malformed prefix=... directive"
  else if is "tokenize" then
    if s.tokenizer.isSome then .error "multiple tokenize=... directives"
    else
      match allWords (value.length + 1) value with
      | none => .error "parse error in tokenize directive"
      | some ws => return { s with tokenizer := some (← tokenizerOf 8 (ws.map Octets.text)) }
  else if is "content" then
    if s.content.isSome then .error "multiple content=... directives"
    else return { s with content := some (if value.isEmpty then .none else .other text) }
  else if is "contentless_delete" then
    if text == "0" || text == "1" then return s else .error "malformed contentless_delete=... directive"
  else if is "content_rowid" then return { s with rowName := text }
  else if is "columnsize" then
    if text == "0" || text == "1" then return { s with keepsSizes := text == "1" }
    else .error "malformed columnsize=... directive"
  else if is "detail" then
    if ["none", "full", "column"].any fun d => (Octets.ofString d) == value.map (fun b => if 65 ≤ b && b ≤ 90 then
      b + 32 else b)
    then return s else .error "malformed detail=... directive"
  else if is "tokendata" then
    if text == "0" || text == "1" then return s else .error "malformed tokendata=... directive"
  else .error ("unrecognized option: \"" ++ Octets.text name ++ "\"")

def column (s : Settings) (name : Octets) (kind : Option Octets) : Except String Settings := do
  let text := Octets.text name
  if ["rank", "rowid"].contains (text.map Char.toLower) then .error ("reserved fts5 column name: " ++ text)
  else
    match kind.map Octets.text with
    | none => return { s with columns := s.columns ++ [text], isUnsearched := s.isUnsearched ++ [false] }
    | some k =>
      if k.map Char.toLower == "unindexed"
      then return { s with columns := s.columns ++ [text], isUnsearched := s.isUnsearched ++ [true] }
      else .error ("unrecognized column option: " ++ k)

def argument (a : Octets) : Except String Settings :=
  let wrong : Except String Settings := .error ("parse error in \"" ++ Octets.text a ++ "\"")
  match word? a with
  | none => wrong
  | some (first, isQuoted, rest) =>
    let rest := rest.dropWhile isBlank
    let (isOption, rest) := match rest with
      | 61 :: more => (true, more.dropWhile isBlank)
      | _ => (false, rest)
    if isOption && isQuoted then wrong
    else
      let second : Option (Option Octets) :=
        if rest.isEmpty then some none
        else
          match word? rest with
          | some (w, _, more) => if (more.dropWhile isBlank).isEmpty then some (some w) else none
          | none => none
      match second with
      | none => wrong
      | some value => if isOption then s.option first (value.getD []) else s.column first value

def weights (text : String) : Except String (List Float) :=
  let wrong : Except String (List Float) := .error ("parse error in rank function: " ++ text)
  let s := text.toList.dropWhile Char.isWhitespace
  let name := s.takeWhile fun c => c.isAlphanum || c == '_'
  let rest := (s.drop name.length).dropWhile Char.isWhitespace
  let inside := (rest.drop 1).takeWhile (· != ')')
  if rest.head? != some '(' || rest.length < inside.length + 2 then wrong
  else if String.ofList (name.map Char.toLower) != "bm25" then .error ("no such function: " ++ String.ofList name)
  else if inside.all Char.isWhitespace then .ok []
  else .ok (((String.ofList inside).splitOn ",").map fun n => (Value.ofString n).toReal)

def ofArguments (args : List Octets) : Except String Settings := args.foldlM argument {}

end Settings

end FormCompiler.Database.FullText
