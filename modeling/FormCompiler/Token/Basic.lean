import FormCompiler.Text.Style

namespace FormCompiler

/-- What a token is. A reader makes the first seven; a client may bring kinds of its own. -/
inductive Token.Kind where
  | illegal
  | endOfInput
  | comment
  | symbol
  | integer
  | opening
  | closing
  | foreign (name : String)
  deriving DecidableEq

namespace Token.Kind

def name : Kind → String
  | illegal => "ILLEGAL"
  | endOfInput => "EOF"
  | comment => "COMMENT"
  | symbol => "SYMBOL"
  | integer => "int"
  | opening => "("
  | closing => ")"
  | foreign name => name

def ofName (s : String) : Kind :=
  ([illegal, endOfInput, comment, symbol, integer, opening, closing].find? (fun k => k.name == s)).getD (foreign s)

end Token.Kind

/-- A token stands on `line`, in the columns from `start` up to but not including `stop`. Lines count
from one and columns from zero. -/
structure Token where
  kind : Token.Kind
  literal : String
  line : Int
  start : Int
  stop : Int
  source : String
  deriving DecidableEq

namespace Token

def synthetic (literal source : String) : Token := ⟨.symbol, literal, 0, 0, 0, source⟩

def place (t : Token) : String :=
  if t.source = "" then ""
  else
    let source := if t.source = "REPL input" then t.source else Text.emphasise t.source
    if 0 < t.line then
      let stop := if t.start = t.stop then "" else "-" ++ Text.Numeral.ofInt t.stop
      " at line " ++ Text.Numeral.ofInt t.line ++ ":" ++ Text.Numeral.ofInt t.start ++ stop ++ " of " ++ source
    else " in " ++ source

def describe (t : Token) : String :=
  match t.kind with
  | .endOfInput => "end of input"
  | .opening | .closing => "parenthesis " ++ Text.emphasise t.literal
  | _ => Text.emphasise t.literal

end Token

end FormCompiler
