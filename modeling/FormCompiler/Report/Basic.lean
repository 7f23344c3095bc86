import FormCompiler.Report.Topic
import FormCompiler.Token.Basic

namespace FormCompiler

namespace Report

inductive Argument where
  | text (s : String)
  | number (n : Int)
  | flag (b : Bool)
  | absent
  deriving DecidableEq

namespace Argument

def plain : Argument → String
  | text s => s
  | number n => Text.Numeral.ofInt n
  | flag b => if b then "true" else "false"
  | absent => "<nil>"

def quoted : Argument → String
  | text s => Text.emphasise (Text.trim s)
  | a => Text.emphasise a.plain

end Argument

def Piece.render? (arguments : List Argument) : Piece → Option String
  | text s => some s
  | plain i => arguments[i]?.map Argument.plain
  | quoted i => arguments[i]?.map Argument.quoted

def render? (arguments : List Argument) : List Piece → Option String
  | [] => some ""
  | p :: ps => do
    let s ← p.render? arguments
    let rest ← render? arguments ps
    some (s ++ rest)

end Report

structure Report where
  id : String
  kind : Report.Kind
  message : String
  arguments : List Report.Argument
  token : Option Token
  deriving DecidableEq

namespace Report

/-- Makes a report from an identifier. One that no topic has is itself what is reported. There is no
report if the wording asks for more arguments than are given. -/
def make? (id : String) (arguments : List Argument) (token : Option Token) : Option Report :=
  match Topic.ofId? id with
  | some topic =>
    (render? arguments topic.entry.message).map fun message =>
      ⟨id, topic.entry.kind, message, arguments, token⟩
  | none => some ⟨id, .malformed, "unregistered error " ++ (Argument.text id).quoted, arguments, token⟩

def failureText (kind message cause : String) : String :=
  Text.joinNonEmpty ": " [kind, Text.joinNonEmpty ", cause: " [message, cause]]

def text (r : Report) : String :=
  failureText r.kind.name (Text.joinNonEmpty " " [r.message, "\x7berrorId: " ++ r.id ++ "\x7d"]) ""

def sentence (r : Report) : String :=
  Text.red "Error" ++ ": " ++ r.message ++ (r.token.map Token.place).getD "" ++ "."

def numbered (reports : List Report) : List String :=
  reports.zipIdx.map fun (r, i) => "\n" ++ Text.red ("[" ++ Text.Numeral.ofNat i ++ "] ") ++ r.sentence

def listing (reports : List Report) : String := String.join (numbered reports) ++ "\n"

/-- Whether a report is about a line at most one below that of an earlier report, or above it. Lines
are subtracted in 64 bits. -/
def follows (earlier later : Report) : Bool :=
  match earlier.token, later.token with
  | some e, some l => (l.line - e.line).bmod (Text.Numeral.capacity 64) ≤ 1
  | _, _ => false

/-- Says that the report before this one is probably to blame, if its identifier is one of those. -/
def blame (reports : List Report) (index : Nat) (this : Report) (ids : List String) : String :=
  match index with
  | 0 => ""
  | i + 1 =>
    match reports[i]? with
    | none => ""
    | some earlier =>
      if ids.contains earlier.id then
        "\n\nIn this case the problem is " ++ (if follows earlier this then "very " else "") ++
          "likely a knock-on effect of the previous error ([" ++ Text.Numeral.ofNat i ++ "] " ++
          earlier.message ++ ".)"
      else ""

def explain (reports : List Report) (position : Int) : String :=
  let missing := "there is no error number " ++ Text.Numeral.ofInt position
  match position with
  | .negSucc _ => missing
  | .ofNat i =>
    match reports[i]? with
    | none => missing
    | some r =>
      match Topic.ofId? r.id with
      | none => "no further explanation is available"
      | some topic =>
        (render? r.arguments topic.entry.explanation).getD "" ++ blame reports i r topic.entry.knockOns

end Report

def defectText (message : String) : String :=
  Report.failureText "tern.internal.invariant_violation" message ""

end FormCompiler
