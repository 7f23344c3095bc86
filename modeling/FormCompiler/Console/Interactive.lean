import FormCompiler.IR.Print
import FormCompiler.Unit.Compile

namespace FormCompiler

def parenDepthOf : List Char → Int
  | [] => 0
  | c :: cs =>
    if c = ';' then 0
    else if c = '(' then 1 + parenDepthOf cs
    else if c = ')' then -1 + parenDepthOf cs
    else parenDepthOf cs

def parenDepth (line : String) : Int := parenDepthOf line.toList

/-- The unit that is compiled into, the reports of the last input, and the lines of an input that is not
complete, with its depth. -/
structure Interactive (σ : Type) where
  unit : CompilationUnit
  store : Option σ := none
  last : List Report := []
  pending : String := ""
  depth : Int := 0

namespace Interactive

variable {σ : Type} [Storage σ]

structure Reply where
  output : String := ""
  ended : Bool := false
  stopped : Option Fault := none

def prompt (s : Interactive σ) : String := if s.pending = "" then Text.prompt else Text.continuationPrompt

def showReports (s : Interactive σ) : String :=
  if s.last.isEmpty then Text.green "ok" ++ "\n" else Report.listing s.last ++ "\n"

def why (s : Interactive σ) : Option String → String
  | none => Report.explain s.last 0 ++ "\n"
  | some word =>
    match Text.Numeral.read? 64 word with
    | some n => Report.explain s.last n ++ "\n"
    | none => Text.red "Error" ++ ": 'why' takes the number of an error.\n"

def compile (s : Interactive σ) (input : String) : Interactive σ × Reply :=
  let o := s.unit.compileSource s.store "REPL input" input
  let after := { s with unit := o.unit, store := o.store }
  if o.stopped.isSome then (after, { ended := true, stopped := o.stopped })
  else
    let after := { after with unit := o.unit.clearReports, last := o.unit.reports }
    (after, { output := after.showReports })

def obey (s : Interactive σ) (input : String) : Interactive σ × Reply :=
  match Text.words input with
  | [] => (s, {})
  | "quit" :: _ => (s, { ended := true })
  | "help" :: _ => (s, { output := Text.interactiveHelp })
  | "ir" :: _ => (s, { output := s.unit.module.text ++ "\n" })
  | "errors" :: _ => (s, { output := s.showReports })
  | "drivers" :: _ => (s, { output := Store.driverOptions ++ "\n" })
  | "why" :: rest => (s, { output := s.why rest.head? })
  | _ => s.compile input

def feed (s : Interactive σ) (line : String) : Interactive σ × Reply :=
  let pending := s.pending ++ line ++ "\n"
  let depth := s.depth + parenDepth line
  if 0 < depth then ({ s with pending, depth }, {})
  else { s with pending := "", depth := 0 }.obey (Text.trim pending)

structure Transcript (σ : Type) where
  final : Interactive σ
  output : String := ""
  prompts : List String := []
  unread : Nat := 0
  stopped : Option Fault := none

def run (s : Interactive σ) : List String → Transcript σ
  | [] => { final := s, prompts := [s.prompt] }
  | line :: lines =>
    let (after, reply) := s.feed line
    if reply.ended then
      { final := after, output := reply.output, prompts := [s.prompt], unread := lines.length
        stopped := reply.stopped }
    else
      let rest := run after lines
      { rest with output := reply.output ++ rest.output, prompts := s.prompt :: rest.prompts }

end Interactive

end FormCompiler
