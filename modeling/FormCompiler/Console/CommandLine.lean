import FormCompiler.Console.Interactive
import FormCompiler.Unit.Import

namespace FormCompiler

structure Settings where
  driver : String := "SQLite"
  dsn : String := ""
  deriving DecidableEq

namespace Settings

def load (env : String → Option String) : Settings where
  driver :=
    match env "TERN_DB_DRIVER" with
    | some driver => if driver = "" then "SQLite" else driver
    | none => "SQLite"
  dsn := (env "TERN_DB_DSN").getD ""

def storeEnabled (s : Settings) : Bool := s.dsn != ""

end Settings

inductive Command where
  | help
  | version
  | interactive
  | compile (file : Option String)
  | unknown (verb : String)
  deriving DecidableEq

namespace Command

def ofArgs : List String → Command
  | [] => interactive
  | verb :: rest =>
    if ["help", "-h", "--help"].contains verb then help
    else if ["version", "-v", "--version"].contains verb then version
    else if verb = "repl" then interactive
    else if verb = "compile" then compile rest.head?
    else unknown verb

def needsUnit : Command → Bool
  | interactive | compile _ => true
  | _ => false

end Command

namespace CommandLine

variable {σ : Type} [Storage σ]

structure Exit where
  output : String
  status : Nat := 0
  isAbrupt : Bool := false
  deriving DecidableEq

structure Ready (σ : Type) where
  unit : CompilationUnit
  store : Option σ := none
  output : String := ""

def complaint (text : String) : String := Text.red "Error" ++ ": " ++ text ++ ".\n"

def prepareWith (id : String) : Except Store.Failure σ → Except (Exit × Option σ) (Ready σ)
  | .error e => .error ({ output := complaint (Complaint.storeOpen e.text).message, status := 1 }, none)
  | .ok store =>
    match CompilationUnit.withStore id store with
    | (unit, some _, store) => .error ({ output := Report.listing unit.reports ++ "\n", status := 1 }, some store)
    | (unit, none, store) =>
      let output := if unit.reports.isEmpty then "" else Report.listing unit.reports ++ "\n"
      .ok { unit := unit.clearReports, store := some store, output }

/-- What the command line asks of the system it runs on: environment variables, the texts of files, and
stores by their driver and name. -/
structure Host (σ : Type) where
  env : String → Option String
  read : String → Except String String
  openStore : String → String → Except Store.Failure σ

def prepare (h : Host σ) (id : String) (settings : Settings) : Except (Exit × Option σ) (Ready σ) :=
  if settings.storeEnabled then prepareWith id (h.openStore settings.driver settings.dsn)
  else .ok { unit := .new id }

def internalError (f : Fault) : String :=
  let text := match f with
    | .defect d => d.text
    | _ => ""
  Text.red "Internal error" ++ ": " ++ text ++ "\n"

def compileFile (r : Ready σ) (file : String) (text : Except String String) : Exit × Option σ :=
  match text with
  | .error e => ({ output := complaint e, status := 1, isAbrupt := true }, r.store)
  | .ok code =>
    let o := r.unit.compileSource r.store file code
    match o.stopped with
    | some f => ({ output := internalError f, status := 2, isAbrupt := true }, o.store)
    | none =>
      if o.unit.reports.isEmpty then ({ output := o.unit.module.text }, o.store)
      else ({ output := Report.listing o.unit.reports ++ "\n", status := 1 }, o.store)

def interact (r : Ready σ) (lines : List String) : Exit × Option σ :=
  let t := ({ unit := r.unit, store := r.store } : Interactive σ).run lines
  match t.stopped with
  | none => ({ output := Text.logo ++ t.output }, t.final.store)
  | some f =>
    ({ output := Text.logo ++ t.output ++ internalError f, status := 2, isAbrupt := true }, t.final.store)

def runReady (h : Host σ) (r : Ready σ) (lines : List String) : Command → Exit × Option σ
  | .interactive => interact r lines
  | .compile (some file) => compileFile r file (h.read file)
  | _ => ({ output := complaint "'compile' needs the name of a file", status := 1, isAbrupt := true }, r.store)

def unknownCommand (verb : String) : String :=
  complaint ("unknown command " ++ Text.emphasise verb) ++ Text.help

/-- Runs a command, for a unit of that identifier and with the lines that a terminal will give. The store
that is left belongs under the name that the settings have for it. -/
def run (h : Host σ) (id : String) (args lines : List String) : Exit × Option σ :=
  match Command.ofArgs args with
  | .help => ({ output := Text.help }, none)
  | .version => ({ output := "Tern version " ++ Text.version ++ "\n" }, none)
  | .unknown verb => ({ output := unknownCommand verb, status := 1 }, none)
  | command =>
    match prepare h id (.load h.env) with
    | .error stopped => stopped
    | .ok ready =>
      let (exit, store) := runReady h ready lines command
      ({ exit with output := ready.output ++ exit.output }, store)

end CommandLine

end FormCompiler
