import FormCompiler.Function.Basic
import FormCompiler.Report.Basic
import FormCompiler.Store.Blake2b
import FormCompiler.Store.Obstacle

namespace FormCompiler

structure Record where
  unit : String
  name : String
  internalName : Octets
  linkage : String
  returnType : String
  params : String
  attributes : List String
  fingerprint : String
  deriving DecidableEq

def identityText (name returnType : String) (paramTypes : List String) : String :=
  name ++ "|" ++ returnType ++ "|" ++ " ".intercalate paramTypes

def fingerprintOf (name returnType : String) (paramTypes : List String) : String :=
  let octets := Octets.ofString (identityText name returnType paramTypes)
  String.ofList ((Blake2b.digest octets).flatMap Text.Numeral.byteHex)

namespace Record

def paramText (p : Parameter) : String :=
  if p.type.isVariadic then "..." else "(" ++ p.name ++ " " ++ p.type.text ++ ")"

def attributesOf (f : Function) : List String :=
  (if f.alwaysInline then ["inline"] else []) ++ (if f.compileTimeOnly then ["cto"] else [])

def ofFunction (unit name : String) (f : Function) : Record where
  unit := unit
  name := name
  internalName := f.internalName
  linkage := f.linkage.name
  returnType := f.returnType.text
  params := "(" ++ " ".intercalate (f.params.map paramText) ++ ")"
  attributes := attributesOf f
  fingerprint := fingerprintOf name f.returnType.text (f.paramTypes.map Ty.text)

end Record

structure Store where
  rows : List Record := []
  isClosed : Bool := false
  deriving DecidableEq

namespace Store

inductive Request where
  | connect
  | migrate
  | load
  | begin
  | replace (name : String)
  | save (name : String)
  deriving DecidableEq

inductive Failure where
  | unknownDriver (name : String)
  | refused (request : Request) (obstacle : Obstacle)
  deriving DecidableEq

def drivers : List (String × String) :=
  [("Firebird SQL", "firebirdsql"), ("MariaDB", "mysql"), ("MySQL", "mysql"), ("Oracle", "oracle"),
    ("Postgres", "postgres"), ("SQL Server", "sqlserver"), ("SQLite", "sqlite")]

def driverNames : List String := drivers.map (·.1)

def driverOptions : String := "the following SQL drivers are available: " ++ ", ".intercalate driverNames

def placeholder (driver : String) (position : Nat) : String :=
  match driver with
  | "postgres" => "$" ++ Text.Numeral.ofNat position
  | "oracle" => ":" ++ Text.Numeral.ofNat position
  | "sqlserver" => "@p" ++ Text.Numeral.ofNat position
  | _ => "?"

def placeholders (driver : String) (n : Nat) : String :=
  ", ".intercalate ((List.range n).map fun i => placeholder driver (i + 1))

def Request.message : Request → String
  | connect => "couldn't connect to SQLite database"
  | migrate => "couldn't create the function table"
  | load => "couldn't read the function table"
  | begin => "couldn't start transaction"
  | replace name => "couldn't replace " ++ name
  | save name => "couldn't save " ++ name

namespace Failure

def message : Failure → String
  | unknownDriver name => "no SQL driver called " ++ Text.emphasise name ++ "; " ++ driverOptions
  | refused request _ => request.message

def cause : Failure → String
  | unknownDriver _ => ""
  | refused _ obstacle => obstacle.text

def text (f : Failure) : String := Report.failureText Report.Kind.storage.name f.message f.cause

end Failure

def checkDriver (driver : String) : Except Failure Unit :=
  if driverNames.contains driver then .ok () else .error (.unknownDriver driver)

/-- Puts a record behind the others, and takes out the one with the same fingerprint. Attributes are
kept as one text, so that blanks in them part them. -/
def save (s : Store) (r : Record) : Except Failure Store :=
  if s.isClosed then .error (.refused .begin .closed)
  else
    let row := { r with attributes := Text.words (" ".intercalate r.attributes) }
    .ok { s with rows := s.rows.filter (fun o => o.fingerprint != r.fingerprint) ++ [row] }

def rowLe (a b : Record) : Bool := decide (a.name < b.name) || (a.name == b.name && !decide (b.unit < a.unit))

/-- All rows in order. Those of the same name and unit are in the order in which they were saved. -/
def load (s : Store) : Except Failure (List Record) :=
  if s.isClosed then .error (.refused .load .closed) else .ok (s.rows.mergeSort rowLe)

def migrate (s : Store) : Except Failure Unit :=
  if s.isClosed then .error (.refused .migrate .closed) else .ok ()

def close (s : Store) : Store := { s with isClosed := true }

end Store

/-- Anything that records can be saved in and loaded from. What fails may leave a trace in it too. -/
class Storage (σ : Type) where
  save : σ → Record → Except Store.Failure Unit × σ
  load : σ → Except Store.Failure (List Record) × σ

instance : Storage Store where
  save s r :=
    match s.save r with
    | .ok s => (.ok (), s)
    | .error f => (.error f, s)
  load s := (s.load, s)

end FormCompiler
