import FormCompiler.Database.Connection.Log
import FormCompiler.Database.Schema.Basic
import FormCompiler.Database.Source
import FormCompiler.Database.Volume
import FormCompiler.Disk.Basic
import Std.Data.HashMap
import Std.Data.HashSet

namespace FormCompiler.Database

open Store (Obstacle Code)

abbrev Noted := Value × Bool

structure Remembered where
  rows : Array (Array Noted) := #[]
  keys : Std.HashSet ByteArray := {}
  hasNull : Bool := false
  deriving Inhabited

inductive Journal where
  | delete
  | persist
  | off
  | truncate
  | memory
  | log
  deriving DecidableEq

namespace Journal

def names : List (String × Journal) :=
  [("delete", delete), ("persist", persist), ("off", off), ("truncate", truncate), ("memory", memory),
    ("wal", log)]

def isFile : Journal → Bool
  | delete | persist | truncate => true
  | _ => false

def staysBehind : Journal → Bool
  | persist | truncate => true
  | _ => false

end Journal

structure Member where
  name : String
  place : Option Location := none
  system : System := .standard
  isReadOnly : Bool := false
  isMarkedReadOnly : Bool := false
  isImmutable : Bool := false
  locks : Bool := true
  keepsLock : Bool := false
  holdsLock : Bool := false
  journal : Journal := .delete
  hasOpenJournal : Bool := false
  log : Option Log := none
  logIsPrivate : Bool := false
  isSized : Bool := false
  layout : Layout := ⟨4096, 4096⟩
  mapsPages : Bool := false
  isIncremental : Bool := false
  pageLimit : Nat := 0xFFFFFFFE
  own : Volume := { layout := ⟨4096, 4096⟩ }
  current : Option Volume := none
  isWriting : Bool := false
  before : Option Volume := none
  schema : Option Schema := none

namespace Member

def supportsLog (m : Member) : Bool := m.locks && !m.isImmutable && (m.keepsLock || m.system.sharesMemory)

def lacksJournal (m : Member) : Bool :=
  match m.place with
  | some l => m.log.isNone && m.journal.isFile && Path.isLongName (l.beside "-journal").name
  | none => false

end Member

structure Mark where
  name : String
  members : List Member
  danglingLater : Int
  danglingDeferred : Int
  startsTransaction : Bool

structure Connection where
  disk : Disk
  members : List Member
  queryOnly : Bool := false
  overlooks : Bool := false
  defersChecks : Bool := false
  ignoresChecks : Bool := false
  checksReferences : Bool := false
  dangling : Int := 0
  danglingLater : Int := 0
  danglingDeferred : Int := 0
  nestsTriggers : Bool := false
  likeFoldsCase : Bool := true
  shortNames : Bool := true
  fullNames : Bool := false
  temporaryStore : Nat := 0
  told : List ((Nat × String) × Int) := []
  chosenSize : Option Nat := none
  chosenVacuum : Option Nat := none
  encoding : Encoding := .utf8
  encodingIsFixed : Bool := false
  start : Octets := []
  inTransaction : Bool := false
  savepoints : List Mark := []
  keepsPart : Bool := false
  used : List Nat := []
  viewing : List (Nat × String) := []
  logLimit : Nat := 1000
  remembered : Std.HashMap Nat Remembered := {}
  queries : Nat := 0
  lastRow : Int := 0
  changes : Nat := 0
  totalChanges : Nat := 0
  counted : Nat := 0

abbrev Work := EStateM Obstacle Connection

namespace Work

variable {α : Type}

def refuse (code : Code) : Work α := throw (.result code)

def complain (sentence : String) : Work α := throw (.statement sentence)

def ofExcept : Except Obstacle α → Work α
  | .ok a => pure a
  | .error o => throw o

def ofText : Except String α → Work α
  | .ok a => pure a
  | .error s => complain s

def attempt (x : Work α) : Work (Except Obstacle α) := fun c =>
  match x c with
  | .ok a c => .ok (.ok a) c
  | .error o c => .ok (.error o) c

def temporary : Nat := 1

def member (i : Nat) : Work Member := return (← get).members[i]?.getD { name := "" }

def modifyMember (i : Nat) (f : Member → Member) : Work Unit :=
  modify fun c => { c with members := c.members.modify i f }

def modifySchema (i : Nat) (f : Schema → Schema) : Work Unit :=
  modifyMember i fun m => { m with schema := m.schema.map f }

def onDisk (f : Disk → Disk) : Work Unit := modify fun c => { c with disk := f c.disk }

def memberNumbers : Work (List Nat) := return List.range (← get).members.length

def findMember? (name : String) : Work (Option Nat) := do
  let ms := (← get).members
  match ms.findIdx? fun m => Name.same m.name name with
  | some i => return some i
  | none => return if Name.same name "main" then some 0 else none

def memberOf (database : Option Name) : Work Nat := do
  match database with
  | some d =>
    match ← findMember? d.text with
    | some i => return i
    | none => complain ("unknown database " ++ d.written)
  | none => return 0

def paging (i : Nat) (x : Paging α) : Work α := do
  let m ← member i
  match m.current with
  | none => refuse .error
  | some v =>
    match x v with
    | .ok a v =>
      modifyMember i fun m => { m with current := some v }
      return a
    | .error code v =>
      modifyMember i fun m => { m with current := some v }
      refuse code

def unopened (path : String) (o : Obstacle) : Obstacle :=
  .detailed (match o with
    | .detailed code _ => code
    | _ => .cannotOpen) ("unable to open database: " ++ path)

def volume (i : Nat) : Work Volume := do
  let m ← member i
  return m.current.getD m.own

end Work

end FormCompiler.Database
