import FormCompiler.Database.Statement.Basic
import FormCompiler.Database.Uri

namespace FormCompiler.Database

inductive System where
  | standard
  | exclusive
  | dotfile
  | lockless
  | memory
  deriving DecidableEq

namespace System

def ofName? (name : Octets) : Option System :=
  [("unix", standard), ("unix-excl", exclusive), ("unix-dotfile", dotfile),
    ("unix-none", lockless), ("memdb", memory)].find? (fun s => Octets.ofString s.1 == name) |>.map (·.2)

def sharesMemory : System → Bool
  | standard | exclusive => true
  | _ => false

end System

def smallLetter (c : Char) : Char := if c == '\u0130' then 'i' else if c == '\u212a' then 'k' else c.toLower

def isLockWord (word : Octets) : Bool :=
  ["deferred", "immediate", "exclusive"].contains (String.ofList (word.text.toList.map smallLetter))

structure Source where
  path : Octets
  mode : Mode := .create
  system : System := .standard
  options : Parameters := []
  pragmas : List Octets := []
  start : Except Store.Obstacle Octets := .ok []

namespace Source

open Store (Obstacle)

def systemName (names : List Octets) : Except Obstacle Octets :=
  names.foldlM (fun found name =>
    if !found.isEmpty && found != name then
      .error (.other ("conflicting vfs query parameters: [" ++ " ".intercalate (names.map Octets.text) ++ "]"))
    else .ok name) []

def findSystem : Option Octets → Except Obstacle System
  | none => .ok .standard
  | some name =>
    match System.ofName? (name.takeWhile (· != 0)) with
    | some system => .ok system
    | none => .error (.opening .error)

def readStart (p : Parameters) : Except Obstacle Octets :=
  let format := (p.value? "_time_format").getD []
  let lock := (p.value? "_txlock").getD []
  if !format.isEmpty && format != Octets.ofString "sqlite" then
    .error (.other ("unknown _time_format " ++ Text.quoted format))
  else if lock.isEmpty || isLockWord lock then .ok lock
  else .error (.other ("unknown _txlock " ++ Text.quoted lock))

def read (name : String) : Except Obstacle Source := do
  let all := Octets.ofString name
  let (path, query) := Octets.cut '?' all
  let query := if path.isEmpty then none else query
  let parameters ← Parameters.read (query.getD [])
  let named ← systemName (parameters.values "vfs")
  let system := if named.isEmpty then none else some named
  let source : Source := {
    path := if query.isSome then path else all
    pragmas := (parameters.values "_pragma").map fun v => v.takeWhile (· != 0)
    start := readStart parameters }
  if name.startsWith "file:" then
    let uri ← Uri.read (all.drop 5)
    let mode ← uri.mode
    let system ← findSystem (uri.system? <|> system)
    return { source with path := uri.path, mode, system, options := uri.parameters }
  else
    return { source with system := ← findSystem system }

def ofFile (system : System) (name : String) : Except Obstacle Source := do
  let all := Octets.ofString name
  if name.startsWith "file:" then
    let uri ← Uri.read (all.drop 5)
    let mode ← uri.mode
    let system ← if uri.system?.isSome then findSystem uri.system? else pure system
    return { path := uri.path, mode, system, options := uri.parameters }
  else return { path := all, system }

def isInMemory (s : Source) : Bool := s.mode = .memory || s.path == Octets.ofString ":memory:"

def isFile (s : Source) : Bool := !s.isInMemory && !s.path.isEmpty && s.system != .memory

end Source

end FormCompiler.Database
