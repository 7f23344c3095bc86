import FormCompiler.Store.Obstacle
import FormCompiler.Text.Printable

namespace FormCompiler.Database

abbrev Parameters := List (Octets × Octets)

namespace Parameters

def unescape : Octets → Except Octets Octets
  | [] => .ok []
  | c :: rest =>
    if c = '%'.toUInt8 then
      match rest with
      | a :: b :: rest =>
        match Octets.escaped? a b with
        | some octet => (unescape rest).map (octet :: ·)
        | none => .error [c, a, b]
      | rest => .error (c :: rest)
    else (unescape rest).map ((if c = '+'.toUInt8 then ' '.toUInt8 else c) :: ·)

def readOne (s : Octets) : Except Octets (Octets × Octets) := do
  let (name, value) := Octets.cut '=' s
  return (← unescape name, ← unescape (value.getD []))

def read (s : Octets) : Except Store.Obstacle Parameters :=
  if s.contains ';'.toUInt8 then .error (.other "invalid semicolon separator in query")
  else
    (((Octets.pieces '&' s).filter fun p => !p.isEmpty).mapM readOne).mapError fun bad =>
      .other ("invalid URL escape " ++ Text.quoted bad)

def values (p : Parameters) (name : String) : List Octets :=
  (p.filter fun q => q.1 == Octets.ofString name).map (·.2)

def value? (p : Parameters) (name : String) : Option Octets := p.lookup (Octets.ofString name)

end Parameters

inductive Mode where
  | readOnly
  | existing
  | create
  | memory
  deriving DecidableEq

namespace Mode

def ofName? (name : Octets) : Option Mode :=
  [("ro", readOnly), ("rw", existing), ("rwc", create), ("memory", memory)].find?
    (fun m => Octets.ofString m.1 == name) |>.map (·.2)

def asked : Mode → Nat
  | memory => 0
  | readOnly => 1
  | existing => 2
  | create => 3

def granted : Mode → Nat
  | memory => 3
  | m => m.asked

end Mode

structure Uri where
  path : Octets
  parameters : Parameters
  deriving DecidableEq

namespace Uri

open Store (Obstacle)

def unescape : Octets → Octets
  | [] => []
  | c :: rest =>
    if c = '%'.toUInt8 then
      match rest with
      | a :: b :: rest =>
        match Octets.escaped? a b with
        | some octet => if octet = 0 then [] else octet :: unescape rest
        | none => c :: unescape (a :: b :: rest)
      | rest => c :: rest
    else c :: unescape rest

def withoutAuthority (s : Octets) : Except Obstacle Octets :=
  match Octets.text (s.take 2) with
  | "//" =>
    let rest := s.drop 2
    let host := rest.takeWhile (· != '/'.toUInt8)
    if host.isEmpty || host == Octets.ofString "localhost" then .ok (rest.drop host.length)
    else .error (.opening .error)
  | _ => .ok s

def readParameter (s : Octets) : Octets × Octets :=
  let (name, value) := Octets.cut '=' s
  (unescape name, unescape (value.getD []))

def read (s : Octets) : Except Obstacle Uri := do
  let (path, query) := Octets.cut '?' (Octets.cut '#' (← withoutAuthority s)).1
  let parameters := (Octets.pieces '&' (query.getD [])).map readParameter
  return ⟨unescape path, parameters.filter fun p => !p.1.isEmpty⟩

def restrict (mode : Mode) (p : Octets × Octets) : Except Obstacle Mode :=
  if p.1 == Octets.ofString "mode" then
    match Mode.ofName? p.2 with
    | some m => if mode.granted < m.asked then .error (.opening .permission) else .ok m
    | none => .error (.opening .error)
  else if p.1 == Octets.ofString "cache" then
    if p.2 == Octets.ofString "shared" || p.2 == Octets.ofString "private" then .ok mode
    else .error (.opening .error)
  else .ok mode

def mode (u : Uri) : Except Obstacle Mode := u.parameters.foldlM restrict .create

def system? (u : Uri) : Option Octets := (u.parameters.values "vfs").getLast?

end Uri

end FormCompiler.Database
