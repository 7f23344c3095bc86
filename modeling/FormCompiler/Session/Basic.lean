import FormCompiler.Unit.Compile
import FormCompiler.Unit.Import

namespace FormCompiler

structure Attached where
  unit : CompilationUnit
  store : Option Nat := none

structure Session where
  units : List (Nat × Attached) := [(0, { unit := .new (unitId 0) })]
  current : Nat := 0
  stores : Array Store := #[]
  opened : Option Nat := none

namespace Session

def attached (s : Session) : Attached := (s.units.lookup s.current).getD { unit := .new (unitId s.current) }

def unit (s : Session) : CompilationUnit := s.attached.unit

def setUnit (s : Session) (n : Nat) (a : Attached) : Session :=
  { s with units := (n, a) :: s.units.filter (fun u => u.1 != n), current := n }

def store? (s : Session) : Option Store := s.opened.bind fun i => s.stores[i]?

def setStore (s : Session) (i : Option Nat) (store : Option Store) : Session :=
  match i, store with
  | some i, some store => { s with stores := s.stores.setIfInBounds i store }
  | _, _ => s

def closeStore (s : Session) : Session := s.setStore s.opened (s.store?.map Store.close)

def openStore (s : Session) (driver : String) : Except Store.Failure Session := do
  Store.checkDriver driver
  let s := s.closeStore
  return { s with stores := s.stores.push {}, opened := some s.stores.size }

def newUnit (s : Session) (n : Nat) : Session := s.setUnit n { unit := .new (unitId n) }

/-- Makes a unit with the store that was opened last, if there is one, and goes on with it. What is
wrong with the store is reported. -/
def newUnitWithStore (s : Session) (n : Nat) : Option (Session × Option Report) :=
  s.store?.map fun store =>
    let (unit, failed, _) := CompilationUnit.withStore (unitId n) store
    (s.setUnit n { unit, store := s.opened }, failed)

def use? (s : Session) (n : Nat) : Option Session :=
  if (s.units.lookup n).isSome then some { s with current := n } else none

def compile (s : Session) (source code : String) : Session × Option Fault :=
  let a := s.attached
  let o := a.unit.compileSource (a.store.bind fun i => s.stores[i]?) source code
  ((s.setUnit s.current { a with unit := o.unit }).setStore a.store o.store, o.stopped)

def clearReports (s : Session) : Session :=
  s.setUnit s.current { s.attached with unit := s.unit.clearReports }

def save (s : Session) (store : Store) (r : Record) : Except Store.Failure Session :=
  (store.save r).map fun store => s.setStore s.opened store

end Session

end FormCompiler
