import FormCompiler.Function.Basic

namespace FormCompiler

structure Registry where
  entries : List (String × List Function) := []
  deriving DecidableEq

namespace Registry

def has (r : Registry) (name : String) : Bool := r.entries.any (fun e => e.1 == name)

def overloads (r : Registry) (name : String) : List Function := (r.entries.lookup name).getD []

def assign (r : Registry) (name : String) (fs : List Function) : Registry :=
  if r.has name then ⟨r.entries.map fun e => if e.1 == name then (name, fs) else e⟩
  else ⟨r.entries ++ [(name, fs)]⟩

def put (r : Registry) (name : String) (i : Nat) (f : Function) : Registry :=
  let fs := r.overloads name
  r.assign name (if i < fs.length then fs.set i f else fs ++ [f])

def insert (r : Registry) (name : String) (f : Function) : Registry := r.put name (r.overloads name).length f

/-- Puts a function in the place of an overload or just behind the last one. There is no place further
on. -/
def replace? (r : Registry) (name : String) (i : Nat) (f : Function) : Option Registry :=
  if i ≤ (r.overloads name).length then some (r.put name i f) else none

def find? (r : Registry) (name : String) (f : Function) : Option (Function × Nat) :=
  (r.overloads name).zipIdx.find? (fun g => g.1.sameAs f)

/-- The overload that arguments of these types are passed to: one that is not variadic if there is one,
and otherwise the first variadic one. -/
def lookup (r : Registry) (name : String) (types : List Ty) : Option Function :=
  let fitting := (r.overloads name).filter (·.accepts types)
  fitting.find? (fun f => !f.isVariadic) <|> fitting.head?

def exact (r : Registry) (name : String) (types : List Ty) : Option Function :=
  (r.overloads name).find? (fun f => f.paramTypes == types)

def names (r : Registry) : List String := r.entries.map (·.1)

end Registry

end FormCompiler
