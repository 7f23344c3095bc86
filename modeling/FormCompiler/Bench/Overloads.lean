import FormCompiler.Body.Fault
import FormCompiler.Function.Registry

namespace FormCompiler

namespace Function

def knowsVariadic (f : Function) : Bool := f.paramTypes.getLast? != some .missing

def knowsSlot (f : Function) : Bool := f.returnType != .missing

end Function

namespace Registry

def examined (r : Registry) (name : String) (types : List Ty) : List Function :=
  let fs := r.overloads name
  let before := fs.takeWhile fun f => f.isVariadic || !f.accepts types
  fs.take (before.length + 1)

/-- The overload that arguments of these types are passed to, if it can be told of each one examined
whether it is variadic. -/
def lookupKnown (r : Registry) (name : String) (types : List Ty) : Except Breakdown (Option Function) :=
  if (r.examined name types).all Function.knowsVariadic then .ok (r.lookup name types)
  else .error .incomplete

end Registry

end FormCompiler
