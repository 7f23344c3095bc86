import FormCompiler.Body.Fault
import FormCompiler.Function.Registry
import FormCompiler.IR.Name

namespace FormCompiler

/-- The identifier of a unit: its number in 26 digits of base 32, which leave out the letters that are
easily taken for others. -/
def unitId (n : Nat) : String :=
  let digits := "0123456789ABCDEFGHJKMNPQRSTVWXYZ".toList
  String.ofList ((List.range 26).map fun i => digits.getD (n / Nat.pow 32 (25 - i) % 32) '0')

structure CompilationUnit where
  module : IR.Module
  registry : Registry := {}
  reports : List Report := []
  deriving DecidableEq

namespace CompilationUnit

def new (id : String) : CompilationUnit := { module := { source := id } }

def id (u : CompilationUnit) : String := u.module.source

def addReports (u : CompilationUnit) (rs : List Report) : CompilationUnit := { u with reports := u.reports ++ rs }

def clearReports (u : CompilationUnit) : CompilationUnit := { u with reports := [] }

end CompilationUnit

def Fault.reports : Fault → List Report
  | reported first more => first :: more
  | _ => []

namespace Function

def paramLayouts : List Parameter → Except Fault (List IR.Param)
  | [] => .ok []
  | p :: ps =>
    if p.type.isVariadic then .ok []
    else
      match p.type.layout with
      | .error t => .error ((Fault.unsized t).pinned p.token)
      | .ok layout => (paramLayouts ps).map (⟨p.name, layout⟩ :: ·)

def slotLayout (f : Function) : Except Fault (List IR.Param) :=
  if f.hasSlot then
    match f.returnType.unmark.layout with
    | .error t => .error ((Fault.unsized t).pinned f.token)
    | .ok layout => .ok [⟨"retval", .pointer layout⟩]
  else .ok []

def declaration (f : Function) : Except Fault IR.Func := do
  let params ← paramLayouts f.params
  let slot ← f.slotLayout
  match f.returnType.returnLayout with
  | .error t => .error ((Fault.unsized t).pinned f.token)
  | .ok result =>
    .ok {
      name := f.internalName
      result
      params := params ++ slot
      variadic := f.isVariadic
      alwaysInline := f.alwaysInline }

end Function

namespace IR.Module

def usesSymbol (m : Module) (symbol : Octets) : Bool := m.funcs.any fun f => Name.shown f.name 0 == symbol

def declare (m : Module) (f : Function) : Except Fault (Module × Function) :=
  f.declaration.map fun g => ({ m with funcs := m.funcs.push g }, { f with symbol := some m.funcs.size })

end IR.Module

end FormCompiler
