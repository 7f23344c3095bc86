import FormCompiler.Token.Basic
import FormCompiler.Ty.Basic

namespace FormCompiler

/-- Who can see a function: its own unit, every unit, or every unit under its plain name. -/
inductive Linkage where
  | internal
  | external
  | externalC
  deriving DecidableEq

namespace Linkage

def name : Linkage → String
  | internal => "intern"
  | external => "extern"
  | externalC => "extern-c"

def ofName? (s : String) : Option Linkage :=
  [internal, external, externalC].find? (fun l => l.name == s)

end Linkage

structure Parameter where
  name : String
  type : Ty
  token : Option Token := none
  deriving DecidableEq

/-- A function, with the names of the labels in its body. Once it is declared, `symbol` is its number in
the module. -/
structure Function where
  returnType : Ty
  params : List Parameter
  internalName : Octets
  isMacro : Bool := false
  alwaysInline : Bool := false
  isDestructor : Bool := false
  isSetter : Bool := false
  compileTimeOnly : Bool := false
  serialise : Bool := true
  linkage : Linkage := .internal
  token : Option Token := none
  labels : List String := []
  symbol : Option Nat := none
  deriving DecidableEq

namespace Function

def paramTypes (f : Function) : List Ty := f.params.map (·.type)

def isVariadic (f : Function) : Bool := f.paramTypes.getLast?.any Ty.isVariadic

def required (f : Function) : Nat := if f.isVariadic then f.params.length - 1 else f.params.length

def sameAs (f g : Function) : Bool := f.returnType == g.returnType && f.paramTypes == g.paramTypes

def sameAttributes (f g : Function) : Bool := f.alwaysInline == g.alwaysInline

def hasSlot (f : Function) : Bool := f.returnType.isMarked

def paramText (f : Function) : String := Ty.describeAll f.paramTypes

def signature (f : Function) : String := f.paramText ++ " -> " ++ f.returnType.text

def startsWithTypes (f : Function) (types : List Ty) : Bool := f.paramTypes.take types.length == types

/-- Whether arguments of these types can be passed: those that are required have exactly the types of
the parameters, and there are more of them only if the function is variadic. -/
def accepts (f : Function) (types : List Ty) : Bool :=
  f.required ≤ types.length && (f.isVariadic || types.length == f.required) &&
    f.startsWithTypes (types.take f.required)

def isDeclaration (m : IR.Module) (f : Function) : Bool :=
  (f.symbol.bind fun i => m.funcs[i]?).all IR.Func.isDeclaration

end Function

end FormCompiler
