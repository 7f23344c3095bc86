import FormCompiler.Body.Compile
import FormCompiler.Function.Definition
import FormCompiler.Node.Read
import FormCompiler.Store.Basic
import FormCompiler.Unit.Basic

namespace FormCompiler

namespace CompilationUnit

open IR

/-- A function of a name that is new to the unit must differ from the others in its parameters, and have
a symbol of its own. -/
def checkNew (u : CompilationUnit) (name : String) (f : Function) : Except Fault Unit :=
  match u.registry.exact name f.paramTypes with
  | some other => .error (.complaint (.returnOverload name f.paramText other.returnType.text) f.token)
  | none =>
    if u.module.usesSymbol f.internalName then .error (.complaint (.symbolInUse name f.internalName.text) f.token)
    else .ok ()

def checkKnown (name : String) (known f : Function) : Except Fault Unit :=
  if known.linkage ≠ f.linkage then
    .error (.complaint (.linkageMismatch name known.linkage.name f.linkage.name) f.token)
  else if !known.sameAttributes f then .error (.complaint (.definitionAttributes name) f.token)
  else .ok ()

structure Placed where
  module : Module
  function : Function
  position : Nat

/-- Finds the place of what is defined: that of the declaration it repeats, or a new one. There is
nothing to place if it repeats something without giving it a body. -/
def place (u : CompilationUnit) (d : Definition) : Except Fault (Option Placed) := do
  match u.registry.find? d.name d.function with
  | none =>
    u.checkNew d.name d.function
    let (module, function) ← u.module.declare d.function
    .ok (some ⟨module, function, (u.registry.overloads d.name).length⟩)
  | some (known, position) =>
    checkKnown d.name known d.function
    if d.body.isEmpty then .ok none
    else if !known.isDeclaration u.module then .error (.complaint (.redefined d.name) d.function.token)
    else .ok (some ⟨u.module, { d.function with symbol := known.symbol }, position⟩)

def context (u : CompilationUnit) (d : Definition) (p : Placed) : Context :=
  ⟨u.registry.put d.name p.position p.function, d.name, p.function⟩

def install (m : Module) (f : Function) (body : Body) : Module :=
  match f.symbol with
  | some n =>
    { m with
      funcs := m.funcs.modify n fun g =>
        { g with blocks := body.blocks, internal := f.linkage == .internal } }
  | none => m

/-- Takes the body of a function back. It is a declaration again, which is never linked internally. -/
def retract (m : Module) (f : Function) : Module :=
  match f.symbol with
  | some n => { m with funcs := m.funcs.modify n fun g => { g with blocks := #[], internal := false } }
  | none => m

def saveMetadata {σ : Type} [Storage σ] (unit name : String) (f : Function) (store : Option σ) :
    Except Fault Unit × Option σ :=
  match store with
  | some s =>
    if f.serialise then
      let (saved, s) := Storage.save s (.ofFunction unit name f)
      (saved.mapError fun e => .complaint (.store name e.text) f.token, some s)
    else (.ok (), store)
  | none => (.ok (), none)

structure Defined (σ : Type) where
  module : Module
  store : Option σ
  result : Except Fault Registry

def define {σ : Type} [Storage σ] (u : CompilationUnit) (store : Option σ) (d : Definition) : Defined σ :=
  match u.place d with
  | .error f => ⟨u.module, store, .error f⟩
  | .ok none => ⟨u.module, store, .ok u.registry⟩
  | .ok (some p) =>
    let ctx := u.context d p
    if d.body.isEmpty then ⟨p.module, store, .ok ctx.registry⟩
    else
      match Body.compile ctx d.body with
      | .error f => ⟨retract p.module p.function, store, .error f⟩
      | .ok body =>
        let function := { p.function with labels := body.labels.map (·.1) }
        let (saved, store) := saveMetadata u.id d.name function store
        ⟨install p.module function body, store, saved.map fun _ => u.registry.put d.name p.position function⟩

end CompilationUnit

structure Outcome (σ : Type) where
  unit : CompilationUnit
  store : Option σ
  fault : Option Fault := none

def Outcome.stopped {σ : Type} (o : Outcome σ) : Option Fault := o.fault.filter (!·.isUserFault)

namespace CompilationUnit

variable {σ : Type} [Storage σ]

def afterFault (u : CompilationUnit) (module : IR.Module) (f : Fault) : CompilationUnit :=
  { u with module := { module with funcs := module.funcs.take u.module.funcs.size } }.addReports f.reports

def compileForm (u : CompilationUnit) (store : Option σ) (n : Node) : Outcome σ :=
  match Definition.read n with
  | .error r => ⟨u.addReports [r], store, some (.reported r [])⟩
  | .ok d =>
    match u.define store d with
    | ⟨module, store, .ok registry⟩ => ⟨{ u with module, registry }, store, none⟩
    | ⟨module, store, .error f⟩ => ⟨u.afterFault module f, store, some f⟩

def compileForms (u : CompilationUnit) (store : Option σ) : List Node → Outcome σ
  | [] => ⟨u, store, none⟩
  | n :: ns =>
    let o := u.compileForm store n
    if o.stopped.isSome then o else compileForms o.unit o.store ns

def compileSource (u : CompilationUnit) (store : Option σ) (source code : String) : Outcome σ :=
  let r := Node.read source code
  (u.addReports r.reports).compileForms store r.nodes

end CompilationUnit

end FormCompiler
