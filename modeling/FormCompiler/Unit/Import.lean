import FormCompiler.Function.Definition
import FormCompiler.Node.Read
import FormCompiler.Store.Basic
import FormCompiler.Unit.Basic

namespace FormCompiler

namespace CompilationUnit

def storeSource : String := "metadata store"

def readStored (text : String) : Except String Node :=
  (Node.readOne storeSource text).mapError fun rs => (rs.head?.map (·.message)).getD ""

def importFunction (linkage : Linkage) (r : Record) : Except String Function := do
  let returnType ← (Ty.read (← readStored r.returnType)).mapError (·.message)
  let params ← (Definition.readParams (← readStored r.params).items).mapError (·.message)
  .ok {
    returnType, params, linkage
    internalName := r.internalName
    alwaysInline := r.attributes.contains "inline"
    compileTimeOnly := r.attributes.contains "cto"
    token := some (.synthetic r.name storeSource) }

/-- Declares the function of a record, unless only its own unit can see it or the unit knows it. -/
def importRecord (u : CompilationUnit) (r : Record) : CompilationUnit :=
  match Linkage.ofName? r.linkage with
  | none | some .internal => u
  | some linkage =>
    match importFunction linkage r with
    | .error message =>
      u.addReports [(Complaint.storeSignature r.name message).report (some (.synthetic r.name storeSource))]
    | .ok f =>
      if (u.registry.find? r.name f).isSome then u
      else
        match u.module.declare f with
        | .error fault => u.addReports fault.reports
        | .ok (module, f) => { u with module, registry := u.registry.insert r.name f }

def withStore {σ : Type} [Storage σ] (id : String) (s : σ) : CompilationUnit × Option Report × σ :=
  match Storage.load s with
  | (.ok records, s) => (records.foldl importRecord (new id), none, s)
  | (.error e, s) =>
    let report := (Complaint.storeOpen e.text).report none
    ((new id).addReports [report], some report, s)

end CompilationUnit

end FormCompiler
