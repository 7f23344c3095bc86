import FormCompiler.Body.Result
import FormCompiler.IR.Print

namespace FormCompiler

namespace Body

open IR

def blockNamed (b : Body) (name : String) : Body × Nat :=
  match b.blocks.findIdx? (fun k => k.name == name) with
  | some n => (b, n)
  | none => (b.addBlock name, b.blocks.size)

def shownName (b : Body) (block : Nat) : String :=
  (Name.shown (Octets.ofString ((b.blocks[block]?.map (·.name)).getD "")) 0).text

def terminators (b : Body) : List (String × Option String) :=
  let f : Numbered := ⟨{ name := [], result := .void, params := [], blocks := b.blocks }, #[]⟩
  (List.range b.blocks.size).map fun i =>
    (b.shownName i, (b.blocks[i]?.bind (·.term)).map f.termText)

end Body

structure Bench where
  body : Body := ({} : Body).addBlock "entry"
  results : List (String × Result) := []
  values : List (String × IR.Value) := []

namespace Bench

open IR

def result (b : Bench) (name : String) : Result := (b.results.lookup name).getD {}

def setResult (b : Bench) (name : String) (r : Result) : Bench := { b with results := (name, r) :: b.results }

def value? (b : Bench) (name : String) : Option Value := if name = "" then none else b.values.lookup name

def nameValue (b : Bench) (name : String) (v : Value) : Bench := { b with values := (name, v) :: b.values }

def block (b : Bench) (name : String) : Bench × Nat :=
  let (body, n) := b.body.blockNamed (if name = "" then "entry" else name)
  ({ b with body }, n)

def perform {α : Type} (b : Bench) (x : Build α) : Bench × Except Fault α :=
  match x b.body with
  | .ok a body => ({ b with body }, .ok a)
  | .error f body => ({ b with body }, .error f)

def change (b : Bench) (name : String) (f : Result → Result) : Bench := b.setResult name (f (b.result name))

def make (b : Bench) (name : String) (x : Build Value) : Bench × Except Fault Value :=
  match b.perform x with
  | (b, .ok v) => (b.nameValue name v, .ok v)
  | (b, .error f) => (b, .error f)

def constant (type : Ty) (n : Int) : Build Value :=
  match type.layout with
  | .error .missing => Build.breakDown .incomplete
  | _ =>
    if Constant.Valid type.constantBits n then pure (.const type.constantBits n)
    else Build.breakDown (.invalidConstant n)

def alloca (b : Bench) (name block : String) (type : Ty) : Bench × Except Fault Value :=
  match b.perform (Build.layout type) with
  | (b, .ok layout) =>
    let (b, n) := b.block block
    b.make name (Build.emitAt n (.alloca layout))
  | (b, .error f) => (b, .error f)

def materialise (b : Bench) (name : String) : Bench × Option Fault :=
  match b.perform (b.result name).materialise with
  | (b, .ok r) => (b.setResult name r, none)
  | (b, .error f) => (b, some f)

def getAddress (b : Bench) (name out : String) : Bench × Option Fault :=
  match b.materialise name with
  | (b, none) => (b.change out fun o => o.setAddressOf (b.result name), none)
  | (b, some f) => (b, some f)

def getValue (b : Bench) (name value : String) : Bench × Except Fault Value :=
  b.make value (b.result name).getValue

def text (b : Bench) : String :=
  let blocks := (b.body.blocks.map fun k => { k with term := some .unreachable })
  let f : Func := { name := Octets.ofString "test", result := .void, params := [], blocks }
  f.text (.ofFuncs #[]) "@test"

end Bench

end FormCompiler
