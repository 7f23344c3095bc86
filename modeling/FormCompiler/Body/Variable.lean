import FormCompiler.Body.Operand
import FormCompiler.Ty.Read

namespace FormCompiler.Atom

open IR

def constant (type : Ty) (n : Int) : Build Result := do
  return .ofValue (← get).current type (.const type.constantBits n)

def reference (token : Token) (demand : Demand) : Build Result := do
  match (← get).env.find? token.literal with
  | none => Build.complain (.undefined token.literal) token
  | some v =>
    match demand with
    | .address => return .ofValue (← get).current v.type.pointerTo v.storage
    | .value =>
      let layout ← Build.pinned (some token) (Build.layout v.type)
      let loaded ← Build.emit (.load layout v.storage)
      return { Result.ofValue (← get).current v.type loaded with address := some v.storage, lvalue := true }

def compile (token : Token) (demand : Demand) : Build Result := do
  match token.kind, token.literal with
  | .integer, literal =>
    match Text.Numeral.read? 32 literal with
    | some n => (← constant .int32 n).deliver token demand
    | none => Build.complain (.integerRange literal) token
  | .symbol, "true" => (← constant .bool 1).deliver token demand
  | .symbol, "false" => (← constant .bool 0).deliver token demand
  | .symbol, _ => reference token demand
  | _, _ => Build.complain .formHead token

end FormCompiler.Atom

namespace FormCompiler.Variable

open IR

def compileScope (operands : List Operand) : Build Result := Build.inScope (Operand.compileSequence operands)

def initialise (name : String) (type : Ty) (storage : Value) (operand : Operand) : Build Unit := do
  let r ← operand.compile .value
  if r.type != type then
    Build.complain (.variableInit name type.text r.type.text) operand.node.token
  Build.store (← r.getValue) storage

/-- Declares a variable. Its storage is allocated before its initial value is compiled, which cannot see
it. -/
def declare (nameOperand typeOperand : Operand) (init : Option Operand) : Build Result := do
  match nameOperand.node.symbol? with
  | none => Build.complain .variableName nameOperand.node.token
  | some name =>
    let type ← Build.ofReport (Ty.read typeOperand.node)
    let layout ← Build.pinned (some typeOperand.node.token) (Build.layout type)
    let storage ← Build.emit (.alloca layout)
    match init with
    | some operand => initialise name type storage operand
    | none => pure ()
    modify fun b => { b with env := b.env.add name ⟨type, storage⟩ }
    return .void (← get).current

def compile (call : Invocation) : Build Result :=
  match call.operands with
  | [name, type] => declare name type none
  | [name, type, init] => declare name type (some init)
  | operands => Build.complain (.arity "var" "two or three operands" operands.length) call.paren

end FormCompiler.Variable
