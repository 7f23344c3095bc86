import FormCompiler.Body.Operand

namespace FormCompiler.Control

open IR

def afterTerminator : Build Result := do
  modify (·.startBlock "")
  return { Result.void (← get).current with terminator := true }

def finish (t : Term) : Build Result := do
  Build.terminate t
  afterTerminator

def returnValue (fn : Function) (v : Value) : Build Term := do
  if fn.hasSlot then
    let layout ← Build.layout fn.returnType.unmark
    Build.store v (.param fn.required (.pointer layout))
    return .ret none
  else return .ret (some v)

def compileReturn (ctx : Context) (call : Invocation) : Build Result := do
  let wanted := ctx.function.returnType.unmark
  match call.operands with
  | [] =>
    if !wanted.isVoid then Build.complain (.returnVoid wanted.text) call.paren
    finish (.ret none)
  | [operand] =>
    let r ← operand.compile .value
    if r.type != wanted || wanted.isVoid then
      Build.complain (.returnType r.type.text ctx.function.returnType.text) operand.node.token
    finish (← returnValue ctx.function (← r.getValue))
  | operands => Build.complain (.arity "return" "at most one operand" operands.length) call.paren

def labelName (form : String) (operand : Operand) : Build String :=
  match operand.node.symbol? with
  | some name => pure name
  | none => Build.complain (.labelName form) operand.node.token

def compileLabel (operand : Operand) : Build Result := do
  let name ← labelName "label" operand
  if ((← get).label? name).isSome then Build.complain (.labelRedefined name) operand.node.token
  modify (·.startLabel name)
  return .void (← get).current

def compileGoto (operand : Operand) : Build Result := do
  let name ← labelName "goto" operand
  match (← get).label? name with
  | some target => finish (.br target)
  | none =>
    modify fun b => b.addGoto ⟨name, b.current, some operand.node.token⟩
    afterTerminator

end FormCompiler.Control
