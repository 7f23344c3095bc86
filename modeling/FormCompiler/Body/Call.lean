import FormCompiler.Body.Operand

namespace FormCompiler.Call

open IR

def values (head : Token) : Nat → List (Token × Result) → Build (List Value)
  | _, [] => pure []
  | position, (token, r) :: rest => do
    if r.type = .missing || r.type.isVoid then Build.complain (.callVoid head.literal position) token
    let v ← r.getValue
    let vs ← values head (position + 1) rest
    return v :: vs

/-- The number of a function in the module. Only what is declared can be called. -/
def symbol (callee : Function) : Build Nat :=
  match callee.symbol with
  | some n => pure n
  | none => Build.breakDown .undeclared

/-- Makes the call. A callee that returns through a slot is given one, and the result keeps hold of it. -/
def emit (call : Invocation) (callee : Function) (args : List Result) (demand : Demand) : Build Result := do
  let vs ← values call.head 1 (call.tokens.zip args)
  let symbol ← symbol callee
  if callee.hasSlot then
    let type := callee.returnType.unmark
    let layout ← Build.pinned (some call.paren) (Build.layout type)
    let slot ← Build.emit (.alloca layout)
    let _ ← Build.emit (.call .void symbol (vs ++ [slot]))
    let r := (({} : Result).set (← get).current type none).setSlot slot type.pointerTo
    { r with slotUsed := true }.deliver call.paren demand
  else if callee.returnType.isVoid then
    let _ ← Build.emit (.call .void symbol vs)
    (Result.void (← get).current).deliver call.paren demand
  else
    let layout ← Build.pinned (some call.paren) (Build.layout callee.returnType)
    let v ← Build.emit (.call layout symbol vs)
    (Result.ofValue (← get).current callee.returnType v).deliver call.paren demand

def compile (ctx : Context) (call : Invocation) (demand : Demand) : Build Result := do
  let args ← Operand.compileAll call.operands
  let types := args.map (·.type)
  match ctx.registry.lookup call.head.literal types with
  | some callee => emit call callee args demand
  | none => Build.complain (.callTypes call.head.literal (Ty.describeAll types)) call.head

end FormCompiler.Call
