import FormCompiler.Body.Operand

namespace FormCompiler.Pointer

open IR

def widen (type : Ty) (v : Value) : Build Value :=
  if 64 ≤ type.constantBits then pure v
  else if !type.isSigned then Build.emit (.extend false v 64)
  else
    match v with
    | .const _ n => pure (.const 64 n)
    | v => Build.emit (.extend true v 64)

def base (r : Result) : Build Value := do
  let type ← Build.known r.type
  if type.isPointer then r.getValue
  else
    let address ← r.getAddress
    let layout ← Build.layout type
    let v ← address.getValue
    Build.emitAt (← Build.demand address.block) (.firstElement layout v)

def offsets (call : Invocation) (subtract : Bool) (element : Layout) :
    Nat → List Operand → Value → Build Value
  | _, [], pointer => pure pointer
  | position, o :: os, pointer => do
    let r ← o.compile .value
    let type ← Build.known r.type
    if !type.isIntegral then
      Build.complain (.pointerOffset call.head.literal position type.text) o.node.token
    let v ← widen type (← r.getValue)
    let by_ ← if subtract then Build.emit (.sub (.const 64 0) v) else pure v
    offsets call subtract element (position + 1) os (← Build.emit (.offset element pointer by_))

def element (pointerType : Ty) (token : Token) : Build Layout := do
  match (← Build.demand pointerType.pointee?).layout with
  | .ok l => pure l
  | .error _ => Build.complain (.pointerPointee pointerType.text) token

def compileOffset (call : Invocation) (subtract : Bool) (demand : Demand) : Build Result := do
  match call.operands with
  | head :: first :: rest =>
    let r ← head.compile .value
    let type ← Build.known r.type
    let token := head.node.token
    if !type.isPointerLike then Build.complain (.pointerHead call.head.literal type.text) token
    let pointerType := type.decay
    let element ← element pointerType token
    let pointer ← Build.pinned (some token) (base r)
    let v ← offsets call subtract element 1 (first :: rest) pointer
    (Result.ofValue (← get).current pointerType v).deliver call.paren demand
  | _ => Build.complain (.pointerArity call.head.literal) call.paren

def compileAddressOf (call : Invocation) (operand : Operand) (demand : Demand) : Build Result := do
  (← operand.compile .address).deliver call.paren demand

def compileDereference (operand : Operand) (demand : Demand) : Build Result := do
  let r ← operand.compile .value
  let type ← Build.known r.type
  match type with
  | .pointer pointee _ =>
    let address ← r.getValue
    match demand with
    | .address => return .ofValue (← get).current type address
    | .value =>
      let layout ← Build.pinned (some operand.node.token) (Build.layout pointee)
      let v ← Build.emit (.load layout address)
      return { Result.ofValue (← get).current pointee v with address := some address, lvalue := true }
  | _ => Build.complain (.dereferenceType type.text) operand.node.token

end FormCompiler.Pointer
