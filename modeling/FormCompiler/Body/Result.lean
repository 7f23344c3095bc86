import FormCompiler.Body.Build

namespace FormCompiler

/-- How a value came about. While there is a slot it holds the value, whatever else was set. -/
inductive Produced where
  | nothing
  | direct (value : IR.Value)
  | slot (slot direct : Option IR.Value)
  deriving DecidableEq

/-- The address, if it is known, is where the value is stored; its type is a pointer to the result's own
unless `addressType` says otherwise. -/
structure Result where
  block : Option Nat := none
  type : Ty := .missing
  produced : Produced := .nothing
  address : Option IR.Value := none
  addressType : Ty := .missing
  slotType : Ty := .missing
  slotUsed : Bool := false
  terminator : Bool := false
  noDestruct : Bool := false
  noSetter : Bool := false
  fresh : Bool := false
  lvalue : Bool := false
  deriving DecidableEq

namespace Result

open IR

def value (r : Result) : Option Value :=
  match r.produced with
  | .nothing => none
  | .direct v => some v
  | .slot _ direct => direct

def slot? (r : Result) : Option Value :=
  match r.produced with
  | .slot slot _ => slot
  | _ => none

def hasSlot (r : Result) : Bool :=
  match r.produced with
  | .slot .. => true
  | _ => false

def hasValue (r : Result) : Bool :=
  match r.produced with
  | .nothing => false
  | .direct _ => true
  | .slot slot _ => slot.isSome

/-- Sets block, type and value. A slot stays, and so does the address, which is that of the old value. -/
def set (r : Result) (block : Option Nat) (type : Ty) (v : Option Value) : Result :=
  { r with
    block, type
    produced :=
      match r.produced, v with
      | .slot slot _, v => .slot slot v
      | _, some v => .direct v
      | _, none => .nothing }

def setSlot (r : Result) (slot : Option Value) (type : Ty) : Result :=
  { r with produced := .slot slot r.value, slotType := type }

def clearAddress (r : Result) : Result := { r with address := none, addressType := .missing }

def ofValue (block : Nat) (type : Ty) (v : Value) : Result := ({} : Result).set block type (some v)

def void (block : Nat) : Result := ({} : Result).set block Ty.void none

def getValue (r : Result) : Build Value :=
  match r.produced with
  | .slot (some slot) _ => do
    match r.type.layout with
    | .ok layout => do Build.emitAt (← Build.demand r.block) (.load layout slot)
    | .error .missing => Build.breakDown .incomplete
    | .error _ => throw (.defect (.slotWithoutLayout r.type))
  | .slot none (some v) => pure v
  | .direct v => pure v
  | _ => throw (.defect (.noValue r.type))

/-- Makes sure that the value is stored somewhere. One in a slot is copied out of it. -/
def materialise (r : Result) : Build Result := do
  match r.address with
  | some _ => return r
  | none =>
    let layout ← Build.layout r.type
    let block ← Build.demand r.block
    let address ← Build.emitAt block (.alloca layout)
    let v ← r.getValue
    Build.storeAt block v address
    return { r with address := some address }

def setAddressOf (out r : Result) : Result :=
  out.set r.block (if r.addressType = .missing then r.type.pointerTo else r.addressType) r.address

def getAddress (r : Result) : Build Result := do
  let stored ← r.materialise
  return ({} : Result).setAddressOf stored

end Result

end FormCompiler
