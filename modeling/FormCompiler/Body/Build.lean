import FormCompiler.Body.Basic

namespace FormCompiler

abbrev Build := EStateM Fault Body

namespace Build

open IR

def complain {α : Type} (c : Complaint) (token : Token) : Build α := throw (.complaint c (some token))

def breakDown {α : Type} (b : Breakdown) : Build α := throw (.broken b)

def demand {α : Type} (a : Option α) : Build α :=
  match a with
  | some a => pure a
  | none => breakDown .incomplete

def pinned {α : Type} (token : Option Token) (x : Build α) : Build α := EStateM.adaptExcept (Fault.pinned token) x

def ofReport {α : Type} : Except Report α → Build α
  | .ok a => pure a
  | .error r => throw (.reported r [])

def layout (t : Ty) : Build Layout :=
  match t.layout with
  | .ok l => pure l
  | .error .missing => breakDown .incomplete
  | .error u => throw (.unsized u)

def known (t : Ty) : Build Ty := if t = .missing then breakDown .incomplete else pure t

def attempt {α : Type} (x : Build α) : Build (Option α) := fun b =>
  match x b with
  | .ok a b => .ok (some a) b
  | .error f b => if f.isUserFault then .ok none b else .error f b

def emitAt (block : Nat) (i : Inst) : Build Value := do
  let place := (← get).nextPlace block
  modify (·.append block i)
  return .inst place i.layout

def emit (i : Inst) : Build Value := do emitAt (← get).current i

def storeAt (block : Nat) (value target : Value) : Build Unit := do
  if target.layout = .pointer value.layout then
    let _ ← emitAt block (.store value target)
  else breakDown (.storeMismatch value.layout target.layout)

def store (value target : Value) : Build Unit := do storeAt (← get).current value target

def terminate (t : Term) : Build Unit := modify fun b => b.terminate b.current t

def inScope {α : Type} (x : Build α) : Build α := fun b =>
  match x { b with env := b.env.enter } with
  | .ok a c => .ok a (c.leaveTo b.env.depth)
  | .error f c => .error f (c.leaveTo b.env.depth)

end Build

end FormCompiler
