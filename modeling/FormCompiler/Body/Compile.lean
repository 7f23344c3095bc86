import FormCompiler.Body.Form

namespace FormCompiler.Body

open IR

def enterParams : Nat → List Parameter → Build Unit
  | _, [] => pure ()
  | i, p :: ps =>
    if p.type.isVariadic then pure ()
    else do
      let layout ← Build.pinned p.token (Build.layout p.type)
      let storage ← Build.emit (.alloca layout)
      Build.store (.param i layout) storage
      modify fun b => { b with env := b.env.add p.name ⟨p.type, storage⟩ }
      enterParams (i + 1) ps

def fallOff (returnType : Ty) : Term := if returnType.isVoid then .ret none else .unreachable

def settleGotos (name : String) : Build Unit := do
  let report (g : PendingGoto) := (Complaint.gotoUndefined g.label name).report g.token
  match (← get).unresolved with
  | g :: gs => throw (.reported (report g) (gs.map report))
  | [] => modify resolveGotos

/-- Fills a body with its forms. Gotos may still wait, and what falls off the end is not closed. -/
def fill (ctx : Context) (forms : List Operand) : Build Unit := do
  modify (·.startBlock "entry")
  enterParams 0 ctx.function.params
  let _ ← Operand.compileSequence forms

def build (ctx : Context) (forms : List Node) : Build Unit := do
  fill ctx (Form.operands ctx forms)
  settleGotos ctx.name
  modify (·.close (fallOff ctx.function.returnType))

def compile (ctx : Context) (forms : List Node) : Except Fault Body :=
  match build ctx forms {} with
  | .ok _ b => .ok b
  | .error f _ => .error f

end FormCompiler.Body
