import FormCompiler.Body.Fault
import FormCompiler.Environment

namespace FormCompiler

structure Local where
  type : Ty
  storage : IR.Value
  deriving DecidableEq

/-- A goto to a label that has not been met. The block it ends stays open for it. -/
structure PendingGoto where
  label : String
  block : Nat
  token : Option Token := none
  deriving DecidableEq

structure Body where
  blocks : Array IR.Block := #[]
  current : Nat := 0
  labels : List (String × Nat) := []
  gotos : List PendingGoto := []
  env : Environment Local := {}
  deriving DecidableEq

namespace Body

open IR

def addBlock (b : Body) (name : String) : Body := { b with blocks := b.blocks.push { name } }

def nextPlace (b : Body) (block : Nat) : Place := ⟨block, (b.blocks[block]?.map (·.insts.size)).getD 0⟩

def append (b : Body) (block : Nat) (i : Inst) : Body :=
  { b with blocks := b.blocks.modify block fun k => { k with insts := k.insts.push i } }

def isOpen (b : Body) (block : Nat) : Bool := (b.blocks[block]?).all fun k => k.term.isNone

def terminate (b : Body) (block : Nat) (t : Term) : Body :=
  { b with blocks := b.blocks.modify block fun k => { k with term := some t } }

def close (b : Body) (t : Term) : Body :=
  { b with blocks := b.blocks.map fun k => { k with term := some (k.term.getD t) } }

def label? (b : Body) (name : String) : Option Nat := b.labels.lookup name

def addLabel (b : Body) (name : String) (block : Nat) : Body :=
  { b with labels := (name, block) :: b.labels.filter (fun l => l.1 != name) }

def startBlock (b : Body) (name : String) : Body := { b.addBlock name with current := b.blocks.size }

def fallInto (b : Body) (target : Nat) : Body :=
  if b.isOpen b.current then b.terminate b.current (.br target) else b

def startLabel (b : Body) (name : String) : Body :=
  { ((b.addBlock ("label." ++ name)).fallInto b.blocks.size).addLabel name b.blocks.size with
    current := b.blocks.size }

def addGoto (b : Body) (g : PendingGoto) : Body := { b with gotos := b.gotos ++ [g] }

def resolveGoto (b : Body) (g : PendingGoto) : Body :=
  match b.label? g.label with
  | some target => b.terminate g.block (.br target)
  | none => b

def unresolved (b : Body) : List PendingGoto := b.gotos.filter fun g => (b.label? g.label).isNone

def resolveGotos (b : Body) : Body := { b.gotos.foldl resolveGoto b with gotos := [] }

def leaveTo (b : Body) (depth : Nat) : Body := { b with env := b.env.backTo depth }

/-- How far a body has come. What is added to it can be taken back by lengths, by the names of the
labels, and by what is open to change: the block that is being filled and the innermost scope. -/
structure Mark where
  block : Nat
  insts : Nat
  term : Option Term
  blocks : Nat
  labels : List String
  gotos : Nat
  depth : Nat
  scope : Scope Local

def mark (b : Body) : Mark where
  block := b.current
  insts := (b.nextPlace b.current).index
  term := b.blocks[b.current]?.bind (·.term)
  blocks := b.blocks.size
  labels := b.labels.map (·.1)
  gotos := b.gotos.length
  depth := b.env.depth
  scope := b.env.innermost

def cutBlock (insts : Nat) (term : Option Term) (k : Block) : Block := { k with insts := k.insts.take insts, term }

def rollback (b : Body) (m : Mark) : Body where
  blocks := (b.blocks.take m.blocks).modify m.block (cutBlock m.insts m.term)
  current := m.block
  labels := b.labels.filter fun l => m.labels.contains l.1
  gotos := b.gotos.take m.gotos
  env := (b.env.backTo m.depth).setInnermost m.scope

end Body

end FormCompiler
