import FormCompiler.Environment

namespace FormCompiler

structure Frame (α : Type) where
  scope : Scope α := {}
  outer : Option Nat := none

structure Environments (α : Type) where
  frames : Array (Frame α) := #[{}]

namespace Environments

variable {α : Type}

def enclose? (e : Environments α) (n : Nat) : Option (Environments α × Nat) :=
  if n < e.frames.size then some (⟨e.frames.push { outer := some n }⟩, e.frames.size) else none

def add? (e : Environments α) (n : Nat) (name : String) (a : α) : Option (Environments α × Nat) :=
  e.frames[n]?.map fun f =>
    let scope := f.scope.add name a
    (⟨e.frames.setIfInBounds n { f with scope }⟩, scope.size)

/-- The scopes of an environment and of those around it. An environment is always made after the one
around it. -/
def scopes (e : Environments α) (n : Nat) : List (Scope α) :=
  match e.frames[n]? with
  | none => []
  | some f =>
    match f.outer with
    | none => [f.scope]
    | some m => if _h : m < n then f.scope :: e.scopes m else [f.scope]
termination_by n

def environment? (e : Environments α) (n : Nat) : Option (Environment α) :=
  if n < e.frames.size then some ⟨e.scopes n⟩ else none

end Environments

end FormCompiler
