namespace FormCompiler

structure Scope (α : Type) where
  entries : List (String × α) := []
  deriving DecidableEq

namespace Scope

variable {α : Type}

def find? (s : Scope α) (name : String) : Option α := s.entries.lookup name

def add (s : Scope α) (name : String) (a : α) : Scope α :=
  ⟨(name, a) :: s.entries.filter (fun e => e.1 != name)⟩

def size (s : Scope α) : Nat := s.entries.length

end Scope

structure Environment (α : Type) where
  scopes : List (Scope α) := [{}]
  deriving DecidableEq

namespace Environment

variable {α : Type}

def find? (e : Environment α) (name : String) : Option α := e.scopes.findSome? (·.find? name)

def add (e : Environment α) (name : String) (a : α) : Environment α :=
  match e.scopes with
  | [] => ⟨[Scope.add {} name a]⟩
  | s :: outer => ⟨s.add name a :: outer⟩

def enter (e : Environment α) : Environment α := ⟨{} :: e.scopes⟩

def depth (e : Environment α) : Nat := e.scopes.length

def backTo (e : Environment α) (depth : Nat) : Environment α := ⟨e.scopes.drop (e.depth - depth)⟩

def innermost (e : Environment α) : Scope α := e.scopes.headD {}

def setInnermost (e : Environment α) (s : Scope α) : Environment α :=
  match e.scopes with
  | [] => e
  | _ :: outer => ⟨s :: outer⟩

end Environment

end FormCompiler
