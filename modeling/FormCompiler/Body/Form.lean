import FormCompiler.Body.Call
import FormCompiler.Body.Control
import FormCompiler.Body.Pointer
import FormCompiler.Body.Variable

namespace FormCompiler

inductive Builtin where
  | pointerAdd
  | pointerSubtract
  | addressOf
  | dereference
  | sequence
  | scope
  | declare
  | ret
  | label
  | jump
  deriving DecidableEq

namespace Builtin

def name : Builtin → String
  | pointerAdd => "p+"
  | pointerSubtract => "p-"
  | addressOf => "#"
  | dereference => "@"
  | sequence => "do"
  | scope => "new-scope"
  | declare => "var"
  | ret => "return"
  | label => "label"
  | jump => "goto"

def all : List Builtin :=
  [pointerAdd, pointerSubtract, addressOf, dereference, sequence, scope, declare, ret, label, jump]

def ofName? (s : String) : Option Builtin := all.find? (fun f => f.name == s)

def compile (ctx : Context) (call : Invocation) (demand : Demand) (form : Builtin) : Build Result := do
  match form, call.operands with
  | pointerAdd, _ => Pointer.compileOffset call false demand
  | pointerSubtract, _ => Pointer.compileOffset call true demand
  | addressOf, [operand] => Pointer.compileAddressOf call operand demand
  | dereference, [operand] => Pointer.compileDereference operand demand
  | sequence, operands => (← Operand.compileSequence operands).deliver call.paren demand
  | scope, operands => (← Variable.compileScope operands).deliver call.paren demand
  | declare, _ => (← Variable.compile call).deliver call.paren demand
  | ret, _ => (← Control.compileReturn ctx call).deliver call.paren demand
  | label, [operand] => (← Control.compileLabel operand).deliver call.paren demand
  | jump, [operand] => (← Control.compileGoto operand).deliver call.paren demand
  | _, operands => Build.complain (.arity call.head.literal (Text.plural 1 "operand") operands.length) call.paren

end Builtin

namespace Form

/-- The function that arguments are passed to, if they could be compiled and one of that name fits. -/
def fitting (ctx : Context) (name : String) (args : Option (List Result)) : Option (List Result × Function) := do
  let rs ← args
  let callee ← ctx.registry.lookup name (rs.map (·.type))
  return (rs, callee)

/-- A name that functions share with a built-in form: one of the functions if the operands fit it. What
was compiled to find out is taken back if none does. -/
def compileShared (ctx : Context) (call : Invocation) (demand : Demand) (form : Builtin) : Build Result := do
  let before := (← get).mark
  let args ← Build.attempt (Operand.compileAll call.operands)
  match fitting ctx call.head.literal args with
  | some (rs, callee) => Call.emit call callee rs demand
  | none =>
    modify (·.rollback before)
    form.compile ctx call demand

/-- Compiles a form by its head. A head qualified with `core` is that of a built-in form. -/
def compileInvocation (ctx : Context) (call : Invocation) (demand : Demand) : Build Result :=
  match splitQualified call.head.literal with
  | ("", name) =>
    match Builtin.ofName? name, ctx.registry.has name with
    | none, false => Build.complain (.undefined name) call.head
    | some form, false => form.compile ctx call demand
    | none, true => Call.compile ctx call demand
    | some form, true => compileShared ctx call demand form
  | ("core", name) =>
    match Builtin.ofName? name with
    | some form => form.compile ctx call demand
    | none => Build.complain (.coreUnknown name) call.head
  | (other, _) => Build.complain (.unknownNamespace other) call.head

def compileList (ctx : Context) (paren : Token) (operands : List Operand) (demand : Demand) : Build Result :=
  match operands with
  | [] => Build.complain .formEmpty paren
  | ⟨.atom head, _⟩ :: rest =>
    if head.kind = .symbol then compileInvocation ctx ⟨paren, head, rest⟩ demand
    else Build.complain .formHead paren
  | _ => Build.complain .formHead paren

mutual
def compile (ctx : Context) : Node → Demand → Build Result
  | .atom token, demand => Atom.compile token demand
  | .list paren items, demand => compileList ctx paren (operands ctx items) demand

def operands (ctx : Context) : List Node → List Operand
  | [] => []
  | n :: ns => ⟨n, compile ctx n⟩ :: operands ctx ns
end

end Form

end FormCompiler
