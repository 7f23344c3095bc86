import FormCompiler.Body.Result
import FormCompiler.Function.Registry
import FormCompiler.Node.Basic

namespace FormCompiler

/-- Whether the value of an expression is wanted, or somewhere that it is stored. -/
inductive Demand where
  | value
  | address
  deriving DecidableEq

structure Operand where
  node : Node
  compile : Demand → Build Result

structure Context where
  registry : Registry
  name : String
  function : Function

structure Invocation where
  paren : Token
  head : Token
  operands : List Operand

def Invocation.tokens (call : Invocation) : List Token := call.operands.map (·.node.token)

namespace Result

/-- Gives what is wanted of a result; a value that has to be stored for it is reported at the token. -/
def deliver (r : Result) (token : Token) : Demand → Build Result
  | .value => pure r
  | .address => Build.pinned (some token) r.getAddress

end Result

namespace Operand

def compileAll : List Operand → Build (List Result)
  | [] => pure []
  | o :: os => do
    let r ← o.compile .value
    let rs ← compileAll os
    return r :: rs

def compileSequence : List Operand → Build Result
  | [] => do return Result.void (← get).current
  | [o] => o.compile .value
  | o :: os => do
    let _ ← o.compile .value
    compileSequence os

end Operand

end FormCompiler
