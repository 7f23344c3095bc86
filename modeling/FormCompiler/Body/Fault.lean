import FormCompiler.Report.Complaint
import FormCompiler.Ty.Basic

namespace FormCompiler

inductive Defect where
  | noValue (type : Ty)
  | slotWithoutLayout (type : Ty)
  deriving DecidableEq

namespace Defect

def message : Defect → String
  | noValue type => "no value in result of type " ++ type.text
  | slotWithoutLayout type =>
    "retained slot holds a value of type " ++ type.text ++ ", which has no storage layout"

def text (d : Defect) : String := defectText d.message

end Defect

/-- An operation that was used where it has no meaning: on a result without a block or a part of its
type, on a function that is not declared, on a target of another layout than the value's, or on a truth
value that is neither zero nor one. -/
inductive Breakdown where
  | incomplete
  | undeclared
  | storeMismatch (value target : IR.Layout)
  | invalidConstant (n : Int)
  deriving DecidableEq

def Breakdown.message? : Breakdown → Option String
  | storeMismatch value target =>
    some ("store operands are not compatible: src=" ++ value.text ++ "; dst=" ++ target.text)
  | invalidConstant n => some (IR.Constant.invalidMessage n)
  | _ => none

inductive Fault where
  | reported (first : Report) (more : List Report)
  | unsized (type : Ty)
  | defect (d : Defect)
  | broken (b : Breakdown)
  deriving DecidableEq

namespace Fault

def complaint (c : Complaint) (token : Option Token) : Fault := .reported (c.report token) []

def pinned (token : Option Token) : Fault → Fault
  | unsized type => complaint (.storage type.unsizedMessage) token
  | f => f

def isUserFault : Fault → Bool
  | reported .. | unsized _ => true
  | defect _ | broken _ => false

end Fault

end FormCompiler
