import FormCompiler.Node.Basic
import FormCompiler.Report.Complaint
import FormCompiler.Ty.Basic

namespace FormCompiler.Ty

def unknown (n : Node) : Report := (Complaint.typeUnknown n.text).report (some n.token)

def readSize (n : Node) : Except Report Int :=
  match Text.Numeral.read? 64 n.literal with
  | some size => if 0 < size then .ok size else .error ((Complaint.typeArray n.text).report (some n.token))
  | none => .error ((Complaint.typeArray n.text).report (some n.token))

def read : Node → Except Report Ty
  | n@(.atom _) =>
    match n.symbol?.bind Base.ofName? with
    | some b => .ok (.of b)
    | none => .error (unknown n)
  | n@(.list _ [head, x]) =>
    match head.symbol? with
    | some "p" => (read x).map pointerTo
    | some "retval" => (read x).map mark
    | _ => .error (unknown n)
  | n@(.list _ [head, size, x]) =>
    match head.symbol? with
    | some "array-of" => do
      let k ← readSize size
      let t ← read x
      .ok (arrayOf k t)
    | _ => .error (unknown n)
  | n => .error (unknown n)

end FormCompiler.Ty
