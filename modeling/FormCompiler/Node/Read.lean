import FormCompiler.Node.Basic
import FormCompiler.Token.Scan

namespace FormCompiler

namespace Node

structure Unclosed where
  paren : Token
  items : List Node

/-- What has been read so far: the finished nodes, the lists still open, innermost first, and the
reports. `afterIllegal` says that the last token was not a legal one. -/
structure Reader where
  nodes : List Node := []
  pending : List Unclosed := []
  reports : List Report := []
  afterIllegal : Bool := false

namespace Reader

def place (r : Reader) (n : Node) : Reader :=
  match r.pending with
  | [] => { r with nodes := r.nodes ++ [n] }
  | u :: us => { r with pending := { u with items := u.items ++ [n] } :: us }

def step (r : Reader) (t : Token) : Reader :=
  match t.kind with
  | .comment | .endOfInput => r
  | .illegal => { r with afterIllegal := true }
  | .opening => { r with pending := ⟨t, []⟩ :: r.pending, afterIllegal := false }
  | .closing =>
    match r.pending with
    | [] => { r with reports := r.reports ++ [Complaint.unopened.report (some t)], afterIllegal := false }
    | u :: us => { r with pending := us, afterIllegal := false }.place (.list u.paren u.items)
  | _ => { r with afterIllegal := false }.place (.atom t)

/-- The end of the input: a list still open is reported at its parenthesis, unless the text broke off
in a token that has its own report. -/
def finish (r : Reader) : List Report :=
  match r.pending with
  | u :: _ => if r.afterIllegal then r.reports else r.reports ++ [Complaint.unclosed.report (some u.paren)]
  | [] => r.reports

def run (tokens : List Token) : Reader := tokens.foldl step {}

end Reader

structure Reading where
  nodes : List Node
  reports : List Report

def read (source input : String) : Reading :=
  let scanned := Token.scan source input
  let reader := Reader.run (scanned.map (·.token))
  ⟨reader.nodes, scanned.filterMap (·.report) ++ reader.finish⟩

def readOne (source input : String) : Except (List Report) Node :=
  match read source input with
  | ⟨[n], []⟩ => .ok n
  | ⟨_, []⟩ => .error [Complaint.definitionForm.report (some ⟨.endOfInput, "", 0, 0, 0, source⟩)]
  | ⟨_, reports⟩ => .error reports

end Node

end FormCompiler
