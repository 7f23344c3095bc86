import FormCompiler.Database.Query.Combine
import FormCompiler.Database.Query.Join
import FormCompiler.Database.Query.Window
import FormCompiler.Database.Setting.Answer

namespace FormCompiler.Database

namespace Work

def project (runner : Runner) (env : Env) (s : Select) (f : Frame) : Work (List Value × Tuple) := do
  let env := env.inside f
  let row ← s.columns.mapM (eval runner termDepth env)
  let keys ← s.order.mapM fun k => valueOf runner env k.term
  return (keys, row.toArray)

def selectRows (runner : Runner) (env : Env) (s : Select) : Stream Tuple :=
  let places := selectedPlaces runner env s
  let frames : Stream Frame :=
    match s.group with
    | none => places.map fun places => { places }
    | some keys => grouped runner env keys s.inGroups s.aggregates places
  let frames := match s.having with
    | some t => frames.filterM fun f => holds runner (env.inside f) t
    | none => frames
  let frames := windowed runner env s.windows frames
  let rows := frames.mapM (project runner env s)
  let rows := if !s.isDistinct then rows
    else
      rows.scan (∅ : Std.HashSet ByteArray) fun seen (keys, row) =>
        let k := Value.rowKey s.collations row.values
        return if seen.contains k then (seen, none) else (seen.insert k, some (keys, row))
  let rows : Stream Tuple :=
    if s.order.isEmpty then rows.map (·.2)
    else
      .after (do
        let all ← rows.toArray
        return sortRows (← get).encoding s.order all) fun sorted => (Stream.ofArray sorted).map fun r => r.2.kept
  bounded runner env s.limit s.offset rows

def planRows (supplied : String → List (Option Value) → Stream Place) : Nat → Env → Plan → Stream Tuple
  | 0, _, _ => .empty
  | fuel + 1, env, plan =>
    let runner : Runner := ⟨planRows supplied fuel, supplied⟩
    match plan with
    | .values rows => (Stream.ofArray rows.toArray).mapM fun row => do
      return (← row.mapM (eval runner termDepth (env.inside {}))).toArray
    | .select s => selectRows runner env s
    | .compound c => compoundRows runner env c
    | .repeated r => repeatedRows runner env r

def queryDepth : Nat := 2000

end Work

def Runner.of (supplied : String → List (Option Value) → Stream Place) : Runner where
  rows := Work.planRows supplied Work.queryDepth
  supplied := supplied

def engine : Runner := .of Work.supply

end FormCompiler.Database
