import FormCompiler.Database.Query.Planner.Order

namespace FormCompiler.Database.Planner

structure Request where
  purpose : Purpose := {}
  times : Int := 0
  columns : Nat := 1
  limit : Option Int := none
  isDistinct : Bool := false
  sortsGroups : Bool := false

structure Path where
  loops : List Loop := []
  rows : Int := 0
  cost : Int := 0
  unsorted : Int := 0
  ordered : Option Nat := some 0
  reversed : List Nat := []

namespace Path

def stages (p : Path) : List Nat := p.loops.map (·.stage)

def isRival (p q : Path) : Bool :=
  p.stages.all q.stages.contains && q.stages.all p.stages.contains && p.ordered.isSome == q.ordered.isSome

def isNoWorse (p q : Path) : Bool :=
  p.cost < q.cost || (p.cost = q.cost && (p.rows < q.rows || (p.rows = q.rows && p.unsorted ≤ q.unsorted)))

def worst (paths : List Path) : Nat × Int × Int :=
  match paths with
  | [] => (0, 0, 0)
  | first :: rest =>
    (rest.zipIdx).foldl (fun (worst : Nat × Int × Int) (p, i) =>
      if worst.2.1 < p.cost || (p.cost = worst.2.1 && worst.2.2 < p.unsorted) then
        (i + 1, p.cost, p.unsorted) else worst)
      (0, first.cost, first.rows)

def insert (count : Nat) (paths : List Path) (p : Path) : List Path :=
  match paths.findIdx? fun q => q.isRival p with
  | some i => if (paths[i]?).any fun q => q.isNoWorse p then paths else paths.set i p
  | none =>
    if paths.length < count then paths ++ [p]
    else
      let (i, cost, unsorted) := worst paths
      if cost < p.cost || (p.cost = cost && unsorted ≤ p.unsorted) then paths else paths.set i p

end Path

namespace Search

variable (s : Search) (r : Request)

def sortCost (rows : Int) (met : Nat) : Int :=
  let n := s.order.length
  let cost := rows + Estimate.ofNat ((r.columns + 59) / 30)
  let cost := if met = 0 then cost else cost + Estimate.ofNat ((n - met) * 100 / n) - 66
  match r.limit with
  | some limit => cost + 10 + (if met = 0 then 0 else 6) + Estimate.seek (min limit rows)
  | none => cost + Estimate.seek (if r.isDistinct && 10 < rows then rows - 10 else rows)

def extended (rows : Option Int) (p : Path) (l : Loop) : Option Path :=
  let before := p.stages
  if !l.needs.all before.contains || before.contains l.stage || (l.means = .made && p.rows < 3) then none
  else
    let unsorted := l.run + p.rows
    let unsorted := if l.setup = 0 then unsorted else Estimate.add l.setup unsorted
    let unsorted := Estimate.add unsorted p.unsorted
    let loops := p.loops ++ [l]
    let (ordered, reversed) := match p.ordered with
      | none => s.sortedBy r.purpose loops
      | some n => (some n, p.reversed)
    let isStreamed := p.loops.isEmpty && l.isByNumber && (s.stages[l.stage]?).any (·.isStreamed) && !l.isConstrained
    let count := p.rows + l.rows - if isStreamed then 30 else 0
    let less := if isStreamed then 10 else 0
    let wanted := if rows.isSome then s.order.length else 0
    match ordered.filter (· < wanted), rows with
    | some met, some rows =>
      some {
        loops, rows := count, cost := Estimate.add unsorted (s.sortCost r rows met) + 3 - less
        unsorted, ordered, reversed }
    | _, _ => some { loops, rows := count, cost := unsorted - less, unsorted := unsorted - 2, ordered, reversed }

def bestPath? (loops : List Loop) (rows : Option Int) : Option Path :=
  let n := s.stages.length
  let count := if n ≤ 1 then 1 else if n = 2 then 5 else 10
  let wantsOrder := rows.isSome && !s.order.isEmpty
  let start : Path := { rows := min r.times 48, ordered := if wantsOrder then none else some 0 }
  let paths := (List.range n).foldl (fun (paths : List Path) _ =>
    (paths.flatMap fun p => loops.filterMap (s.extended r rows p)).foldl (Path.insert count) []) [start]
  paths.foldl (fun (best : Option Path) p =>
    match best with
    | some b => if p.cost < b.cost then some p else some b
    | none => some p) none

def narrowed (loops : List Loop) (p : Path) : List Loop :=
  let found := (p.loops.takeWhile fun l => l.hasEqual || l.hasNull || l.hasAmong).map (·.stage)
  loops.filter fun l => !found.contains l.stage || l.isConstrained || l.means = .made

def path? (s : Search) (foldsCase : Bool) (r : Request) : Option Path :=
  let loops := s.loops foldsCase
  (s.bestPath? r loops none).bind fun p =>
    if s.order.isEmpty then some p else s.bestPath? r (narrowed loops p) (some (max 1 (p.rows + 1)))

def directions (p : Path) : List Nat × Bool :=
  let n := s.order.length
  if n = 0 then ([], false)
  else if r.purpose.isDistinct then ([], false)
  else
    let met := p.ordered.getD 0
    let isSearch := match p.loops.getLast? with
      | some l => !l.isOneRow && !(l.isByNumber && l.hasAmong)
      | none => false
    let reversed :=
      if met = 0 && isSearch then
        match s.sortedBy { isInner := true } p.loops with
        | (some k, reversed) => if k = n then reversed else p.reversed
        | _ => p.reversed
      else p.reversed
    let inGroups := r.purpose.isGroup && met = n
    let reversed :=
      if inGroups && r.sortsGroups then
        match s.sortedBy {} p.loops with
        | (some k, reversed) => if k = n then reversed else p.reversed
        | _ => reversed
      else reversed
    (reversed, inGroups)

end Search

end FormCompiler.Database.Planner
