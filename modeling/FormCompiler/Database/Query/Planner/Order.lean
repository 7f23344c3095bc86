import FormCompiler.Database.Query.Planner.Loop

namespace FormCompiler.Database.Planner

structure Purpose where
  isGroup : Bool := false
  isDistinct : Bool := false
  isExtreme : Bool := false
  isInner : Bool := false

structure Sortedness where
  met : List Bool
  isDistinct : Bool := true
  distinctStages : List Nat := []
  ready : List Nat := []
  reversed : List Nat := []
  isOver : Bool := false
  isLost : Bool := false

namespace Search

def keyOf? (s : Search) (l : Loop) : Option Key :=
  match l.means with
  | .key k => (s.stages[l.stage]?).bind (·.keys[k]?)
  | _ => none

def fixing? (s : Search) (stage : Nat) (subject : Subject) (ready : List Nat) (allows : Test → Bool) : Option Clause :=
  let found := ((s.matching stage subject fun c => allows c.test).map s.clause).filter fun c =>
    c.needs.all ready.contains
  (found.find? fun c => c.needs.isEmpty && c.test.isEquality) <|> found.head?

variable (s : Search) (p : Purpose)

def markFixed (l : Loop) (state : Sortedness) : Sortedness :=
  let allows (t : Test) : Bool := t.isEquality || t.isNullTest || ((p.isExtreme || p.isInner) && t.isAmong)
  let isFixed (o : OrderKey) : Bool :=
    match o.subject with
    | some (_, .expr _) | none => false
    | some (k, x) => k == l.stage &&
      (match s.fixing? k x state.ready allows with
        | none => false
        | some c =>
          if c.test.isAmong then l.clauses.any fun j => (s.clause j).term.same depth c.term
          else !c.test.isEquality || (match x with
            | .number => true
            | _ => c.how.collation == o.collation))
  { state with met := (state.met.zip s.order).map fun (met, o) => met || isFixed o }

structure Walk where
  state : Sortedness
  isDistinct : Bool
  direction : Option Bool := none
  hasNumber : Bool := false
  isOver : Bool := false

def stepPart (l : Loop) (position : Nat) (k : Key) (w : Walk) (j : Nat) (part : KeyColumn) : Walk :=
  if w.isOver then w
  else
    let known := if j < l.equal then (l.clauses[j]?).map s.clause else none
    let isSkipped := known.any fun c =>
      c.test.isEquality || c.test.isNullTest || ((p.isExtreme || p.isInner) && c.test.isAmong)
    if isSkipped then
      let isLoose := known.any fun c => match c.test with
        | .isNull | .same => true
        | _ => false
      { w with isDistinct := w.isDistinct && !isLoose }
    else
      let isLoose := match part.subject with
        | .column _ => l.equal ≤ j && part.isNullable
        | .expr _ => true
        | .number => false
      let isDistinct := w.isDistinct && !isLoose
      let isNumber := match part.subject with
        | .number => true
        | _ => false
      let suits (o : OrderKey) : Bool :=
        (o.subject.any fun (i, x) => i == l.stage && x.same part.subject) && (isNumber || o.collation == part.collation)
      let waiting := (w.state.met.zip s.order).zipIdx.filter fun ((met, _), _) => !met
      let tried := if p.isGroup || p.isDistinct then waiting else waiting.take 1
      let lost : Walk := { w with isOver := true, isDistinct := isDistinct && !(j = 0 || j < k.own) }
      match tried.find? fun ((_, o), _) => suits o with
      | none => lost
      | some ((_, o), i) =>
        let turns := part.isDescending != o.isDescending
        let fits := p.isGroup || w.direction.all (· == turns)
        if !fits || (o.isTurned && j != l.equal) then lost
        else
          let isFirst := !p.isGroup && w.direction.isNone
          { w with isDistinct, hasNumber := w.hasNumber || isNumber
                   direction := if p.isGroup then none else some turns
                   state := { w.state with met := w.state.met.set i true
                                           reversed := if isFirst && turns then position :: w.state.reversed
                                             else w.state.reversed } }

def stepLoop (isLast : Bool) (position : Nat) (l : Loop) (state : Sortedness) : Sortedness :=
  if !state.isDistinct || state.met.all id || state.isOver then state
  else if p.isInner && !isLast then { state with ready := l.stage :: state.ready }
  else if l.means = .supplied then { state with isOver := true }
  else
    let state := s.markFixed p l state
    let state : Sortedness :=
      if l.isOneRow then state
      else
        match s.keyOf? l with
        | none => { state with isLost := true, isOver := true }
        | some k =>
          let start : Walk := { state, isDistinct := k.isNumber || k.isUnique }
          let w := (if k.isNumber then k.parts.take 1 else k.parts).zipIdx.foldl (fun w (part, j) =>
            s.stepPart p l position k w j part) start
          { w.state with isDistinct := w.isDistinct || w.hasNumber }
    let state : Sortedness :=
      if state.isLost || !state.isDistinct then state
      else
        let stages := l.stage :: state.distinctStages
        { state with distinctStages := stages
                     met := (state.met.zip s.order).map fun (met, o) =>
                       met || (o.stages.all stages.contains && (!o.stages.isEmpty || (o.term.uses depth).isEmpty)) }
    { state with ready := l.stage :: state.ready }

def sortedBy (loops : List Loop) : Option Nat × List Nat :=
  let n := loops.length
  let start : Sortedness := { met := s.order.map fun _ => false }
  let state := loops.zipIdx.foldl (fun state (l, i) => s.stepLoop p (i + 1 = n) i l state) start
  if state.isLost then (some 0, state.reversed)
  else if state.met.all id then (some s.order.length, state.reversed)
  else if state.isDistinct then (none, state.reversed)
  else (some (state.met.takeWhile id).length, state.reversed)

end Search

end FormCompiler.Database.Planner
