import FormCompiler.Database.Query.Planner.Clause

namespace FormCompiler.Database.Planner

inductive Means where
  | key (k : Nat)
  | made
  | supplied
  | either (clause : Nat)
  deriving DecidableEq, Inhabited

structure Loop where
  stage : Nat
  needs : List Nat := []
  means : Means
  sort : Nat := 0
  clauses : List Nat := []
  equal : Nat := 0
  hasLower : Bool := false
  hasUpper : Bool := false
  hasEqual : Bool := false
  hasAmong : Bool := false
  hasNull : Bool := false
  isByNumber : Bool := false
  isIndexed : Bool := false
  isCovering : Bool := false
  isOneRow : Bool := false
  setup : Int := 0
  run : Int := 0
  rows : Int := 0
  deriving Inhabited

namespace Loop

def isConstrained (l : Loop) : Bool := l.hasLower || l.hasUpper || l.hasEqual || l.hasAmong || l.hasNull

def isSmaller (x y : Loop) : Bool :=
  x.clauses.length < y.clauses.length && !(y.run < x.run && y.rows < x.rows) && x.clauses.all y.clauses.contains
    && (!x.isCovering || y.isCovering)

def settled (loops : List Loop) (t : Loop) : Loop :=
  if !t.isIndexed then t
  else
    loops.foldl (fun (t : Loop) p =>
      if p.stage != t.stage || !p.isIndexed then t
      else if p.isSmaller t then { t with run := min p.run t.run, rows := min (p.rows - 1) t.rows }
      else if t.isSmaller p then { t with run := max p.run t.run, rows := max (p.rows + 1) t.rows }
      else t) t

inductive Standing where
  | apart
  | better
  | worse

def standing (p t : Loop) : Standing :=
  if p.stage != t.stage || p.sort != t.sort then .apart
  else if p.means = .made && t.isIndexed && t.hasEqual && t.needs.all p.needs.contains then .worse
  else if p.needs.all t.needs.contains && p.setup ≤ t.setup && p.run ≤ t.run && p.rows ≤ t.rows then .better
  else if t.needs.all p.needs.contains && t.run ≤ p.run && t.rows ≤ p.rows then .worse
  else .apart

def prune (t : Loop) : List Loop → List Loop
  | [] => []
  | p :: rest =>
    match p.standing t with
    | .apart => p :: prune t rest
    | .better => p :: rest
    | .worse => prune t rest

def place (t : Loop) : List Loop → List Loop
  | [] => [t]
  | p :: rest =>
    match p.standing t with
    | .apart => p :: place t rest
    | .better => p :: rest
    | .worse => t :: prune t rest

def insert (loops : List Loop) (t : Loop) : List Loop := place (t.settled loops) loops

end Loop

structure OrderKey where
  term : Term
  subject : Option (Nat × Subject) := none
  stages : List Nat := []
  collation : Collation := .binary
  isDescending : Bool := false
  isTurned : Bool := false

structure Search where
  stages : List Stage
  clauses : Array Clause
  base : Nat
  order : List OrderKey := []
  isChanging : Bool := false
  makesIndices : Bool := true

namespace Search

def clause (s : Search) (k : Nat) : Clause := (s.clauses[k]?).getD { term := .value .null }

def isOpen (stage : Nat) (source : Stage) (c : Clause) : Bool := !source.isOuter || c.joins == some stage

def agrees (c : Clause) (part : KeyColumn) : Bool :=
  match part.subject, c.test with
  | .number, _ | _, .isNull => true
  | _, _ => c.fits part.affinity && c.how.collation == part.collation

variable (s : Search) (stage : Nat) (source : Stage)

def matching (subject : Subject) (allows : Clause → Bool) : List Nat :=
  let first := (stage, subject)
  let is (x : Option (Nat × Subject)) (y : Nat × Subject) : Bool := x.any fun (k, a) => k == y.1 && a.same y.2
  let rec go : Nat → Nat → List (Nat × Subject) → List Nat
    | 0, _, _ => []
    | fuel + 1, i, known =>
      match known[i]? with
      | none => []
      | some target =>
        let about := (List.range s.clauses.size).filter fun k =>
          let c := s.clause k
          is c.subject target && (i = 0 || c.joins.isNone)
        let others := about.filterMap fun k =>
          let c := s.clause k
          if c.isEquivalence then c.object.bind (subjectOf? s.stages) else none
        let known := others.foldl (fun (ks : List (Nat × Subject)) o =>
          if ks.any fun k => is (some k) o then ks else if ks.length < 11 then ks ++ [o] else ks) known
        let found := about.filter fun k =>
          let c := s.clause k
          allows c && !(c.test.isEquality && is (c.object.bind (subjectOf? s.stages)) first)
        found ++ go fuel (i + 1) known
  go 12 0 [first]

def adjusted (s : Search) (l : Loop) (all : Int) : Loop :=
  let isUsed (k : Nat) : Bool := l.clauses.any fun j => j == k || (s.clause j).parent == some k
  let (rows, cut) := (List.range s.base).foldl (fun (found : Int × Int) k =>
    let c := s.clause k
    if !(c.stages.contains l.stage && c.stages.all fun i => i == l.stage || l.needs.contains i) || isUsed k then found
    else
      let (rows, cut) := found
      if !c.test.isEquality then (rows - 1, cut)
      else
        match c.object with
        | some (.value (.integer n)) => (rows - 1, if -1 ≤ n && n ≤ 1 then max cut 10 else max cut 20)
        | _ => (rows - 1, max cut 20)) (l.rows, 0)
  { l with rows := min rows (all - cut) }

def helpsOrder (k : Key) : Bool :=
  s.order.any fun o => o.subject.any fun (i, x) => i == stage &&
    (match x with
      | .number => true
      | x => (k.parts.take k.own).any fun p => p.subject.same x)

def covers (k : Key) : Bool := source.used.all k.hasColumn

def isIndexTerm (k : Key) (t : Term) : Bool :=
  (t.columns depth).all (fun (place, i) => !source.places.contains place || source.rowColumn == some i || k.hasColumn i)
    && ((t.uses depth).filter fun p => p.level = 0 && source.places.contains p.place).length
      ≤ ((t.columns depth).filter fun (place, _) => source.places.contains place).length

def entryCost (k : Key) (rows : Int) : Int :=
  if k.isNumber then rows + 16 else rows + 1 + (15 * k.width) / source.width

def seeking (source : Stage) (k : Key) : Nat → Loop → Int → List Loop
  | 0, _, _ => []
  | fuel + 1, start, times =>
    match k.parts[start.equal]? with
    | none => []
    | some part =>
      let allows (c : Clause) : Bool :=
        agrees c part && if start.hasLower then c.test.isUpper
          else c.test.isEquality || c.test.isRange || c.test.isAmong || c.test.isNullTest
      let all := k.rowsAfter 0
      let steps := Estimate.seek all
      (s.matching stage part.subject allows).flatMap fun j =>
        let c := s.clause j
        let isVain := !part.isNullable && (c.isPresence || c.test.isNullTest)
        if isVain || c.needs.contains stage || (c.isPaired && c.test.isUpper) || !isOpen stage source c then []
        else
          let l := { start with
            clauses := start.clauses ++ [j], needs := (start.needs ++ c.needs).eraseDups, setup := 0 }
          let count : Int := match c.test with
            | .among n => n
            | _ => 0
          let l : Loop :=
            if c.test.isRange then
              let isPair := c.isPaired
              let hasLower := start.hasLower || c.test.isLower
              let hasUpper := c.test.isUpper || isPair
              let isPresence (i : Nat) : Bool := (s.clause i).isPresence
              let lower := if c.test.isLower then !c.isPresence
                else start.hasLower && !(start.clauses.getLast?.any isPresence)
              let both := hasLower && hasUpper
              let less : Int :=
                l.rows - (if lower then 20 else 0) - (if hasUpper then 20 else 0) - (if both then 20 else 0)
              let bounds : Int := (if hasLower then 1 else 0) + (if hasUpper then 1 else 0)
              { l with hasLower, hasUpper, rows := min (max less 10) (l.rows - bounds)
                       clauses := if isPair then l.clauses ++ [j + 1] else l.clauses }
            else
              let n := start.equal + 1
              let isNull := c.test.isNullTest
              let isLast := match part.subject with
                | .number => true
                | .column _ => times = 0 && n = k.own
                | .expr _ => false
              let isOne := c.test.isEquality && isLast && ((match part.subject with
                | .number => true
                | _ => false) || k.isStrict || (k.own = 1 && k.isUnique && (match c.test with
                  | .equal => true
                  | _ => false)))
              { l with equal := n, rows := l.rows + (k.rowsAfter n - k.rowsAfter (n - 1)) + (if isNull then 10 else 0)
                       hasEqual := l.hasEqual || c.test.isEquality, hasAmong := l.hasAmong || c.test.isAmong
                       hasNull := l.hasNull || isNull, isOneRow := l.isOneRow || isOne }
          let cost := Estimate.add steps (entryCost source k l.rows)
          let cost := if l.isCovering || k.isNumber then cost else Estimate.add cost (l.rows + 16)
          let found := s.adjusted { l with run := cost + times + count, rows := l.rows + times + count } all
          let next := { l with rows := if c.test.isRange then start.rows else l.rows }
          let mayGoOn := !l.hasUpper && l.equal < k.parts.length && (l.equal < k.own || !k.isPrimary)
          found :: if mayGoOn then seeking source k fuel next (times + count) else []

def byKey (needs : List Nat) (number : Nat) (k : Key) : List Loop :=
  let terms := (s.clauses.toList.filter fun c =>
    !c.isPresence && c.joins.all (· == stage) && (!source.isOuter || c.joins.isSome)).map (·.term)
  if !k.condition.all (implied terms) then []
  else
    let all := k.rowsAfter 0
    let helps := s.helpsOrder stage k
    let covers := covers source k
    let start : Loop := { stage, needs, means := .key number, rows := all, isByNumber := k.isNumber
                          isIndexed := !k.isNumber
                          isCovering := !k.isNumber && covers }
    let whole : List Loop :=
      if k.isNumber then
        let run := all + if source.hasSamples then 14 else 16
        [s.adjusted { start with sort := if helps then number + 1 else 0, run } all]
      else if helps || !source.hasNumbers || !k.condition.isEmpty || source.hint != .nothing
        || (covers && k.width < source.width && !s.isChanging)
      then
        let run := entryCost source k all
        let tested := (s.clauses.toList.takeWhile fun c => isIndexTerm source k c.term).map fun c : Clause =>
          if c.test.isEquality then (20 : Int) else 1
        let run := if covers then run else Estimate.add run (all + 16 - tested.foldl (· + ·) 0)
        [s.adjusted { start with sort := if helps then number + 1 else 0, run } all]
      else []
    whole ++ s.seeking stage source k (2 * k.parts.length + 2) { start with sort := if helps then number + 1 else 0 } 0

def byMade (needs : List Nat) : List Loop :=
  if !s.makesIndices || !source.mayBeIndexed || source.hint != .nothing || !source.hasNumbers ||
    source.join.isRight then []
  else
    let all := source.rows
    let steps := Estimate.seek all
    let setup := max 0 (steps + all + if source.isTable then 28 else -25)
    (List.range s.clauses.size).filterMap fun j =>
      let c := s.clause j
      match c.subject with
      | some (k, .column i) =>
        let isFirst (key : Key) : Bool := (key.parts.head?).any fun p => p.subject.same (.column i)
        if k != stage || !c.test.isEquality || c.needs.contains stage || !isOpen stage source c ||
          source.keys.any isFirst
          || !(source.affinities[i]?).any c.fits
        then none
        else some { stage, needs := (needs ++ c.needs).eraseDups, means := .made, clauses := [j], equal := 1
                    setup, rows := 43
                    run := Estimate.add steps 43 }
      | _ => none

def byKeys (needs : List Nat) : List Loop :=
  source.keys.zipIdx.flatMap fun (k, number) => s.byKey stage source needs number k

structure Sum where
  needs : List Nat
  run : Int
  rows : Int

def insertSum (sums : List Sum) (x : Sum) : List Sum :=
  let decided := sums.zipIdx.findSome? fun (p, i) =>
    if x.run ≤ p.run && x.needs.all p.needs.contains then some (some i)
    else if p.run ≤ x.run && p.needs.all x.needs.contains then some none
    else none
  match decided with
  | some none => sums
  | some (some i) => sums.modify i fun p => { x with rows := min p.rows x.rows }
  | none =>
    if sums.length < 3 then sums ++ [x]
    else
      let least := sums.zipIdx.foldl (fun (best : Option (Sum × Nat)) p =>
        match best with
        | some b => if p.1.run < b.1.run then some p else some b
        | none => some p) none
      match least with
      | some (p, i) => if p.run ≤ x.run then sums else sums.modify i fun p => { x with rows := min p.rows x.rows }
      | none => sums

def forArm (s : Search) (foldsCase : Bool) (joins : Option Nat) (arm : List Term) : Search :=
  let (own, base) := clausesOf s.stages foldsCase (arm.map (·, joins))
  let outer := s.clauses.map fun c => { c with parent := c.parent.map (· + own.size) }
  { s with clauses := own ++ outer, base, order := [], makesIndices := false }

def sums (s : Search) (foldsCase : Bool) (stage : Nat) (source : Stage) (needs : List Nat) :
    Nat → Clause → List (List Term) →
    List Sum
  | 0, _, _ => []
  | fuel + 1, c, arms =>
    let ofArm (arm : List Term) : List Sum :=
      let sub := s.forArm foldsCase c.joins arm
      let own := sub.clauses.toList.take (sub.clauses.size - s.clauses.size)
      let isAbout := own.any fun (c : Clause) => c.subject.any (·.1 == stage)
      let direct := (sub.byKeys stage source needs).filter fun l => !l.clauses.isEmpty
      let nested := own.flatMap fun (c : Clause) => match c.test with
        | .either more => sums sub foldsCase stage source needs fuel c more
        | _ => []
      if !isAbout && nested.isEmpty then []
      else
        ((if isAbout then direct else []).map fun l : Loop =>
          ({ needs := l.needs, run := l.run, rows := l.rows } : Sum))
          ++ nested.map (fun x => { x with run := x.run + 1 })
    match arms.map fun arm => (ofArm arm).foldl insertSum [] with
    | [] => []
    | first :: rest =>
      rest.foldl (fun (total : List Sum) more =>
        (total.flatMap fun a => more.map fun b =>
          ({ needs := (a.needs ++ b.needs).eraseDups, run := Estimate.add a.run b.run
             rows := Estimate.add a.rows b.rows } : Sum)).foldl insertSum []) first

def byAlternatives (s : Search) (foldsCase : Bool) (stage : Nat) (source : Stage) (needs : List Nat) : List Loop :=
  (List.range s.clauses.size).flatMap fun j =>
    let c := s.clause j
    match c.test with
    | .either arms =>
      if !isOpen stage source c then []
      else
        (s.sums foldsCase stage source needs 8 c arms).map fun x : Sum =>
          ({ stage, needs := x.needs, means := .either j, clauses := [j], run := x.run + 1, rows := x.rows } : Loop)
    | _ => []

def loops (s : Search) (foldsCase : Bool) : List Loop :=
  s.stages.zipIdx.foldl (fun (found : List Loop) (source, stage) =>
    let needs := if source.isOuter || source.join.isCross then List.range stage else []
    let ways : List Loop := match source.supply with
      | some x => [{ stage, needs := (needs ++ x.needs).eraseDups, means := .supplied, run := x.cost, rows := x.rows }]
      | none => s.byMade stage source needs ++ s.byKeys stage source needs ++
          (if source.isTable then s.byAlternatives foldsCase stage source needs else [])
    ways.foldl Loop.insert found) []

end Search

end FormCompiler.Database.Planner
