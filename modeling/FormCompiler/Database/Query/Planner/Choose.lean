import FormCompiler.Database.Query.Entry
import FormCompiler.Database.Query.Planner.Path
import FormCompiler.Database.Query.Rewrite

namespace FormCompiler.Database

def Plan.estimate : Plan → Int
  | .values rows => rows.length
  | .select s => s.estimate
  | .compound c =>
    if !c.order.isEmpty then 200
    else
      let one : Plan → Int
        | .select s => s.estimate
        | _ => 0
      c.rest.foldl (fun (n : Int) (op, p) => match op with
        | .union | .unionAll => Estimate.add n (one p)
        | .intersect => min n (one p)
        | .except => n) (one c.first)
  | .repeated _ => 200

def Planner.limitOf? : Term → Option Int
  | .value (.integer n) => if 0 ≤ n then some (Estimate.ofNat n.toNat) else none
  | _ => none

namespace Planner

def impliesRow (places : List Nat) : Nat → Term → Bool
  | 0, _ => false
  | fuel + 1, t =>
    let go := impliesRow places fuel
    match t with
    | .column p _ | .rowNumber p => p.level == 0 && places.contains p.place
    | .binary .and a b | .binary .or a b => go a && go b
    | .binary _ a b => go a || go b
    | .compare op _ a b => op != .is && op != .isNot && (go a || go b)
    | .compareRows .. => false
    | .unary .isNull _ | .unary .notNull _ => false
    | .unary _ a | .cast a _ => go a
    | .inList _ _ a items => !items.isEmpty && go a
    | _ => false

def demandsRow (places : List Nat) : Term → Bool
  | .unary .notNull a => impliesRow places depth a
  | t => impliesRow places depth t

def isFinding (isMatch : Bool) (k : Nat) (item : Joined) : Bool :=
  match item.source with
  | .table _ t _ _ => match t.keeping? with
    | some (.texts s) => isMatch || s.columns.length ≤ k
    | _ => false
  | .supplied name _ => !isMatch && ((Supplied.columns? name).any fun (seen, _) => seen.length ≤ k)
  | _ => false

def search? (items : List Joined) (t : Term) : Option (Nat × Nat × Term) :=
  let about (isMatch : Bool) (p : Position) (k : Nat) (a : Term) : Option (Nat × Nat × Term) :=
    if p.level = 0 && items.any (fun i => i.start == p.place && isFinding isMatch k i) then
      some (p.place, k, a) else none
  match t with
  | .call "match" _ [words, .column p k] => about true p k words
  | .compare .eq _ (.column p k) (.column q j) => about false p k (.column q j) <|> about false q j (.column p k)
  | .compare .eq _ (.column p k) a => about false p k a
  | .compare .eq _ a (.column p k) => about false p k a
  | _ => none

def told (found : List (Nat × Nat × Term)) (item : Joined) : Joined :=
  let own := (found.filter fun f => f.1 == item.start).map (·.2)
  match own, item.source with
  | _ :: _, .table i t args hint => item.replaced (.table i t (args ++ own) hint)
  | _ :: _, .supplied name args =>
    let first := ((Supplied.columns? name).map fun (seen, _) => seen.length).getD 0
    let args := own.foldl (fun (args : List (Option Term)) (k, a) =>
      (args ++ List.replicate (k + 1 - first - args.length) none).set (k - first) (some a)) args
    item.replaced (.supplied name args)
  | _, _ => item

def searching (s : Select) : Select :=
  let sources := s.sources.map fun item =>
    let found := item.conditions.filterMap fun t => (search? [item] t).map (t, ·)
    if found.isEmpty then item
    else
      match told (found.map (·.2)) item with
      | .mk source join start widths conditions access =>
        .mk source join start widths (conditions.filter fun t => (search? [item] t).isNone) access
  let open_ := sources.filter fun i => !i.join.isLeft
  let found := s.where_.filterMap (search? open_)
  if found.isEmpty then { s with sources }
  else { s with sources := sources.map (told found), where_ := s.where_.filter fun t => (search? open_ t).isNone }

def simplified (sources : List Joined) (where_ : List Term) : List Joined × List Term :=
  let isPlain (j : Join) : Bool := !j.isLeft && !j.isRight
  let flat := sources.foldl (fun (found : List Joined × List Term) item =>
    match item.source with
    | .group inner =>
      if isPlain item.join && inner.all fun i => isPlain i.join then
        (found.1 ++ inner.map (fun i => i.joinedBy i.join),
          found.2 ++ inner.flatMap (·.conditions) ++ item.conditions)
      else (found.1 ++ [item], found.2)
    | _ => (found.1 ++ [item], found.2)) ([], where_)
  flat.1.foldl (fun (found : List Joined × List Term) item =>
    let places := List.range' item.start item.width
    if item.join.isLeft && !item.join.isRight && found.2.any (demandsRow places) then
      (found.1 ++ [item.joinedBy { item.join with isLeft := false }],
        found.2 ++ item.conditions)
    else (found.1 ++ [item], found.2)) ([], flat.2)

def usedColumns (t : Table) (place : Nat) (reads : List (Nat × Nat)) : List Nat :=
  let used := ((reads.filter fun r => r.1 == place).map (·.2)).eraseDups
  let isComputed (i : Nat) : Bool := (t.columns[i]?).any fun c => c.generated.isSome
  let all := if used.any isComputed then List.range t.columns.size else used
  all.filter fun i => t.rowColumn != some i

def numberKey (rows : Int) : Key where
  parts := [{ subject := .number, affinity := .integer, isNullable := false }]
  own := 1
  isUnique := true
  rows := [rows, 0]
  width := 3

def supplyOf (name : String) (hasArguments : Bool) (needs : List Nat) : Supply :=
  if name.startsWith "json_" then { needs, cost := if hasArguments then 0 else 1640, rows := 46 }
  else { needs, cost := if hasArguments then 43 else 0, rows := if hasArguments then 43 else 46 }

def wantedOrder (stages : List Stage) (keys : List (SortKey Term)) : List OrderKey :=
  keys.map fun k =>
    { term := k.term, subject := subjectOf? stages k.term, stages := stagesOf stages k.term, collation := k.collation
      isDescending := k.isDescending, isTurned := k.nullsFirst.any (· == k.isDescending) }

def wishOf (s : Select) : List (SortKey Term) × Request :=
  let columns := s.columns.length
  let asKeys (ts : List Term) (collations : List Collation) : List (SortKey Term) :=
    ts.zipIdx.map fun (t, i) => { term := t, collation := collations.getD i .binary }
  let limit := s.limit.bind limitOf?
  match s.group with
  | some [] =>
    let outer := s.columns ++ s.having.toList ++ s.order.map (·.term)
    let isBare := outer.any fun t => (t.columns depth).isEmpty.not
    match s.aggregates with
    | [{ name, args := [a], filter := none, order := [], isDistinct, collation, .. }] =>
      let wish := { columns, purpose := { isExtreme := true } }
      if name == "max" then ([{ term := a, collation, isDescending := true }], wish)
      else if name == "min" then ([{ term := a, collation, nullsFirst := some false }], wish)
      else if isDistinct && !isBare then
        ([{ term := a, collation }], { columns, isDistinct := true, purpose := { isDistinct := true } })
      else ([], { columns })
    | _ => ([], { columns })
  | some keys =>
    let isSame := keys.length == s.order.length && (keys.zip s.order).all fun (k, o) => k.term.same depth o.term
    (keys, { columns, purpose := { isGroup := true }, sortsGroups := isSame && s.windows.isEmpty })
  | none =>
    match s.windows.getLast? with
    | some w => (w.partition ++ w.order, { columns })
    | none =>
      let isPlainKey (o : SortKey Term) : Bool := !o.isDescending && o.nullsFirst.isNone
      if s.isDistinct && s.order.isEmpty then
        (asKeys s.columns s.collations, { columns, limit, isDistinct := true, purpose := { isDistinct := true } })
      else if s.isDistinct && s.order.length == columns && s.order.all isPlainKey
        && (s.order.zip s.columns).all fun (o, c) => o.term.same depth c
      then (asKeys s.columns s.collations, { columns, purpose := { isGroup := true }, sortsGroups := true })
      else (s.order, { columns, limit, isDistinct := s.isDistinct })

def isAlreadyDistinct (s : Search) (order : List OrderKey) : Bool :=
  match s.stages with
  | [source] =>
    let isNumber (o : OrderKey) : Bool := o.subject.any fun (_, x) => match x with
      | .number => true
      | _ => false
    order.any isNumber || source.keys.any fun k =>
      k.index.isSome && k.isUnique && k.condition.isEmpty && (k.parts.take k.own).all fun p =>
        (s.matching 0 p.subject fun c => Search.agrees c p && (match c.test with
          | .equal => c.needs.isEmpty
          | _ => false)).isEmpty.not
        || (!p.isNullable && order.any fun o => o.collation == p.collation && o.subject.any fun (_, x) =>
          x.same p.subject)
  | _ => false

end Planner

namespace Work

open Planner

def keyFor (t : Table) (place : Nat) (x : Index) : Work Key := do
  let ofColumn (i : Nat) (collation : String) (isDescending : Bool) : KeyColumn :=
    if t.rowColumn == some i then { subject := .number, affinity := .integer, isDescending, isNullable := false }
    else
      let c := t.columns[i]?
      { subject := .column i, collation := (Collation.ofName? collation).getD .binary
        affinity := (c.map (·.affinity)).getD .none, isDescending
        isNullable := !(c.any fun c => c.notNull.isSome || (t.isKeyed && c.isKey)) }
  let own ← x.parts.mapM fun p => do
    match p.column with
    | some i => return ofColumn i p.collation p.isDescending
    | none =>
      let e ← ownTyped t p.expr
      return { subject := .expr (e.term.atPlace place), collation := (Collation.ofName? p.collation).getD .binary
               affinity := e.affinity, isDescending := p.isDescending }
  let isTable := t.isOwn x
  let beside : List KeyColumn :=
    if isTable then []
    else if t.isKeyed then
      (t.keyColumnsBeside x).map fun k =>
        let part := ((t.keyIndex?.map (·.parts)).getD []).find? fun p => p.column == some k
        ofColumn k ((part.map (·.collation)).getD "BINARY") (part.any (·.isDescending))
    else [{ subject := .number, affinity := .integer, isNullable := false }]
  let condition ← match x.where_ with
    | some e => ((Expr.conjuncts Expr.maxDepth e).mapM fun e => do return (← ownTerm t e).atPlace place)
    | none => pure []
  let widths := if isTable then t.columns.toList.map Estimate.widthOf
    else (own ++ beside).map fun p => match p.subject with
      | .column i => (t.columns[i]?.map Estimate.widthOf).getD 1
      | _ => 1
  return { index := some x, parts := own ++ beside, own := own.length, isUnique := x.isUnique, condition
           rows := Estimate.indexRows t x, width := Estimate.ofNat (4 * widths.foldl (· + ·) 0), isTable }

def stageOf (origins : Array Origin) (reads : List (Nat × Nat)) (isStreamed : Bool) (needs : List Term → List Nat)
    (item : Joined) :
    Work Stage := do
  let places := List.range' item.start item.width
  let fields := ((origins[item.start]?).map (·.fields.toList)).getD []
  let plain : Stage := { places, join := item.join, affinities := fields.map (·.affinity), keys := [numberKey 200] }
  match item.source with
  | .table _ t args hint =>
    if t.isVirtual then
      return { plain with keys := [], supply := some (supplyOf t.name (!args.isEmpty) (needs (args.map (·.2)))) }
    let rows := Estimate.tableRows t
    let allowed := t.indices.filter fun x => match hint with
      | .nothing => true
      | .noIndex => t.isKeyed
      | .index name => Name.same x.name name
    let numbered := if t.isKeyed || (match hint with
      | .index _ => true
      | _ => false) then [] else [numberKey rows]
    let indexed ← allowed.mapM (keyFor t item.start)
    return { plain with
      rows, width := Estimate.tableWidth t, keys := numbered ++ indexed, used := usedColumns t item.start reads
      rowColumn := t.rowColumn, hasNumbers := !t.isKeyed, isTable := true, mayBeIndexed := true, hint
      hasSamples := t.hasSamples }
  | .rows q e =>
    let rows := q.estimate
    return { plain with rows, keys := [numberKey rows], mayBeIndexed := e.isFixed, isStreamed
                        used := ((reads.filter fun r => r.1 == item.start).map (·.2)).eraseDups }
  | .recent _ => return plain
  | .supplied name args =>
    return { plain with keys := [], supply := some (supplyOf name (args.any (·.isSome)) (needs (args.filterMap id))) }
  | .group _ => return plain

def mayStream (items : List Joined) (i : Nat) : Bool :=
  let isOuter (j : Joined) : Bool := j.join.isLeft || j.join.isRight || j.join.isCross
  let isQuery (j : Joined) : Bool := match j.source with
    | .rows .. => true
    | _ => false
  i = 0 || ((items.take (i + 1)).all (fun j => !isOuter j) && (items.take i).all fun j => !isQuery j)

def accessOf (s : Search) (foldsCase : Bool) (times : Int) (before : List Nat) (l : Loop)
    (isReversed : Bool) : Access :=
  let source := (s.stages[l.stage]?).getD { places := [] }
  let byKey (l : Loop) (isReversed : Bool) : Access :=
    match (s.keyOf? l).bind fun k => if k.isTable then none else k.index with
    | some x => .index x isReversed
    | none => .kept isReversed
  match l.means with
  | .key _ => byKey l isReversed
  | .supplied => .kept false
  | .made =>
    let driving := (List.range s.clauses.size).filterMap fun j =>
      let c := s.clause j
      match c.subject with
      | some (k, .column i) =>
        if k == l.stage && c.test.isEquality && Search.isOpen l.stage source c && c.needs.all before.contains
          && (source.affinities[i]?).any c.fits
        then some i else none
      | _ => none
    let others := (List.range source.affinities.length).filter fun i => source.used.contains i && !driving.contains i
    .sorted (others.map (·, .binary))
  | .either j =>
    match (s.clause j).test with
    | .either arms =>
      let others := ((List.range s.base).filter fun k => k != j && (match (s.clause k).test with
        | .other | .either _ => false
        | _ => true)).map fun k => (s.clause k).term
      .parts (arms.map fun arm =>
        let joins := (s.clause j).joins.map fun _ => 0
        let (clauses, base) := clausesOf [source] foldsCase ((arm ++ others).map (·, joins))
        let sub : Search := { stages := [source], clauses, base, makesIndices := false }
        match sub.path? foldsCase { times } with
        | some p => (arm, (p.loops.head?.map fun l =>
            match (sub.keyOf? l).bind fun k => if k.isTable then none else k.index with
            | some x => AccessOf.index x false
            | none => AccessOf.kept false).getD (.kept false))
        | none => (arm, .kept false))
    | _ => .kept false

def planned (origins : Array Origin) (reads : List (Nat × Nat)) (times : Int) (isChanging : Bool) (s : Select) :
    Work (Option Select) := do
  if s.sources.isEmpty then return some { s with estimate := 0 }
  if s.sources.any fun i => i.join.isRight then return some (searching s)
  let c ← get
  let foldsCase := c.likeFoldsCase
  let isOn (name : String) (otherwise : Bool) : Bool := ((c.told.lookup (0, name)).map (· != 0)).getD otherwise
  let (items, where_) := simplified s.sources s.where_
  let s := searching { s with sources := items, where_ }
  let items := s.sources
  let where_ := s.where_
  let stageIndex (place : Nat) : Option Nat :=
    items.findIdx? fun (i : Joined) => i.start ≤ place && place < i.start + i.width
  let needs (ts : List Term) : List Nat :=
    (ts.flatMap fun t => ((t.uses depth).filter fun p => p.level = 0).filterMap fun p => stageIndex p.place).eraseDups
  let stages ← items.zipIdx.mapM fun (item, i) => stageOf origins reads (mayStream items i) needs item
  let terms := where_.map (·, none) ++ items.zipIdx.flatMap fun ((item : Joined), i) =>
    item.conditions.map (·, if item.join.isLeft then some i else none)
  let (clauses, base) := clausesOf stages foldsCase terms
  let (keys, request) := wishOf s
  let order := wantedOrder stages keys
  let search : Search := { stages, clauses, base, isChanging, makesIndices := isOn "automatic_index" true }
  let isNeedless := s.isDistinct && request.purpose.isDistinct && isAlreadyDistinct search order
  let search := if isNeedless then search else { search with order }
  let request := { request with times }
  match search.path? foldsCase request with
  | none => return none
  | some p =>
    let (reversed, inGroups) := search.directions request p
    let turnsAll := search.order.isEmpty && isOn "reverse_unordered_selects" false
    let (sources, _) := p.loops.zipIdx.foldl (fun (found : List Joined × List Nat) (l, i) =>
      let access := accessOf search foldsCase p.rows found.2 l (turnsAll || reversed.contains i)
      match items[l.stage]? with
      | some item => (found.1 ++ [item.accessed access], l.stage :: found.2)
      | none => found) ([], [])
    let limit := (s.limit.bind limitOf?).getD 320
    let rows := p.rows - if request.isDistinct then 30 else 0
    let estimate := match s.group with
      | some [] => 0
      | some _ => min limit 66
      | none => min limit rows
    return some { s with sources, inGroups, estimate }

end Work

end FormCompiler.Database
