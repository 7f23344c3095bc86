import FormCompiler.Database.Query.Entry
import FormCompiler.Database.Query.Kept

namespace FormCompiler.Database

def setPlaces (start : Nat) (more places : Array Place) : Array Place :=
  (more.toList.zipIdx).foldl (fun (ps : Array Place) (p, i) => ps.setIfInBounds (start + i) p) places

def joinRows (j : Join) (start width : Nat) (left : Stream (Array Place))
    (right : Array Place → Stream (Nat × Array Place))
    (fits : Array Place → Work Bool) (lone : Std.HashSet Nat → Stream (Array Place)) : Stream (Array Place) where
  fold {σ} f s := do
    let each (matched : Std.HashSet Nat) (s : σ) (places : Array Place) : Work (Flow (Std.HashSet Nat × σ)) := do
      let found ← (right places).fold (fun ((matched, isMatched, s) : Std.HashSet Nat × Bool × σ) (n, more) => do
        let all := setPlaces start more places
        if ← fits all then
          let matched := if j.isRight then matched.insert n else matched
          match ← f s all with
          | .more s => return .more (matched, true, s)
          | .done s => return .done (matched, true, s)
        else return .more (matched, isMatched, s)) (matched, false, s)
      match found with
      | .done (matched, _, s) => return .done (matched, s)
      | .more (matched, true, s) => return .more (matched, s)
      | .more (matched, false, s) =>
        if !j.isLeft then return .more (matched, s)
        match ← f s (setPlaces start (Array.replicate width {}) places) with
        | .more s => return .more (matched, s)
        | .done s => return .done (matched, s)
    match ← left.fold (fun ((matched, s) : Std.HashSet Nat × σ) places => each matched s places) ({}, s) with
    | .done (_, s) => return .done s
    | .more (matched, s) => if j.isRight then (lone matched).fold f s else return .more s

namespace Work

def placesOf (t : Term) : List Nat := ((t.uses termDepth).filter fun p => p.level = 0).map (·.place)

def isReliable : Nat → Term → Bool
  | 0, _ => false
  | fuel + 1, t =>
    match t with
    | .query .. | .exists_ .. | .inQuery .. | .raise .. => false
    | .call name _ args =>
      (match Function.find name args.length with
        | .found f => f.isDeterministic
        | _ => false) && args.all (isReliable fuel)
    | t => t.children.all (isReliable fuel)

def isSteady (t : Term) : Bool := (placesOf t).isEmpty && isReliable termDepth t

variable (runner : Runner) (env : Env)

def allHold (conditions : List Term) (places : Array Place) : Work Bool :=
  conditions.allM (holds runner (env.inside { places }))

def indexRows (i : Nat) (t : Table) (x : Index) (isReversed : Bool) : Stream Place :=
  .after (paging i (Paging.keys x.root)) fun s =>
    let rows := (Stream.ofArray (if isReversed then s.items.reverse else s.items)).mapM fun b => do
      match Row.read? (← get).encoding b 2000 with
      | none => refuse .corrupt
      | some key =>
        match ← rowFor i t x key.toList with
        | some place => return place
        | none => refuse .corrupt
    rows.append (.failing (match s.stopped with
      | some code => refuse code
      | none => return))

def reversed {α : Type} (rows : Stream α) : Stream α := .after rows.toArray fun all => .ofArray all.reverse

def sortedPlaces (columns : List (Nat × Collation)) (rows : Stream Place) : Stream Place :=
  .after (do
    let all ← rows.toArray
    let keyed := all.map fun p => (columns.map fun (k, _) => p.values[k]?.getD .null, p)
    let keys : List (SortKey Nat) := columns.map fun (k, collation) => { term := k, collation }
    return (sortRows (← get).encoding keys keyed).map (·.2)) .ofArray

def accessRows (runner : Runner) (env : Env) (i : Nat) (t : Table) (start : Nat) (places : Array Place) :
    Nat → Access → Stream Place
  | 0, _ => tableRows i t
  | fuel + 1, access =>
    match access with
    | .kept isReversed => if isReversed then reversed (tableRows i t) else tableRows i t
    | .index x isReversed => indexRows i t x isReversed
    | .sorted columns => sortedPlaces columns (tableRows i t)
    | .parts items =>
      let each := items.map fun (conditions, access) =>
        (accessRows runner env i t start places fuel access).filterM fun p =>
          allHold runner env conditions (places.setIfInBounds start p)
      (Stream.concat each).scan (∅ : Std.HashSet ByteArray) fun seen p =>
        let key := Value.rowKey [] (match p.number with
          | some n => [.integer n]
          | none => t.keyColumns.map fun k => p.values[k]?.getD .null)
        return if seen.contains key then (seen, none) else (seen.insert key, some p)

def sourceRows (item : Joined) (places : Array Place) : Stream Place :=
  match item.source with
  | .table i t args _ =>
    match t.keeping? with
    | some kept =>
      .after (args.mapM fun (k, a) => do return (k, ← valueOf runner (env.inside { places }) a)) fun given =>
        keptRows i t kept given
    | none => accessRows runner env i t item.start places termDepth item.access
  | .rows q _ =>
    let rows : Stream Place := (runner.rows env q).map fun row => { values := row.map (·.value) }
    match item.access with
    | .sorted columns => sortedPlaces columns rows
    | .kept true => reversed rows
    | _ => rows
  | .recent n => match env.recent.find? (·.1 == n) with
    | some (_, values) => .one { values }
    | none => .empty
  | .supplied name args =>
    .after (args.mapM fun a => a.mapM (valueOf runner (env.inside { places }))) (runner.supplied name)
  | .group _ => .empty

def isLateral (item : Joined) : Bool :=
  match item.source with
  | .supplied _ args => args.any (·.isSome)
  | .table _ t args _ =>
    (t.isVirtual && !args.isEmpty) ||
      (match item.access with
        | .parts _ => true
        | _ => false)
  | _ => false

structure Link where
  place : Nat
  column : Nat
  how : Comparison
  term : Term

def link? (bound : List Nat) (start width : Nat) (t : Term) : Option Link :=
  let made (p : Position) (k : Nat) (how : Comparison) (b : Term) : Option Link :=
    if p.level = 0 && start ≤ p.place && p.place < start + width && (placesOf b).all bound.contains &&
      isReliable termDepth b
    then some ⟨p.place - start, k, how, b⟩ else none
  match t with
  | .compare .eq how (.column p k) (.column q j) => made p k how (.column q j) <|> made q j how (.column p k)
  | .compare .eq how (.column p k) b => made p k how b
  | .compare .eq how a (.column p k) => made p k how a
  | _ => none

abbrev LinkTable := Std.HashMap ByteArray (Array (Nat × Array Place))

def Link.table (l : Link) (all : Array (Array Place)) : LinkTable :=
  (all.mapIdx fun i ps => (i, ps)).foldl (fun (table : LinkTable) entry =>
    let key := l.how.key (((entry.2[l.place]?).bind fun p => p.values[l.column]?).getD .null)
    table.alter key fun found => some ((found.getD #[]).push entry)) ∅

def linkedRows (l : Link) (table : LinkTable) (places : Array Place) : Stream (Nat × Array Place) :=
  .after (do
    let v ← valueOf runner (env.inside { places }) l.term
    return if v.isNull then #[] else table.getD (l.how.key v) #[]) .ofArray

def joinAll (runner : Runner) (env : Env) (size : Nat) : Nat → List Nat → List Joined → List Term →
    Stream (Array Place) →
    Stream (Array Place)
  | 0, _, _, _, rows => rows
  | fuel + 1, bound, items, conditions, rows =>
    match items with
    | [] => if conditions.isEmpty then rows else rows.filterM (allHold runner env conditions)
    | item :: rest =>
      let start := item.start
      let width := item.width
      let stop := start + width
      let fits := allHold runner env item.conditions
      let j := item.join
      let isOpen := rest.any fun i => i.join.isRight
      let reached := List.range' start width ++ bound
      let (now, later) := conditions.partition fun t => !isOpen && (placesOf t).all reached.contains
      let numbered (all : Array (Array Place)) : Stream (Nat × Array Place) := .ofArray (all.mapIdx fun i ps => (i, ps))
      let blank : Array Place := Array.replicate size {}
      let lone (all : Array (Array Place)) (matched : Std.HashSet Nat) : Stream (Array Place) :=
        ((numbered all).filterM fun (n, _) => return !matched.contains n).map fun (_, ps) => setPlaces start ps blank
      let candidates : Stream (Array Place) :=
        match item.source with
        | .group inner =>
          (joinAll runner env size fuel [] inner [] (.one blank)).map fun ps => ps.extract start stop
        | _ => (sourceRows runner env item blank).map fun p => #[p]
      let joined : Stream (Array Place) :=
        if isLateral item then
          joinRows j start width rows (fun places => (sourceRows runner env item places).map fun p => (0, #[p])) fits
            fun _ => .empty
        else if bound.isEmpty && !j.isRight then
          joinRows j start width rows (fun _ => candidates.map fun ps => (0, ps)) fits fun _ => .empty
        else .after candidates.toArray fun all =>
          let links := item.conditions ++ if j.isLeft || j.isRight then [] else now
          match if all.isEmpty then none else links.findSome? (link? bound start width) with
          | some l =>
            let table := l.table all
            joinRows j start width rows (linkedRows runner env l table) fits (lone all)
          | none => joinRows j start width rows (fun _ => numbered all) fits (lone all)
      let filtered := if now.isEmpty then joined else joined.filterM (allHold runner env now)
      joinAll runner env size fuel reached rest later filtered

def selectedPlaces (s : Select) : Stream (Array Place) :=
  let size := (s.sources.map fun i => i.start + i.width).foldl max 0
  let (steady, others) := s.where_.partition isSteady
  let rows := joinAll runner env size (s.sources.length + termDepth)
    [] s.sources others (.one (Array.replicate size {}))
  if steady.isEmpty then rows
  else .after (allHold runner env steady #[]) fun isOn => if isOn then rows else .empty

end Work

end FormCompiler.Database
