import FormCompiler.Database.Query.Term

namespace FormCompiler.Database

namespace TermOf

def rewrite {π : Type} (f : TermOf π → Option (TermOf π)) : Nat → TermOf π → TermOf π
  | 0, t => t
  | fuel + 1, t =>
    match f t with
    | some r => r
    | none =>
      let go := rewrite f fuel
      match t with
      | .outside n a => .outside n (go a)
      | .inside n a => .inside n (go a)
      | .unary op a => .unary op (go a)
      | .binary op a b => .binary op (go a) (go b)
      | .compare op how a b => .compare op how (go a) (go b)
      | .compareRows op how a b => .compareRows op how (go a) (go b)
      | .isTruth negated word a => .isTruth negated word (go a)
      | .inList negated how a items => .inList negated how (go a) (items.map go)
      | .inQuery negated how a e q => .inQuery negated how (go a) e q
      | .cast a affinity => .cast (go a) affinity
      | .call name collation args => .call name collation (args.map go)
      | .vector items => .vector (items.map go)
      | .case base branches otherwise =>
        .case (base.map go) (branches.map fun (h, c, r) => (h, go c, go r)) (otherwise.map go)
      | t => t

def atPlace {π : Type} (place : Nat) (t : TermOf π) : TermOf π :=
  t.rewrite (fun
    | .column p i => if p.level = 0 then some (.column ⟨0, place⟩ i) else none
    | .rowNumber p => if p.level = 0 then some (.rowNumber ⟨0, place⟩) else none
    | _ => none) 1000

def maxDepth : Nat := 1000

def moved {π : Type} (n : Nat) (t : TermOf π) : TermOf π :=
  t.rewrite (fun
    | .column p i => if p.level = 0 then some (.column ⟨0, n + p.place⟩ i) else none
    | .rowNumber p => if p.level = 0 then some (.rowNumber ⟨0, n + p.place⟩) else none
    | .outside d a => some (.outside d a)
    | _ => none) maxDepth

def withColumns {π : Type} (place : Nat) (terms : List (TermOf π)) (t : TermOf π) : TermOf π :=
  t.rewrite (fun
    | .column p i => if p = ⟨0, place⟩ then terms[i]? else none
    | .outside d a => some (.outside d a)
    | _ => none) maxDepth

def asksInside {π : Type} (isMeant : Nat → Bool) : Nat → TermOf π → Bool
  | 0, _ => true
  | fuel + 1, t =>
    let asks (e : Enclosed) : Bool := e.uses.any fun p => p.level == 0 && isMeant p.place
    match t with
    | .query _ e _ | .exists_ e _ => asks e
    | .inQuery _ _ a e _ => asks e || asksInside isMeant fuel a
    | .inside .. => true
    | t => t.children.any (asksInside isMeant fuel)

end TermOf

variable {α β : Type} (f : α → β)

def FrameBound.map : FrameBound α → FrameBound β
  | .first => .first
  | .before e => .before (f e)
  | .current => .current
  | .after e => .after (f e)
  | .last => .last

def SortKey.map (k : SortKey α) : SortKey β :=
  { term := f k.term, collation := k.collation, isDescending := k.isDescending, nullsFirst := k.nullsFirst }

def AggregateCall.map (a : AggregateCall α) : AggregateCall β :=
  { name := a.name, shown := a.shown, args := a.args.map f, isDistinct := a.isDistinct, order := a.order.map (·.map f)
    filter := a.filter.map f, collation := a.collation }

def WindowCall.map (w : WindowCall α) : WindowCall β :=
  { function := w.function.map f, partition := w.partition.map (·.map f), order := w.order.map (·.map f)
    frame := {
      unit := w.frame.unit
      start := w.frame.start.map f
      stop := w.frame.stop.map f
      exclusion := w.frame.exclusion } }

def JoinedOf.changed {τ π : Type} (n : Nat) (f : τ → τ) : Nat → JoinedOf τ π → JoinedOf τ π
  | 0, item => item
  | fuel + 1, .mk source join start widths conditions access =>
    let source := match source with
      | .table i t args hint => .table i t (args.map fun (k, a) => (k, f a)) hint
      | .supplied name args => .supplied name (args.map (·.map f))
      | .group items => .group (items.map (changed n f fuel))
      | s => s
    .mk source join (n + start) widths (conditions.map f) access

def JoinedOf.terms {τ π : Type} : Nat → JoinedOf τ π → List τ
  | 0, _ => []
  | fuel + 1, .mk source _ _ _ conditions _ =>
    conditions ++ match source with
      | .table _ _ args _ => args.map (·.2)
      | .supplied _ args => args.filterMap id
      | .group items => items.flatMap (terms fuel)
      | _ => []

namespace SelectOf

variable {τ π : Type}

def changed (f : τ → τ) (s : SelectOf τ π) : SelectOf τ π :=
  { s with
    sources := s.sources.map (JoinedOf.changed 0 f TermOf.maxDepth)
    where_ := s.where_.map f
    group := s.group.map fun keys => keys.map (·.map f)
    aggregates := s.aggregates.map (·.map f)
    having := s.having.map f
    windows := s.windows.map (·.map f)
    columns := s.columns.map f
    order := s.order.map (·.map f) }

def terms (s : SelectOf τ π) : List τ :=
  let keys (ks : List (SortKey τ)) : List τ := ks.map (·.term)
  let call (a : AggregateCall τ) : List τ := a.args ++ a.filter.toList ++ keys a.order
  let bound : FrameBound τ → List τ
    | .before e | .after e => [e]
    | _ => []
  s.sources.flatMap (JoinedOf.terms TermOf.maxDepth) ++ s.where_ ++ keys (s.group.getD []) ++ s.aggregates.flatMap call
    ++ s.having.toList
    ++ s.windows.flatMap (fun w => call w.function ++ keys w.partition ++ keys w.order ++ bound w.frame.start ++
      bound w.frame.stop)
    ++ s.columns ++ keys s.order

end SelectOf

end FormCompiler.Database
