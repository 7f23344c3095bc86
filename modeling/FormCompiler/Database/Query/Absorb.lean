import FormCompiler.Database.Query.Planner.Choose

namespace FormCompiler.Database

namespace Select

def minds (s : Select) : Bool :=
  !s.windows.isEmpty || s.aggregates.any fun a => !(["count", "min", "max"].contains a.name)

def isInvolved : Nat → Term → Bool
  | 0, _ => false
  | fuel + 1, t =>
    match t with
    | .call .. | .query .. | .exists_ .. | .inQuery .. | .slot .. => true
    | t => t.children.any (isInvolved fuel)

def ignoresOrder (s inner : Select) : Bool :=
  !inner.order.isEmpty && (!s.order.isEmpty || 1 < s.sources.length) && inner.limit.isNone && inner.group.isNone
    && inner.windows.isEmpty && !s.minds

def isOuter (item : Joined) : Bool := item.join.isLeft || item.join.isRight

def isApart (item : Joined) : Bool := isOuter item || item.join.isCross

def mayAbsorb (isPart : Bool) (s : Select) (i : Nat) (item : Joined) (inner : Select) : Bool :=
  let isGrouped := s.group.isSome
  let isLast (j : Joined) : Bool := match j.source with
    | .table _ t _ _ => !t.isVirtual
    | .rows .. => true
    | _ => false
  let isPlain : Term → Bool
    | .column .. | .rowNumber .. => true
    | _ => false
  inner.group.isNone && inner.windows.isEmpty && !inner.isDistinct && !inner.sources.isEmpty && inner.offset.isNone
    && !inner.sources.any (fun j => j.join.isRight)
    && (inner.limit.isNone || (s.limit.isNone && !isPart && s.sources.length == 1 && !isGrouped && s.where_.isEmpty
      && !s.isDistinct && s.order.isEmpty && s.windows.isEmpty))
    && (inner.order.isEmpty || (s.order.isEmpty && !isGrouped && s.windows.isEmpty
      && !(i == 0 && s.columns.any (isInvolved TermOf.maxDepth) && (s.sources[1]?).all isApart)))
    && (!item.join.isLeft || (inner.sources.length == 1 && inner.sources.all isLast && !isGrouped && !s.isDistinct
      && inner.columns.all isPlain))
    && !inner.terms.any (TermOf.asksInside (fun _ => true) TermOf.maxDepth)
    && !s.terms.any (TermOf.asksInside (fun k => k == item.start) TermOf.maxDepth)

end Select

namespace Loose

def absorb (isPart : Bool) (l : Loose) (place : Nat) (inner : Loose) : Loose :=
  let s := l.select
  match s.sources.zipIdx.find? fun (j, _) => j.start == place with
  | none => l
  | some (item, i) =>
    if !s.mayAbsorb isPart i item inner.select then l
    else
      let n := l.origins.size
      let q := inner.select
      let move (t : Term) : Term := t.moved n
      let s := s.changed (TermOf.withColumns place (q.columns.map move))
      let conditions := q.where_.map move
      let items := q.sources.map (JoinedOf.changed n move TermOf.maxDepth)
      let items := items.modify 0 fun
        | .mk source _ start widths own access =>
          let asked := ((s.sources[i]?).map (·.conditions)).getD []
          .mk source item.join start widths (own ++ if item.join.isLeft then asked ++ conditions else []) access
      { select := { s with
          sources := s.sources.take i ++ items ++ s.sources.drop (i + 1)
          where_ := (if item.join.isLeft then [] else conditions) ++ s.where_
          order := if q.order.isEmpty then s.order else q.order.map (·.map move)
          limit := s.limit <|> q.limit }
        origins := l.origins ++ inner.origins
        reads := l.reads.filter (fun r => r.1 != place) ++ inner.reads.map fun r => (n + r.1, r.2)
        divisible := l.divisible ++ inner.divisible.map fun (p, arms) => (n + p, arms) }

def absorbAll (isPart : Bool) (l : Loose) (inner : List (Nat × Loose)) : Loose :=
  if l.select.sources.any fun j => j.join.isRight then l
  else
    let (sources, where_) := Planner.simplified l.select.sources l.select.where_
    inner.foldl (fun l (place, q) => l.absorb isPart place q) { l with select := { l.select with sources, where_ } }

def mayDivide (l : Loose) (i : Nat) (item : Joined) (arms : List Loose) : Bool :=
  let s := l.select
  s.group.isNone && !s.isDistinct && s.windows.isEmpty && !item.join.isLeft && !s.sources.any (fun j => j.join.isRight)
    && s.order.all (fun k => s.columns.any (k.term.same TermOf.maxDepth))
    && arms.all fun a => s.mayAbsorb true i item a.select

def divided : Nat → Loose → List Loose
  | 0, l => [l]
  | fuel + 1, l =>
    let found := l.select.sources.zipIdx.findSome? fun (item, i) =>
      (l.divisible.find? fun d => d.1 == item.start).filter fun d => l.mayDivide i item d.2
    match found with
    | none => [l]
    | some (place, arms) =>
      let rest := { l with divisible := l.divisible.filter fun d => d.1 != place }
      arms.flatMap fun a => (rest.absorb true place a).divided fuel

end Loose

end FormCompiler.Database
