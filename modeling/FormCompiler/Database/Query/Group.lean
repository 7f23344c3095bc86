import FormCompiler.Database.Query.Evaluate

namespace FormCompiler.Database

structure Accumulator where
  tally : Tally
  seen : Std.HashSet ByteArray := {}
  waiting : Array (List Value × List Json.Marked) := #[]

structure Group where
  accumulators : List Accumulator
  places : Array Place := #[]
  isEmpty : Bool := true
  isPassedOver : Bool := false

namespace Group

def start (calls : List (AggregateCall Term)) : Group where
  accumulators := calls.map fun c => { tally := .start c.name }

end Group

namespace AggregateCall

def isExtreme (c : AggregateCall Term) : Bool := (c.name == "min" || c.name == "max") && c.order.isEmpty

end AggregateCall

namespace Work

variable (runner : Runner) (env : Env)

def accumulate (c : AggregateCall Term) (a : Accumulator) : Work (Accumulator × Option Bool) := do
  let applies ← match c.filter with
    | some t => holds runner env t
    | none => pure true
  if !applies then return (a, none)
  let args ← c.args.mapM (eval runner termDepth env)
  let first := (args.head?.map (·.value)).getD .null
  let key := first.keyBytes c.collation
  if c.isDistinct && a.seen.contains key then return (a, none)
  let a := if c.isDistinct then { a with seen := a.seen.insert key } else a
  if !c.order.isEmpty then
    let keys ← c.order.mapM fun k => valueOf runner env k.term
    return ({ a with waiting := a.waiting.push (keys, args) }, none)
  let order := Value.order c.collation (← get).encoding
  let isPassedOver := if c.isExtreme then some !(a.tally.improves c.name order first) else none
  return ({ a with tally := ← ofText (a.tally.step c.name order args) }, isPassedOver)

def addToGroup (calls : List (AggregateCall Term)) (g : Group) (places : Array Place) : Work Group := do
  let env := env.inside { places }
  let stepped ← (calls.zip g.accumulators).mapM fun (c, a) => accumulate runner env c a
  let passed := (stepped.filterMap (·.2)).getLast?
  let isPassedOver := if calls.any AggregateCall.isExtreme then passed.getD g.isPassedOver else !g.isEmpty
  return { accumulators := stepped.map (·.1), isEmpty := false, isPassedOver
           places := if isPassedOver && !g.isEmpty then g.places else places }

def finishCall (c : AggregateCall Term) (a : Accumulator) : Work Json.Marked := do
  let e := (← get).encoding
  let order := Value.order c.collation e
  let tally ← (sortRows e c.order a.waiting).foldlM (fun (t : Tally) (_, args) =>
    ofText (t.step c.name order args)) a.tally
  ofText (tally.finish c.name)

def finishGroup (calls : List (AggregateCall Term)) (g : Group) : Work Frame := do
  let slots ← (calls.zip g.accumulators).mapM fun (c, a) => finishCall c a
  return { places := g.places, slots := slots.toArray }

def wholeGroup (calls : List (AggregateCall Term)) (rows : Stream (Array Place)) : Stream Frame :=
  .after (do
    let g ← rows.fold (fun (g : Group) places => return .more (← addToGroup runner env calls g places)) (.start calls)
    finishGroup calls g.state) .one

def sortedByKeys (keys : List (SortKey Term)) (inGroups : Bool) (rows : Stream (Array Place)) :
    Work (Array (List Value × Array Place)) := do
  let keyed ← (rows.mapM fun places => do
    let env := env.inside { places }
    return (← keys.mapM fun k => valueOf runner env k.term, places)).toArray
  if inGroups then return keyed
  return sortRows (← get).encoding keys keyed

def groupsOf (e : Encoding) (keys : List (SortKey Term)) (rows : Array (List Value × Array Place)) :
    Array (Array (Array Place)) :=
  let (groups, current, _) := rows.foldl (fun (groups, current, last) row =>
    if last.any fun k => orderRows e keys k row.1 == .eq then (groups, current.push row.2, last)
    else (if current.isEmpty then groups else groups.push current, #[row.2], some row.1)) (#[], #[], none)
  if current.isEmpty then groups else groups.push current

/-- Rows in groups, which have the same keys. They may come with those of a group together. Without keys there
is one group, even if it has no rows. -/
def grouped (keys : List (SortKey Term)) (inGroups : Bool) (calls : List (AggregateCall Term))
    (rows : Stream (Array Place)) : Stream Frame :=
  if keys.isEmpty then wholeGroup runner env calls rows
  else
    .after (do
      let sorted ← sortedByKeys runner env keys inGroups rows
      return groupsOf (← get).encoding keys sorted) fun groups =>
      (Stream.ofArray groups).mapM fun members => do
        finishGroup calls (← members.foldlM (addToGroup runner env calls) (.start calls))

end Work

end FormCompiler.Database
