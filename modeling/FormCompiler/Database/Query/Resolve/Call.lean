import FormCompiler.Database.Query.Naming

namespace FormCompiler.Database

abbrev Look := Allowance → Expr → Resolver Typed

namespace Expr

def isLiteral (e : Expr) : Bool :=
  !e.any (fun
    | .column .. | .call .. | .parameter _ | .raise .. | .now _ => true
    | e => e.hasQuery) maxDepth

end Expr

namespace Resolver

variable (look : Look) (may : Allowance)

def sorting : Sorting → Resolver (SortKey Term)
  | .mk e down nulls => do sortKey (← look may e) down nulls

def function (may : Allowance) (name : Name) (count : Nat) (isWindow hasFilter hasOrder : Bool) :
    Resolver Function := do
  match Function.find name.text count with
  | .unknown => complain ("no such function: " ++ name.text)
  | .wrongCount => complain ("wrong number of arguments to function " ++ name.text ++ "()")
  | .found f =>
    if f.kind = .scalar then
      if isWindow then complain (name.text ++ "() may not be used as a window function")
      if hasFilter then complain ("FILTER may not be used with non-aggregate " ++ name.text ++ "()")
      if hasOrder then complain ("ORDER BY may not be used with non-aggregate " ++ name.text ++ "()")
    else if !may.aggregates || (f.kind = .window && !isWindow) || (isWindow && !may.windows) then
      let kind := if f.kind = .window || isWindow then "window" else "aggregate"
      complain ("misuse of " ++ kind ++ " function " ++ name.text ++ "()")
    return f

def checkChance (name : Name) (args : List Expr) : Resolver Unit := do
  match args with
  | [_, p] =>
    let fits : Bool := match p with
      | .float text => Value.ofDecimal text ≤ 1
      | _ => false
    if !fits then complain ("second argument to " ++ name.text ++ "() must be a constant between 0.0 and 1.0")
  | _ => return

def scalar (name : String) (args : List Typed) : Resolver Typed := do
  match name, args with
  | "likely", a :: _ | "unlikely", a :: _ | "likelihood", a :: _ => return a
  | name, args =>
    let comparing := ["min", "max", "nullif"].contains name
    let collating := if comparing then args.findSome? (·.collating) else none
    checkCollating collating
    let collation := (collating.bind fun c => Collation.ofName? c.name).getD .binary
    return { Typed.ofParts (.call name collation (args.map (·.term))) args with kinds := .any }

def depthOf (before : Names) : Resolver Nat := do
  let s ← get
  let height := s.drafts.length
  let fresh := s.uses.take (s.uses.length - before.uses.length)
  let isOwn (p : Position) : Bool :=
    p.level < height && ((s.drafts[height - 1 - p.level]?.bind (·.level.origins[p.place]?)).all fun o => !o.isRemote)
  return (fresh.filter isOwn).foldl (fun (depth : Nat) p => min depth (height - 1 - p.level)) height
    |> fun depth => if depth = height then 0 else depth

def aggregate (before : Names) (name shown : String) (isDistinct : Bool) (args : List Typed)
    (order : List (SortKey Term))
    (filter : Option Typed) : Resolver Typed := do
  if isDistinct && args.length != 1 then later "DISTINCT aggregates must have exactly one argument"
  let depth ← depthOf before
  let move (t : Term) : Term := if depth = 0 then t else .inside depth t
  let collating := args.head?.bind (·.collating)
  if isDistinct || name == "min" || name == "max" then checkCollating collating
  let call : AggregateCall Term :=
    { name, shown, isDistinct, args := args.map fun a => move a.term
      order := order.map fun k => { k with term := move k.term }
      filter := filter.map fun f => move f.term
      collation := (collating.bind fun c => Collation.ofName? c.name).getD .binary }
  let index := ((← get).drafts[depth]?.map (·.aggregates.size)).getD 0
  modify fun s => { s with drafts := s.drafts.modify depth fun d => { d with aggregates := d.aggregates.push call } }
  useSlot depth
  return { term := .slot depth index, collating := Typed.writtenIn args, kinds := .any, hasAggregate := depth = 0 }

structure WindowParts where
  partition : List Expr := []
  order : List Sorting := []
  frame : Option (WindowFrame Expr) := none

def windowNamed (named : List (Name × Window)) (n : Name) : Resolver Window := do
  match named.find? fun w => Name.same w.1.text n.text with
  | some w => return w.2
  | none => complain ("no such window: " ++ n.text)

def windowParts (named : List (Name × Window)) : Nat → Window → Resolver WindowParts
  | 0, _ => return {}
  | fuel + 1, w => do
    match w with
    | .named n => windowParts named fuel (← windowNamed named n)
    | .own none partition order frame => return { partition, order, frame }
    | .own (some base) partition order frame =>
      let b ← windowParts (named.takeWhile fun w => !Name.same w.1.text base.text) fuel (← windowNamed named base)
      let wrong := if !partition.isEmpty then some "PARTITION clause"
        else if !b.order.isEmpty && !order.isEmpty then some "ORDER BY clause"
        else if b.frame.isSome then some "frame specification"
        else none
      match wrong with
      | some what => complain ("cannot override " ++ what ++ " of window: " ++ base.text)
      | none => return { partition := b.partition, order := if b.order.isEmpty then order else b.order, frame }

def bound (look : Look) : FrameBound Expr → Resolver (FrameBound Term)
  | .first => return .first
  | .current => return .current
  | .last => return .last
  | .before e => do if e.isLiteral then return .before (← look .plain e).term else return .before (.value .null)
  | .after e => do if e.isLiteral then return .after (← look .plain e).term else return .after (.value .null)

def isDistance {ε : Type} : FrameBound ε → Bool
  | .before _ | .after _ => true
  | _ => false

def ownFrame? (name : String) : Option (WindowFrame Term) :=
  match name with
  | "row_number" | "lag" => some { unit := .rows, start := .first, stop := .current }
  | "rank" | "dense_rank" => some { unit := .range, start := .first, stop := .current }
  | "percent_rank" => some { unit := .groups, start := .current, stop := .last }
  | "cume_dist" => some { unit := .groups, start := .after (.value (.integer 1)), stop := .last }
  | "ntile" => some { unit := .rows, start := .current, stop := .last }
  | "lead" => some { unit := .rows, start := .first, stop := .last }
  | _ => none

def windowed (f : Function) (name : String) (args : List Typed) (filter : Option Expr)
    (w : Window) : Resolver Typed := do
  let parts ← windowParts (← draft).named Expr.maxDepth w
  match parts.frame with
  | some frame =>
    if frame.unit = .range && (isDistance frame.start || isDistance frame.stop) && parts.order.length != 1 then
      complain "RANGE with offset PRECEDING/FOLLOWING requires one ORDER BY expression"
  | none => pure ()
  if f.kind = .window && filter.isSome then
    complain "FILTER clause may only be used with aggregate window functions"
  let partition ← parts.partition.mapM fun e => do sortKey (← look may e) false none
  let order ← parts.order.mapM (sorting look may)
  let condition ← filter.mapM (look may)
  let frame ← match ownFrame? name, parts.frame with
    | some own, _ => pure own
    | none, some f => do
      pure { unit := f.unit, start := ← bound look f.start, stop := ← bound look f.stop, exclusion := f.exclusion }
    | none, none => pure {}
  let collating := args.head?.bind (·.collating)
  let call : WindowCall Term :=
    { function := { name, args := args.map (·.term), filter := condition.map (·.term)
                    collation := (collating.bind fun c => Collation.ofName? c.name).getD .binary }
      partition, order, frame }
  let index := (← draft).windows.size
  onDraft fun d => { d with windows := d.windows.push call }
  return { term := .windowed index, collating := Typed.writtenIn args, kinds := .any, hasWindow := true
           hasAggregate := args.any (·.hasAggregate) }

def call (n : Name) (isDistinct : Bool) (args : List Expr) (order : List Sorting)
    (filter : Option Expr) (window : Option Window) : Resolver Typed := do
  if window.isSome && isDistinct then complain "DISTINCT is not supported for window functions"
  let hasOrder := !order.isEmpty && !args.isEmpty
  if window.isSome && hasOrder then complain ("ORDER BY may not be used with non-aggregate " ++ n.text ++ "()")
  let f ← function may n args.length window.isSome filter.isSome hasOrder
  let name := n.text.map Char.toLower
  if name == "likelihood" then checkChance n args
  let before ← get
  match f.kind, window with
  | .scalar, _ => scalar name (← args.mapM (look may))
  | _, some w =>
    let inner : Allowance := { may with windows := false }
    windowed look inner f name (← args.mapM (look inner)) filter w
  | _, none =>
    let typed ← args.mapM (look .plain)
    let keys ← if hasOrder then order.mapM (sorting look .plain) else pure []
    let condition ← filter.mapM (look .plain)
    aggregate before name n.text isDistinct typed keys condition

end Resolver

end FormCompiler.Database
