import FormCompiler.Database.Query.Absorb
import FormCompiler.Database.Query.Resolve.Source

namespace FormCompiler.Database

structure Part where
  select : Select
  others : List Select := []
  loose : Option Loose := none
  wanted : List Wanted := []
  typed : List Typed := []
  draft : Draft := {}
  hasWindows : Bool := false

namespace Part

def isAggregate (p : Part) : Bool := p.select.group.isSome

def row? (p : Part) : Option (List Term) :=
  let s := p.select
  if s.sources.isEmpty && s.where_.isEmpty && s.group.isNone && s.windows.isEmpty && s.limit.isNone && s.offset.isNone
    && s.order.isEmpty && !s.isDistinct
  then some s.columns else none

end Part

namespace Core

def order : Core → List Sorting
  | .select _ _ _ _ _ _ _ order _ _ => order
  | .values _ => []

def limit : Core → Option Expr
  | .select _ _ _ _ _ _ _ _ limit _ => limit
  | .values _ => none

def offset : Core → Option Expr
  | .select _ _ _ _ _ _ _ _ _ offset => offset
  | .values _ => none

def mentions (name : String) (c : Core) : Nat :=
  (c.relations.filter fun
    | .table _ n _ _ _ _ => n.database.isNone && Name.same n.name.text name
    | _ => false).length

end Core

namespace Resolver

def bounds (look : Look) (c : Core) : Resolver (Option Term × Option Term) :=
  apart 0 do
    let limit ← c.limit.mapM (look .plain)
    let offset ← c.offset.mapM (look .plain)
    return (limit.map (·.term), offset.map (·.term))

def watched {α : Type} (x : Resolver α) : Resolver (α × Option String) := do
  let before := (← draft).aggregates.size
  let a ← x
  return (a, ((← draft).aggregates[before]?).map (·.shown))

def planned (l : Loose) : Resolver Select := do
  let isInside := (← get).drafts.any fun d => !d.level.origins.isEmpty
  match ← lift (Work.planned l.origins l.reads (if isInside then 48 else 0) false l.select) with
  | some s => return s
  | none =>
    later "no query solution"
    return l.select

def absorbing (isLone : Bool) (l : Loose) (inner : List (Nat × List Loose)) : Resolver Loose := do
  let lone := inner.filterMap fun (place, arms) => match arms with
    | [q] => some (place, q)
    | _ => none
  let (l, lone) ← lone.foldlM (fun (found : Loose × List (Nat × Loose)) (place, q) => do
    let (l, done) := found
    if !l.select.ignoresOrder q.select then return (l, done ++ [(place, q)])
    let q := { q with select := { q.select with order := [] } }
    let s ← planned q
    let sources := l.select.sources.map fun j =>
      if j.start = place then
        match j.source with
        | .rows _ e => j.replaced (.rows (.select s) e)
        | _ => j
      else j
    return ({ l with select := { l.select with sources } }, done ++ [(place, q)])) (l, [])
  let l := l.absorbAll (!isLone) lone
  return { l with divisible := l.divisible ++ inner.filter fun (_, arms) => 1 < arms.length }

def arms (ls : List Loose) : Resolver (List Select) :=
  ls.mapM fun l => do return { ← planned l with order := [], limit := none, offset := none }

def part (inside : LookIn) (repeated : LookAgain) (ctx : Context)
    (self : Option Recursion) (isLone : Bool) (c : Core) : Resolver Part := do
  let look : Look := expression (inside ctx) ctx.inTrigger
  match c with
  | .values rows =>
    let row := rows.headD []
    let wanted := row.map fun e => Wanted.expr e none ""
    let (typed, d) ← within {} (wanted.mapM (Resolver.wanted look {}))
    let isGrouped := !d.aggregates.isEmpty
    return { wanted, typed, draft := d, hasWindows := !d.windows.isEmpty
             select := { columns := typed.map (·.term), aggregates := d.aggregates.toList, windows := d.windows.toList
                         group := if isGrouped then some [] else none } }
  | .select isDistinct columns relations where_ group having windows order _ _ =>
    let (limit, offset) ← bounds look c
    let raws ← sources inside repeated ctx Expr.maxDepth self relations
    let level : Level := { origins := (raws.flatMap Raw.origins).toArray }
    let wanted ← lift (Work.ofText (level.wanted columns))
    let (result, d) ← within { level, named := windows } do
      let typed ← wanted.mapM (Resolver.wanted look {})
      let isAggregate := !group.isEmpty || !(← draft).aggregates.isEmpty
      let aliases := (wanted.zip typed).filterMap fun (w, t) => w.asName?.map (·, t)
      onDraft fun d => { d with level := { d.level with aliases } }
      let may : Allowance := { aggregates := isAggregate, windows := false }
      let having ← having.mapM fun e => do
        if !isAggregate then complain "HAVING clause on a non-aggregate query"
        look may e
      let ((conditions, items, rest), wrong) ← watched do
        let conditions ← ((where_.map (Expr.conjuncts Expr.maxDepth)).getD []).mapM (look may)
        let (items, rest) ← finish look may Expr.maxDepth 0 raws
        pure (conditions, items, rest)
      match wrong with
      | some name => later ("misuse of aggregate: " ++ name ++ "()")
      | none => pure ()
      let (keys, grouping) ← apart 1 do
        let (keys, wrong) ← watched (if !isLone then pure [] else order.zipIdx.mapM fun (.mk e down nulls, i) => do
          sortKey (← key look {} "ORDER" wanted typed i e) down nulls)
        match if isAggregate then none else wrong with
        | some name => later ("misuse of aggregate: " ++ name ++ "()")
        | none => pure ()
        let grouping ← group.zipIdx.mapM fun (e, i) => do
          let before := (← draft).aggregates.size
          let t ← key look { windows := false } "GROUP" wanted typed i e
          if t.hasAggregate || before < (← draft).aggregates.size then
            complain "aggregate functions are not allowed in the GROUP BY clause"
          sortKey t false none
        pure (keys, grouping)
      for t in typed do
        if isDistinct then checkCollating t.collating
      let grouping := if grouping.length = keys.length
        then (grouping.zip keys).map fun (g, k) => { g with isDescending := k.isDescending } else grouping
      pure (typed, isAggregate, ({
        sources := items
        where_ := conditions.map (·.term) ++ rest
        group := if isAggregate then some grouping else none
        having := having.map (·.term)
        columns := typed.map (·.term)
        isDistinct
        collations := typed.map (·.collation)
        order := keys
        limit := if isLone then limit else none
        offset := if isLone then offset else none } : Select))
    let (typed, _, select) := result
    let select := { select with aggregates := d.aggregates.toList, windows := d.windows.toList }
    let loose ← absorbing isLone { select, origins := d.level.origins, reads := d.reads }
      (Raw.armsIn Expr.maxDepth 0 raws)
    let (select, others) ← match if self.isSome then [] else loose.divided Expr.maxDepth with
      | first :: second :: rest => do
        let selects ← arms (first :: second :: rest)
        pure (selects.headD {}, selects.drop 1)
      | _ => do pure (← planned loose, [])
    return { wanted, typed, draft := d, hasWindows := !d.windows.isEmpty, select, others, loose := some loose }

def checkWidths (op : Option Compound) (isValues : Bool) (left right : Nat) : Resolver Unit := do
  if left != right then
    if isValues then complain "all VALUES must have the same number of terms"
    complain ("SELECTs to the left and right of " ++ op.elim "" Reader.Compound.name ++
      " do not have the same number of result columns")

def attempt {α : Type} (x : Resolver α) : Resolver (Option α) := do
  let s ← get
  match ← lift (Work.attempt (x.run s)) with
  | .ok (a, t) =>
    set { t with late := s.late }
    return some a
  | .error _ => return none

def compoundKey (inside : LookIn) (ctx : Context) (parts : List Part) (i : Nat) : Sorting → Resolver (SortKey Nat)
  | .mk e isDescending nullsFirst => do
    let inner := e.withoutCollation
    let width := (parts.headD { select := {} }).wanted.length
    let found : Option Nat ← match position? inner with
      | some n => do pure (some (← checkPosition "ORDER" i n width))
      | none => parts.foldlM (fun (found : Option Nat) p => do
        if found.isSome then return found
        match namedColumn? p.wanted inner with
        | some k => return some k
        | none =>
          let look : Look := expression (inside ctx) ctx.inTrigger
          let t ← attempt (apart 0 do return (← within p.draft (look {} inner)).1)
          return t.bind fun t => p.typed.findIdx? fun u => t.term.same Expr.maxDepth u.term) none
    match found with
    | none => complain (ordinal (i + 1) ++ " ORDER BY term does not match any column in the result set")
    | some k =>
      let collation := match e.collation? with
        | some n => (Collation.ofName? n.text).getD .binary
        | none => (compoundCollations (parts.map (·.typed))).getD k .binary
      match e.collation? with
      | some n => checkCollating (some ⟨n.text, true⟩)
      | none => pure ()
      return { term := k, collation, isDescending, nullsFirst }

def resolved (plan : Plan) (arms : List Loose) (parts : List Part) : Resolved :=
  let first := parts.headD { select := {} }
  let typed := parts.map (·.typed)
  { plan, arms
    fields := compoundFields (uniqueNames (first.wanted.zipIdx.map fun (w, i) => w.writtenName i)) typed
    names := uniqueNames ((first.wanted.zip first.typed).zipIdx.map fun ((w, t), i) => w.meantName t i)
    labels := first.wanted.map fun w => (w.asName?, w.text)
    first := first.typed
    last := (parts.getLastD { select := {} }).typed }

def cores (q : Query) : List (Option Compound × Bool × Core) :=
  q.cores.flatMap fun (op, c) =>
    match c with
    | .values rows =>
      rows.zipIdx.map fun (row, i) => (if i = 0 then op else some .unionAll, 0 < i, .values [row])
    | c => [(op, false, c)]

def armsOf (parts : List (Option Compound × Part)) : List Loose :=
  let isAlike (p q : Part) : Bool := (p.typed.map (·.affinity)) == q.typed.map (·.affinity)
  match parts with
  | [] => []
  | (_, first) :: rest =>
    if parts.all (fun p => p.2.loose.isSome) && rest.all fun (op, p) => op == some .unionAll && isAlike first p
    then parts.filterMap fun p => p.2.loose else []

def columnOrder (s : Select) : List (SortKey Nat) :=
  s.order.filterMap fun k => (s.columns.findIdx? (k.term.same Expr.maxDepth)).map fun i => k.map fun _ => i

def joinParts (parts : List (Option Compound × Part)) (order : List (SortKey Nat))
    (limit offset : Option Term) : Plan :=
  let rows := parts.map fun (op, p) => if op = none || op = some .unionAll then p.row? else none
  if order.isEmpty && limit.isNone && offset.isNone && rows.all (·.isSome) then .values (rows.filterMap id)
  else
    match parts with
    | [] => .values []
    | (_, first) :: rest =>
      let further (p : Part) : List (Compound × Plan) := p.others.map fun s => (.unionAll, .select s)
      let others := further first ++ rest.flatMap fun (op, p) => (op.getD .unionAll, .select p.select) :: further p
      let collations := compoundCollations (first.typed :: rest.map fun p => p.2.typed)
      match others, rest with
      | [], _ => .select { first.select with
        limit := limit <|> first.select.limit
        offset := offset <|> first.select.offset }
      | _, [] =>
        let whole : Select := (first.loose.map (·.select)).getD {}
        .compound { first := .select first.select, rest := others, collations, order := columnOrder whole
                    limit := limit <|> whole.limit, offset := offset <|> whole.offset }
      | _, _ => .compound { first := .select first.select, rest := others, collations, order, limit, offset }

def commonTables (tables : List CommonTable) : Resolver (List Common) := do
  let names := tables.map fun t => t.name.text
  match names.zipIdx.find? fun (n, i) => (names.take i).any (Name.same n) with
  | some (n, _) => complain ("duplicate WITH table name: " ++ n)
  | none => return tables.map fun table => { table, isKept := table.isKept == some true }

def withCommon (ctx : Context) (tables : List CommonTable) : Resolver Context := do
  if tables.isEmpty then return ctx
  return { ctx with common := (← commonTables tables) :: ctx.common }

def keepingCommon {α : Type} (ctx : Context) (x : Context → Resolver α) : Resolver α := do
  let before ← get
  let a ← x ctx
  let height := ctx.common.length
  let asked := (← get).asked
  let isShared (c : Common) : Bool :=
    !c.isKept && c.table.isKept.isNone && 1 < (asked.filter fun k => k == (height, Word.lower c.table.name.text)).length
  let a ← if (ctx.common.headD []).any isShared then do
      set before
      let keep (c : Common) : Common := if isShared c then { c with isKept := true } else c
      x { ctx with common := ctx.common.modify 0 fun tables => tables.map keep }
    else pure a
  modify fun s => { s with asked := s.asked.filter fun k => k.1 < height }
  return a

def inCommon {α : Type} (ctx : Context) (tables : List CommonTable) (x : Context → Resolver α) : Resolver α := do
  if tables.isEmpty then x ctx else keepingCommon (← withCommon ctx tables) x

def partsOf (inside : LookIn) (repeated : LookAgain) (ctx : Context)
    (self : Option Recursion) (isLone : Bool) (cores : List (Option Compound × Bool × Core)) :
    Resolver (List (Option Compound × Part)) := do
  let found ← cores.reverse.foldlM (fun (found : List (Option Compound × Bool × Part)) (op, isValues, c) => do
    let p ← part inside repeated ctx self isLone c
    match found with
    | (right, isValues, q) :: _ => checkWidths right isValues p.wanted.length q.wanted.length
    | [] => pure ()
    return (op, isValues, p) :: found) []
  return found.map fun (op, _, p) => (op, p)

def ordered (order : List (SortKey Nat)) (parts : List (Option Compound × Part)) (p : Part) : Resolver Part := do
  match p.loose with
  | some l =>
    if (parts.drop 1).any fun q => q.1 != some .unionAll then return p
    let wanted (l : Loose) : Loose :=
      let keys := order.filterMap fun k => (l.select.columns[k.term]?).map fun t => k.map fun _ => t
      { l with select := { l.select with order := keys } }
    let selects ← arms ((l.divided Expr.maxDepth).map wanted)
    return { p with select := selects.headD {}, others := selects.drop 1 }
  | none => return p

def recursive (inside : LookIn) (repeated : LookAgain)
    (ctx : Context) :
    CommonTable → Resolver (Option Resolved)
  | .mk n columns _ q => do
    let all := cores q
    let op := all.getLast?.bind (·.1)
    let own := (all.reverse.takeWhile fun (o, _, c) => o == op && 0 < c.mentions n.text).reverse
    if (op != some .union && op != some .unionAll) || own.isEmpty then return none
    if own.any (fun (_, _, c) => 1 < c.mentions n.text) then
      complain ("multiple references to recursive table: " ++ n.text)
    let ctx ← withCommon ctx q.common
    let start := all.take (all.length - own.length)
    let first ← partsOf inside repeated ctx none (start.length = 1) start
    let setup := resolved (joinParts first [] none none) [] (first.map (·.2))
    let wrong (k m : Nat) : String := "table " ++ n.text ++ " has " ++ Text.Numeral.ofNat m ++ " values for " ++
      Text.Numeral.ofNat k ++ " columns"
    let fields ← lift (Work.ofText (Work.renamed setup.fields columns wrong))
    let number := (← get).count + 1
    modify fun s => { s with count := number }
    let marking (t : Common) : Common :=
      if Name.same t.table.name.text n.text && t.wrong.isSome then
        { t with wrong := some "multiple recursive references" }
      else t
    let marked := { ctx with common := ctx.common.map fun tables => tables.map marking }
    let steps (fields : Array Field) : Resolver (List (Option Compound × Part)) :=
      partsOf inside repeated marked (some ⟨n.text, number, fields⟩) false own
    let before ← get
    let found ← steps fields
    let parts := first.map (·.2) ++ found.map (·.2)
    let whole := (resolved setup.plan [] parts).fields.toList.map (·.affinity)
    let isSettled : Bool := whole == fields.toList.map (·.affinity)
    let found ← if isSettled then pure found else do
      set before
      steps ((fields.toList.zip whole).map fun (f, affinity) => { f with affinity }).toArray
    let parts := first.map (·.2) ++ found.map (·.2)
    match first.getLast?, found with
    | some (_, p), (op, q) :: _ => checkWidths op false p.wanted.length q.wanted.length
    | _, _ => pure ()
    if found.any (fun (_, p) => p.isAggregate) then later "recursive aggregate queries not supported"
    if found.any (fun (_, p) => p.hasWindows) then later "cannot use window functions in recursive queries"
    let last := (all.getLast?.map (·.2.2)).getD (.values [])
    let order ← last.order.zipIdx.mapM fun (s, i) => compoundKey inside marked parts i s
    let (limit, offset) ← bounds (expression (inside ctx) ctx.inTrigger) last
    let plan : Plan := .repeated { number, start := setup.plan, steps := found.map fun (_, p) => .select p.select
                                   isDistinct := op == some .union
                                   collations := compoundCollations (parts.map (·.typed)), order, limit, offset }
    return some (resolved plan [] parts)

def recursiveIn : Nat → LookAgain
  | 0, _, _, _ => return none
  | fuel + 1, inside, ctx, t => recursive inside (recursiveIn fuel) ctx t

def query : Nat → Context → Query → Resolver Resolved
  | 0, _, _ => complain "parser stack overflow"
  | fuel + 1, ctx, q => do
    let inside := query fuel
    let repeated := recursiveIn fuel
    inCommon ctx q.common fun ctx => do
      let all := cores q
      let isLone := all.length = 1
      let parts ← partsOf inside repeated ctx none isLone all
      if isLone then return resolved (joinParts parts [] none none) (armsOf parts) (parts.map (·.2))
      let last := (all.getLast?.map (·.2.2)).getD (.values [])
      let order ← last.order.zipIdx.mapM fun (s, i) => compoundKey inside ctx (parts.map (·.2)) i s
      let (limit, offset) ← bounds (expression (inside ctx) ctx.inTrigger) last
      let parts ← if order.isEmpty then pure parts else parts.mapM fun (op, p) =>
        do return (op, ← ordered order parts p)
      let isBare := order.isEmpty && limit.isNone && offset.isNone
      return resolved (joinParts parts order limit offset) (if isBare then armsOf parts else []) (parts.map (·.2))

end Resolver

end FormCompiler.Database
