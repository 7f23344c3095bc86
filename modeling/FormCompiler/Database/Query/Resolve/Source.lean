import FormCompiler.Database.Query.Resolve.Columns

namespace FormCompiler.Database

structure Recursion where
  name : String
  number : Nat
  fields : Array Field

inductive Raw where
  | mk (relation : Relation) (origins : List Origin) (source : RowSource) (arms : List Loose) (args : List Expr)
      (inner : List Raw)

namespace Raw

def relation : Raw → Relation
  | .mk r .. => r

def origins : Raw → List Origin
  | .mk _ os .. => os

def armsIn : Nat → Nat → List Raw → List (Nat × List Loose)
  | 0, _, _ => []
  | _, _, [] => []
  | fuel + 1, start, .mk _ origins _ arms _ inner :: rest =>
    (if arms.isEmpty then [] else [(start, arms)]) ++ armsIn fuel start inner ++
      armsIn fuel (start + origins.length) rest

end Raw

abbrev LookIn := Context → Query → Resolver Resolved

abbrev LookAgain := LookIn → Context → CommonTable → Resolver (Option Resolved)

namespace Work

def findCommon? (name : String) : List (List Common) → Option (Common × List (List Common))
  | [] => none
  | tables :: rest =>
    match tables.find? fun t => Name.same t.table.name.text name with
    | some t => some (t, tables :: rest)
    | none => findCommon? name rest

def renamed (fields : Array Field) (names : List Name) (wrong : Nat → Nat → String) : Except String (Array Field) :=
  if names.isEmpty then .ok fields
  else if names.length != fields.size then .error (wrong names.length fields.size)
  else .ok ((fields.toList.zip (uniqueNames (names.map (·.text)))).map fun (f, name) => { f with name }).toArray

def checkModule (t : Table) : Work Unit := do
  match t.module with
  | some m => if !m.isKnown then complain ("no such module: " ++ m.name)
  | none => return

def checkHint (t : Table) : Hint → Work Unit
  | .index name => if t.indices.any fun x => Name.same x.name name then return else complain ("no such index: " ++ name)
  | _ => return

end Work

namespace Resolver

def lift {α : Type} (x : Work α) : Resolver α := StateT.lift x

def common (look : LookIn) (repeated : LookAgain) (ctx : Context)
    (c : Common) (around : List (List Common)) : Resolver (Array Field × RowSource × List Loose) := do
  match c.table with
  | .mk n columns _ q =>
    match c.wrong with
    | some what => complain (what ++ ": " ++ n.text)
    | none => pure ()
    let marked := around.modify 0 fun tables => tables.map fun (t : Common) =>
      if Name.same t.table.name.text n.text then { t with wrong := some "circular reference" } else t
    let ctx := { ctx with common := marked }
    modify fun s => { s with asked := (around.length, Word.lower n.text) :: s.asked }
    let (r, e) ← enclosed do
      match ← repeated look ctx c.table with
      | some r => pure r
      | none => look ctx q
    let wrong (k m : Nat) : String := "table " ++ n.text ++ " has " ++ Text.Numeral.ofNat m ++ " values for " ++
      Text.Numeral.ofNat k ++ " columns"
    let fields ← lift (Work.ofText (Work.renamed r.fields columns wrong))
    return (fields, .rows r.plan e, if c.isKept then [] else r.arms)

def view (look : LookIn) (i : Nat) (t : Table) (d : ViewDefinition) :
    Resolver (Array Field × RowSource × List Loose) := do
  let c ← lift get
  if c.viewing.contains (i, t.name) then complain ("view " ++ t.name ++ " is circularly defined")
  lift (modify fun c => { c with viewing := (i, t.name) :: c.viewing })
  let database ← if i = Work.temporary then pure none else do pure (some (← lift (Work.member i)).name)
  let s ← get
  let result ← lift (Work.attempt ((apart 0 (enclosed (look { database } d.query))).run s))
  lift (modify fun c => { c with viewing := c.viewing.drop 1 })
  let ((r, e), after) ← lift (Work.ofExcept result)
  set { after with asked := s.asked }
  let fields : Array Field := ((r.fields.toList.zip r.names).map fun (f, name) => { f with name }).toArray
  let fields ← lift (Work.ofText (Work.renamed fields d.columns fun n m =>
    "expected " ++ Text.Numeral.ofNat n ++ " columns for '" ++ t.name ++ "' but got " ++ Text.Numeral.ofNat m))
  return (fields, .rows r.plan e, r.arms)

def checkArguments (name : String) (fields : Array Field) (args : List Expr) : Resolver Unit := do
  let n := (fields.filter (·.isHidden)).size
  if n < args.length then complain ("too many arguments on " ++ name ++ "() - max " ++ Text.Numeral.ofNat n)

def table (look : LookIn) (repeated : LookAgain) (ctx : Context)
    (self : Option Recursion) (n : FullName) (asName : Option String) (hint : Option (Option Name))
    (args : Option (List Expr)) : Resolver (Origin × RowSource × List Loose) := do
  let notFunction (name : String) : Resolver Unit := do
    if args.isSome then complain ("'" ++ name ++ "' is not a function")
  match self.filter fun r => n.database.isNone && Name.same r.name n.name.text with
  | some r =>
    notFunction n.name.text
    return ({ table := r.name, asName, fields := r.fields }, .recent r.number, [])
  | none =>
    match if n.database.isNone then Work.findCommon? n.name.text ctx.common else none with
    | some (c, around) =>
      notFunction n.name.text
      let (fields, source, arms) ← common look repeated ctx c around
      return ({ table := c.table.name.text, asName, fields }, source, arms)
    | none =>
      let database := (n.database.map (·.text)) <|> ctx.database
      lift Work.loadSchemas
      match ← lift (Work.findTable? database n.name.text), Supplied.fields? n.name.text with
      | none, some fields =>
        if ctx.database.isSome && Supplied.isDirect n.name.text then
          complain ("unsafe use of virtual table \"" ++ n.name.text ++ "\"")
        checkArguments n.name.text fields (args.getD [])
        return ({ table := n.name.text, asName, fields, hasRowNumbers := true }, .supplied n.name.text [], [])
      | _, _ =>
        let (i, t) ← lift (Work.locate database n.name.text)
        lift (Work.checkModule t)
        modify fun s => { s with tables := (i, t.name) :: s.tables }
        let hint := Hint.ofWritten hint
        lift (Work.checkHint t hint)
        let member := (← lift (Work.member i)).name
        match t.view with
        | some d =>
          notFunction t.name
          let (fields, source, arms) ← view look i t d
          return ({ database := some member, table := t.name, asName, fields }, source, arms)
        | none =>
          let o := Origin.ofTable member t asName
          if t.isVirtual then checkArguments t.name o.fields (args.getD []) else notFunction t.name
          return (o, .table i t [] hint, [])

def joinPlaces (before : Array Origin) (r : Relation) (added : List Origin) : Resolver (List Origin) := do
  let j := r.join
  if j.isNatural && (r.on?.isSome || !r.using_.isEmpty) then
    complain "a NATURAL join may not have an ON or USING clause"
  let has (os : List Origin) (name : String) : Bool := os.any fun o => (o.fieldIndex? name).isSome
  for n in r.using_ do
    if !has before.toList n.text || !has added n.text then
      complain ("cannot join using column " ++ n.text ++ " - column not present in both tables")
  let isSeen (os : List Origin) (name : String) : Bool :=
    os.any fun o => o.fields.any fun f => Name.same f.name name && !f.isHidden
  return added.map fun o =>
    let names := if j.isNatural then ((o.fields.toList.filter (!·.isHidden)).map (·.name)).filter (isSeen before.toList)
      else r.using_.map (·.text)
    { o with shared := names.map (·, j) ++ o.shared }

def sources (look : LookIn) (repeated : LookAgain) (ctx : Context) :
    Nat → Option Recursion → List Relation → Resolver (List Raw)
  | 0, _, _ => complain "parser stack overflow"
  | fuel + 1, self, relations => do
    let (_, raws) ← relations.foldlM (fun (found : Array Origin × List Raw) r => do
      let (before, raws) := found
      let (origins, source, arms, args, inner) ← match r with
        | .table _ n asName hint _ _ => do
          let (o, s, arms) ← table look repeated ctx self n (asName.map (·.text)) hint none
          pure ([o], s, arms, [], [])
        | .call _ n args asName _ _ => do
          let (o, s, arms) ← table look repeated ctx self n (asName.map (·.text)) none (some args)
          pure ([o], s, arms, args, [])
        | .query _ q asName _ _ => do
          let (r, e) ← enclosed (look ctx q)
          pure ([{ asName := some ((asName.map (·.text)).getD ""), fields := r.fields }], .rows r.plan e,
            r.arms, [], [])
        | .group _ relations asName _ _ => do
          match asName with
          | some n =>
            let q : Query := .mk [] (.select false [.all] relations none [] none [] [] none none) []
            let (r, e) ← enclosed (look ctx q)
            pure ([{ asName := some n.text, fields := r.fields }], .rows r.plan e, r.arms, [], [])
          | none =>
            let inner ← sources look repeated ctx fuel none relations
            pure (inner.flatMap Raw.origins, .group [], [], [], inner)
      let origins ← joinPlaces before r origins
      return (before ++ origins.toArray, raws ++ [.mk r origins source arms args inner])) (#[], [])
    return raws

def sharedColumn (start : Nat) (hasRight : Bool) (name : String) : Resolver Typed := do
  let l := (← draft).level
  let found := (List.range start).filterMap fun i =>
    (l.origins[i]?.bind fun o => (o.fieldIndex? name).map fun j => (i, j, (o.sharing? name).isSome))
  match found with
  | [] => return {}
  | first :: rest =>
    let x ← column 0 first.1 first.2.1
    if !hasRight || rest.isEmpty then return x
    if rest.any fun f => !f.2.2 then complain ("ambiguous reference to " ++ name ++ " in USING()")
    let more ← rest.mapM fun f => column 0 f.1 f.2.1
    return { Typed.ofParts (.call "coalesce" .binary ((x :: more).map (·.term))) (x :: more) with kinds := .any }

def sharedConditions (start width : Nat) (hasRight : Bool) (o : Origin) : Resolver (List Term) :=
  o.shared.filterMapM fun (name, _) => do
    let l := (← draft).level
    let right := (List.range width).findSome? fun k =>
      (l.origins[start + k]?.bind fun o => (o.fieldIndex? name).map fun j => (start + k, j))
    match right with
    | none => return none
    | some (i, j) =>
      let x ← sharedColumn start hasRight name
      let y ← column 0 i j
      return some (.compare .eq (← comparison x y) x.term y.term)

def finish (look : Look) (may : Allowance) : Nat → Nat → List Raw → Resolver (List Joined × List Term)
  | 0, _, _ => return ([], [])
  | fuel + 1, start, raws => do
    let hasRight := raws.any fun r => r.relation.join.isRight
    let step (found : Nat × List Joined × List Term) (raw : Raw) : Resolver (Nat × List Joined × List Term) := do
      let (start, items, rest) := found
      match raw with
      | .mk r origins source _ args inner =>
        let width := origins.length
        let j := r.join
        let isShared := j.isNatural || !r.using_.isEmpty
        let own ← match origins with
          | o :: _ => if isShared then sharedConditions start width hasRight o else pure []
          | [] => pure []
        let on_ ← ((r.on?.map (Expr.conjuncts Expr.maxDepth)).getD []).mapM (look may)
        let args ← args.mapM (look .plain)
        let source ← match source with
          | .group _ => do
            let (items, more) ← finish look may fuel start inner
            pure (RowsOf.group (items.modify (items.length - 1) (JoinedOf.adding more)))
          | .supplied name _ => pure (.supplied name (args.map fun a => some a.term))
          | .table i t _ hint =>
            let hidden := (List.range t.columns.size).filter fun k => (t.columns[k]?).any (·.isHidden)
            pure (.table i t (hidden.zip (args.map (·.term))) hint)
          | s => pure s
        let reaches (t : Typed) : Bool :=
          (t.term.uses Expr.maxDepth).any fun p => p.level == 0 && start + width ≤ p.place
        let isOuter := j.isLeft || j.isRight
        if (isOuter || hasRight) && on_.any reaches then later "ON clause references tables to its right"
        let terms := own ++ on_.map (·.term)
        let widths := origins.map (·.fields.size)
        if isOuter || hasRight then
          return (start + width, items ++ [.mk source j start widths terms (.kept false)], rest)
        else return (start + width, items ++ [.mk source j start widths [] (.kept false)], rest ++ terms)
    let (_, items, rest) ← raws.foldlM step (start, [], [])
    return (items, rest)

end Resolver

end FormCompiler.Database
