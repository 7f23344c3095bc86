import FormCompiler.Database.Query.Run

namespace FormCompiler.Database

namespace TriggerEvent

def isSetOffBy (own : TriggerEvent) (happens : TriggerEvent) : Bool :=
  match own, happens with
  | .delete, .delete => true
  | .insert, .insert => true
  | .update wanted, .update changed =>
    wanted.isEmpty || wanted.any fun n => changed.any fun m => Name.same n.text m.text
  | _, _ => false

end TriggerEvent

def triggerDraft (database : String) (t : Table) (event : TriggerEvent) : Draft :=
  let origin (name : String) : Origin := { Origin.ofTable database t (some name) with isRemote := true }
  let origins := match event with
    | .insert => #[origin "new"]
    | .delete => #[origin "old"]
    | .update _ => #[origin "old", origin "new"]
  { level := { origins } }

inductive Slot where
  | column (i : Nat)
  | rowNumber
  deriving DecidableEq

structure Assigned where
  slots : List Slot
  term : Term

inductive Alternative where
  | anyKey
  | rowNumber
  | key (index : String)

def Alternative.isAbout : Alternative → Option Index → Bool
  | .anyKey, _ => true
  | .rowNumber, none => true
  | .key name, some x => Name.same x.name name
  | _, _ => false

structure Revision where
  assigned : List Assigned
  columns : List Name
  condition : Option Term := none

structure Insertion where
  place : Nat
  table : Table
  slots : List Slot := []
  conflict : Option Conflict := none
  rows : Option Plan := none
  width : Nat := 0
  readsItself : Bool := false
  alternatives : List (Alternative × Option Revision) := []

structure Amendment where
  place : Nat
  table : Table
  conflict : Option Conflict := none
  source : RowSource
  others : List Joined := []
  origins : Array Origin := #[]
  condition : List Term := []
  assigned : List Assigned := []
  columns : List Name := []

structure Site where
  ctx : Context := {}
  drafts : List Draft := []
  env : Env := {}

namespace Work

def triggersFor (i : Nat) (t : Table) (event : TriggerEvent) : Work (List (Nat × Trigger)) := do
  let of_ (k : Nat) : Work (List (Nat × Trigger)) := do
    let s ← schema k
    return (s.triggers.filter fun g =>
      Name.same g.table t.name && g.definition.event.isSetOffBy event).reverse.map (k, ·)
  let own ← of_ i
  if i = temporary then return own else return (← of_ temporary) ++ own

def checkWritable (i : Nat) (t : Table) (event : TriggerEvent) : Work Unit := do
  let isFixed : Bool := match t.keeping? with
    | some (.words _) => true
    | _ => false
  if isFixed || (t.root = 1 && !(← get).overlooks) then complain ("table " ++ t.name ++ " may not be modified")
  if t.isView then
    if !(← triggersFor i t event).any fun g => g.2.definition.time = .instead then
      complain ("cannot modify " ++ t.name ++ " because it is a view")

def shownName (n : FullName) : String := (n.database.elim "" fun d => d.text ++ ".") ++ n.name.text

def target (ctx : Context) (n : FullName) : Work (Nat × Table) :=
  locate ((n.database.map (·.text)) <|> ctx.database) n.name.text

def targetOrigin (i : Nat) (t : Table) (asName : Option Name) (hint : Hint) : Work (Origin × RowSource) := do
  let database := (← member i).name
  match t.view with
  | none => return (Origin.ofTable database t (asName.map (·.text)), .table i t [] hint)
  | some d =>
    let (fields, source) ← view i t d
    return ({ database := some database, table := t.name, asName := asName.map (·.text), fields }, source)

variable (ctx : Context) (drafts : List Draft) (o : Origin) (t : Table)

def insertSlots (s : InsertStatement) : Work (List Slot) := do
  let isComputed (i : Nat) : Bool := (t.columns[i]?.bind (·.generated)).isSome
  let isHidden (i : Nat) : Bool := (o.fields[i]?).any (·.isHidden)
  if s.columns.isEmpty then
    return ((List.range o.fields.size).filter fun i => !isComputed i && !isHidden i).map Slot.column
  s.columns.mapM fun n => do
    match o.fieldIndex? n.text with
    | some i =>
      if isComputed i then complain ("cannot INSERT into generated column \"" ++ n.text ++ "\"")
      return .column i
    | none =>
      if Level.isRowName n.text && o.hasRowNumbers then return .rowNumber
      complain ("table " ++ shownName s.table ++ " has no column named " ++ n.text)

def updateSlot (n : Name) : Work Slot := do
  match o.fieldIndex? n.text with
  | some i =>
    if (t.columns[i]?.bind (·.generated)).isSome then complain ("cannot UPDATE generated column \"" ++ n.text ++ "\"")
    return .column i
  | none =>
    if Level.isRowName n.text && o.hasRowNumbers then return .rowNumber
    complain ("no such column: " ++ n.text)

def alternative? (u : Upsert) : Option Alternative :=
  let column (e : Expr) : Option Nat := match e.withoutCollation with
    | .column _ _ n => o.fieldIndex? n.text
    | _ => none
  let columns := u.target.map fun s => column s.expr
  let isRow : Bool := match u.target with
    | [s] => match s.expr with
      | .column _ _ n => (o.fieldIndex? n.text).isSome && o.fieldIndex? n.text == t.rowColumn
          || ((o.fieldIndex? n.text).isNone && Level.isRowName n.text && t.hasRowNumbers)
      | _ => false
    | _ => false
  if u.target.isEmpty then some .anyKey
  else if isRow then some .rowNumber
  else
    let fits (x : Index) : Bool := x.isUnique && x.parts.length == columns.length
      && (x.where_.isNone || u.where_.isSome) && x.parts.all fun p => p.column.isSome && columns.contains p.column
    (t.indices.find? fits).map fun x => .key x.name

def alternatives (upserts : List Upsert) : Work (List Alternative) :=
  upserts.zipIdx.mapM fun (u, n) => do
    match alternative? o t u with
    | some a => return a
    | none =>
      let which := if upserts.length = 1 then "" else ordinal (n + 1) ++ " "
      complain (which ++ "ON CONFLICT clause does not match any PRIMARY KEY or UNIQUE constraint")

def insertedOrigin (database : String) (t : Table) : Origin :=
  { Origin.ofTable database t (some "excluded") with isRemote := true }

def verifySequence (i : Nat) : Work Table := do
  match (← schema i).table? "sqlite_sequence" with
  | none => refuse .corruptSequence
  | some s => if !s.hasRowNumbers || s.columns.size != 2 then refuse .corruptSequence else return s

def lookAt (ctx : Context) : Look := Resolver.expression (lookIn ctx) ctx.inTrigger

def termIn (e : Expr) : Work Term := do
  return (← resolve drafts (lookAt ctx .plain e)).term

def conditionIn (e : Option Expr) : Work (List Term) :=
  resolve drafts ((e.elim [] (Expr.conjuncts Expr.maxDepth)).mapM fun e => return (← lookAt ctx .plain e).term)

def assignedIn (changes : List Assignment) : Work (List Assigned) :=
  changes.mapM fun a => do
    let wrong (n : Nat) : Work Unit :=
      complain (Text.Numeral.ofNat a.columns.length ++ " columns assigned " ++ Text.Numeral.ofNat n ++ " values")
    let term ← match a.columns, a.value with
      | [_], e => termIn ctx drafts e
      | columns, .vector es => do
        if columns.length != es.length then wrong es.length
        pure (.vector (← es.mapM (termIn ctx drafts)))
      | columns, .query q => do
        let (r, e) ← resolve drafts (Resolver.enclosed (lookIn ctx q))
        if r.last.length != columns.length then wrong r.last.length
        pure (.query columns.length e r.plan)
      | _, _ => do
        wrong 1
        pure (.value .null)
    return { slots := ← a.columns.mapM (updateSlot o t), term }

def checkReturning (o : Origin) (columns : List ResultColumn) : Work Unit :=
  columns.forM fun
    | .expr e _ _ => discard (termIn ctx ({ level := { origins := #[o] } } :: drafts) e)
    | .allOf _ => complain "RETURNING may not use \"TABLE.*\" wildcards"
    | .all => return

def contextWith (ctx : Context) (common : List CommonTable) : Work Context :=
  resolve [] (Resolver.withCommon ctx common)

def revisionOf (i : Nat) (o : Origin) (t : Table) (u : Upsert) : Work (Option Revision) := do
  match u.changes with
  | none => return none
  | some (changes, where_) =>
    let drafts := { level := { origins := #[o, insertedOrigin (← member i).name t] } } :: drafts
    let assigned ← assignedIn ctx drafts o t changes
    let condition ← where_.mapM (termIn ctx drafts)
    return some { assigned, columns := changes.flatMap (·.columns), condition }

def insertion (site : Site) (st : InsertStatement) : Work (Origin × Insertion) := do
  let ctx ← contextWith site.ctx st.common
  let drafts := site.drafts
  let (i, t) ← target ctx st.table
  checkModule t
  checkWritable i t .insert
  let (o, _) ← targetOrigin i t st.asName .nothing
  let slots ← insertSlots o t st
  let plain : Insertion := { place := i, table := t, slots, conflict := st.conflict, width := o.fields.size }
  let filled ← match st.source with
    | none => pure plain
    | some q => do
      let look (ctx : Context) : Resolver Resolved := lookIn ctx q
      let (r, tables) ← resolveReading drafts (if st.common.isEmpty then look ctx else Resolver.keepingCommon ctx look)
      let n := r.fields.size
      if n != slots.length then
        if st.columns.isEmpty then
          complain ("table " ++ shownName st.table ++ " has " ++ Text.Numeral.ofNat slots.length ++ " columns but " ++
            Text.Numeral.ofNat n ++ " values were supplied")
        complain (Text.Numeral.ofNat n ++ " values for " ++ Text.Numeral.ofNat slots.length ++ " columns")
      pure { plain with rows := some r.plan, readsItself := tables.contains (i, t.name) }
  if t.isCounting then discard (verifySequence i)
  if !st.upserts.isEmpty && t.isView then complain "cannot UPSERT a view"
  for u in st.upserts do
    for e in u.target.map Sorting.expr ++ u.where_.toList do discard (termIn ctx [{ level := { origins := #[o] } }] e)
  let about ← alternatives o t st.upserts
  let revisions ← st.upserts.mapM (revisionOf ctx drafts i o t)
  checkLoops t
  return (o, { filled with alternatives := about.zip revisions })

def amendment (site : Site) (st : UpdateStatement) : Work (Origin × Amendment) := do
  let ctx ← contextWith site.ctx st.common
  let drafts := site.drafts
  let (i, t) ← target ctx st.table
  checkModule t
  let hint := Hint.ofWritten st.index
  checkHint t hint
  let columns := st.changes.flatMap (·.columns)
  checkWritable i t (.update columns)
  let (o, source) ← targetOrigin i t st.asName hint
  let raws ← resolve drafts (Resolver.sources lookIn (Resolver.recursiveIn nesting) ctx Expr.maxDepth none st.sources)
  let level : Level := { origins := #[o] ++ (raws.flatMap Raw.origins).toArray }
  let inner := { level } :: drafts
  let assigned ← assignedIn ctx inner o t st.changes
  let condition ← conditionIn ctx inner st.where_
  let (others, rest) ← resolve inner (Resolver.finish (lookAt ctx) .plain Expr.maxDepth 1 raws)
  checkLoops t
  return (o, { place := i, table := t, conflict := st.conflict, source, others, origins := level.origins
               condition := condition ++ rest, assigned, columns })

def deletion (site : Site) (st : DeleteStatement) : Work (Origin × Amendment) := do
  let ctx ← contextWith site.ctx st.common
  let drafts := site.drafts
  let (i, t) ← target ctx st.table
  checkModule t
  let hint := Hint.ofWritten st.index
  checkHint t hint
  checkWritable i t .delete
  let (o, source) ← targetOrigin i t st.asName hint
  let condition ← conditionIn ctx ({ level := { origins := #[o] } } :: drafts) st.where_
  return (o, { place := i, table := t, source, origins := #[o], condition })

end Work

end FormCompiler.Database
