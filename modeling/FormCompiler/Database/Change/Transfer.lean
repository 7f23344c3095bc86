import FormCompiler.Database.Change.Plan

namespace FormCompiler.Database

namespace Work

def isSameOwn (s t : Table) (a b : Option Expr) : Work Bool := do
  match a, b with
  | none, none => return true
  | some a, some b => return (← ownTerm s a).same termDepth (← ownTerm t b)
  | _, _ => return false

def isLikeIndex (s t : Table) (x y : Index) : Work Bool := do
  let rule (x : Index) : Option Conflict := if x.origin = .created then some .abort else x.conflict
  if x.parts.length != y.parts.length || x.isUnique != y.isUnique || (x.isUnique && rule x != rule y) then return false
  let parts ← (x.parts.zip y.parts).allM fun (p, q) => do
    if p.column != q.column || p.isDescending != q.isDescending || !Name.same p.collation q.collation then return false
    if p.column.isSome then return true else isSameOwn s t (some p.expr) (some q.expr)
  if parts then isSameOwn s t x.where_ y.where_ else return false

def isLikeColumn (s t : Table) (isFirst : Bool) (c d : Column) : Work Bool := do
  if c.generated.map (·.2) != d.generated.map (·.2) then return false
  if !(← isSameOwn s t (c.generated.map (·.1)) (d.generated.map (·.1))) then return false
  let hasDefault : Bool := isFirst || c.generated.isSome || c.defaultText == d.defaultText
  return c.affinity = d.affinity && Name.same (c.collation.getD "BINARY") (d.collation.getD "BINARY")
    && (d.notNull.isNone || c.notNull.isSome) && hasDefault

def isLikeTable (s t : Table) : Work Bool := do
  if s.isView || s.isVirtual || t.isView || t.isVirtual then return false
  if s.isKeyed != t.isKeyed || s.columns.size != t.columns.size || s.rowColumn != t.rowColumn then return false
  if (t.isStrict && !s.isStrict) || ((← get).checksReferences && !t.references.isEmpty) then return false
  let columns ← ((s.columns.toList.zip t.columns.toList).zipIdx).allM fun ((c, d), i) => isLikeColumn s t (i = 0) c d
  if !columns then return false
  let indices ← t.indices.allM fun y => s.indices.anyM fun x => isLikeIndex s t x y
  if !indices then return false
  if t.checks.isEmpty then return true
  if s.checks.length != t.checks.length then return false
  (s.checks.zip t.checks).allM fun (a, b) => isSameOwn s t (some a.1) (some b.1)

def needsEmpty (t : Table) (conflict : Option Conflict) : Bool :=
  let rule := (conflict <|> (if t.rowColumn.isSome then t.keyConflict else none)).getD .abort
  (t.rowColumn.isNone && !t.indices.isEmpty) || t.indices.any (·.isUnique) || (rule != .abort && rule != .rollback)

def isEmptyTable (i : Nat) (t : Table) : Work Bool := return (← storedRows i t).1.isEmpty

def addKeys (i : Nat) (t : Table) (places : List Place) : Work Unit := do
  let e := (← get).encoding
  for x in t.indices do
    let keys ← places.filterMapM fun place => do
      if ← belongs t x place then return some (← keyOf t x place) else return none
    for key in keys.mergeSort fun a b => orderKeys e (t.keyParts x) a b != .gt do putKey i t x key

def transferred? (ctx : Context) (st : InsertStatement) (p : Insertion) : Work (Option (Nat × Table)) := do
  if !st.common.isEmpty || !st.columns.isEmpty || !st.returning.isEmpty then return none
  match st.source with
  | some (.mk [] (.select false [.all] [.table _ n _ _ none []] none [] none _ [] none none) []) =>
    match ← findTable? ((n.database.map (·.text)) <|> ctx.database) n.name.text with
    | none => return none
    | some (k, s) =>
      if k = p.place && s.root = p.table.root then return none
      if !(← triggersFor p.place p.table .insert).isEmpty || !(← isLikeTable s p.table) then return none
      if needsEmpty p.table p.conflict && !(← isEmptyTable p.place p.table) then return none
      return some (k, s)
  | _ => return none

end Work

end FormCompiler.Database
