import FormCompiler.Database.Change.Rule

namespace FormCompiler.Database

open Store (Obstacle Code)

structure Lead where
  index : Option Index
  pairs : List (Nat × Nat)

namespace ForeignKey

def lead? (f : ForeignKey) (parent : Table) : Option Lead :=
  let names := f.reference.columns.map (·.text)
  let byNumber : Option Lead :=
    match f.columns, names, parent.rowColumn with
    | [c], [], some k => some ⟨none, [(c, k)]⟩
    | [c], [n], some k => if (parent.columns[k]?).any fun p => Name.same p.name n then some ⟨none, [(c, k)]⟩ else none
    | _, _, _ => none
  let byKey (x : Index) : Option Lead := do
    if !(x.isUnique && x.where_.isNone && x.parts.length == f.columns.length) then none
    else if names.isEmpty then
      if x.origin != .primaryKey then none
      else some ⟨some x, f.columns.zip (x.parts.filterMap (·.column))⟩
    else
      let pairs ← x.parts.mapM fun p => do
        let k ← p.column
        let c ← parent.columns[k]?
        if !Name.same p.collation (c.collation.getD "BINARY") then none
        else
          let j ← names.findIdx? (Name.same c.name)
          return (← f.columns[j]?, k)
      some ⟨some x, pairs⟩
  byNumber <|> parent.indices.findSome? byKey

end ForeignKey

namespace Work

variable (i : Nat) (t : Table)

def follow (f : ForeignKey) : Work (Table × Lead) := do
  let (_, parent) ← locate (some (← member i).name) f.reference.table.text
  match f.lead? parent with
  | some lead => return (parent, lead)
  | none => complain ("foreign key mismatch - \"" ++ t.name ++ "\" referencing \"" ++ f.reference.table.text ++ "\"")

def referencesTo : Work (List (Table × ForeignKey)) := do
  return (← schema i).tables.reverse.flatMap fun child =>
    (child.references.filter fun f => Name.same f.reference.table.text t.name).map (child, ·)

def countDangling (f : ForeignKey) (n : Int) : Work Unit :=
  modify fun c =>
    if c.defersChecks then { c with danglingDeferred := c.danglingDeferred + n }
    else if f.reference.isDeferred then { c with danglingLater := c.danglingLater + n }
    else { c with dangling := c.dangling + n }

def isSettled (f : ForeignKey) : Work Bool := do
  let c ← get
  return c.danglingDeferred == 0 && (if f.reference.isDeferred then c.danglingLater == 0 else c.dangling == 0)

def valuesAt (place : Place) (columns : List Nat) : List Value := columns.map fun k => place.values[k]?.getD .null

def hasParent (i : Nat) (parent : Table) (lead : Lead) (place : Place) : Work Bool := do
  let values := (lead.pairs.zip (valuesAt place (lead.pairs.map (·.1)))).map fun ((_, k), v) =>
    v.apply ((parent.columns[k]?.map (·.affinity)).getD .none)
  match lead.index with
  | none =>
    match (values.headD .null).apply .numeric with
    | .integer n => return (← paging i (Paging.seekRow parent.root n)).2 = .eq
    | _ => return false
  | some x => return (← seekKey i parent x values).2 = .eq

def asksForItself (t parent : Table) (lead : Lead) (place : Place) : Work Bool := do
  if !Name.same t.name parent.name then return false
  let e := (← get).encoding
  return lead.pairs.all fun (c, k) =>
    (place.values[c]?.getD .null).order .binary e (place.values[k]?.getD .null) == .eq

def countParent (f : ForeignKey) (place : Place) (n : Int) : Work Unit := do
  let (parent, lead) ← follow i t f
  if (valuesAt place f.columns).any Value.isNull then return
  if n < 0 then
    if ← isSettled f then return
  if ← hasParent i parent lead place then return
  if ← asksForItself t parent lead place then return
  countDangling f n

def childrenOf (i : Nat) (t child : Table) (lead : Lead) (place : Place) : Work (List Place) := do
  let wanted := lead.pairs.zip (valuesAt place (lead.pairs.map (·.2)))
  if wanted.any fun (_, v) => v.isNull then return []
  let rows ← (tableRows i child).toArray
  rows.toList.filterM fun row =>
    wanted.allM fun ((c, k), v) => do
      let w := row.values[c]?.getD .null
      if w.isNull then return false
      let own := t.columns[k]?
      let aff := Scope.comparisonAffinity ((own.map (·.affinity)).getD .none)
        ((child.columns[c]?.map (·.affinity)).getD .none)
      let collation := ((own.bind (·.collation)).bind Collation.ofName?).getD .binary
      return (v.apply aff).order collation (← get).encoding (w.apply aff) == .eq

def isSameRow (t : Table) (a b : Place) : Work Bool := do
  let e := (← get).encoding
  if t.isKeyed then
    return ((valuesAt a t.keyColumns).zip (valuesAt b t.keyColumns)).all fun (x, y) => x.order .binary e y == .eq
  else return a.number == b.number

def countChildren (i : Nat) (t child : Table) (f : ForeignKey) (place : Place) (n : Int) : Work Unit := do
  let (_, lead) ← follow i child f
  if n < 0 then
    if ← isSettled f then return
  let isOwn := Name.same child.name t.name
  let rows ← childrenOf i t child lead place
  let rows ← if isOwn && 0 < n then rows.filterM fun row => return !(← isSameRow t row place) else pure rows
  countDangling f (n * rows.length)

def touches (changed : Option (List Nat)) (columns : List Nat) : Bool :=
  changed.all fun cs => columns.any cs.contains

def touchesParent (t : Table) (f : ForeignKey) (changed : Option (List Nat)) : Bool :=
  touches changed ((f.lead? t).elim (List.range t.columns.size) fun l => l.pairs.map (·.2))

def countReferences (old new : Option Place) (changed : Option (List Nat)) : Work Unit := do
  if (← get).checksReferences then
    for f in t.references do
      if touches changed f.columns then
        for place in old do countParent i t f place (-1)
        for place in new do countParent i t f place 1
    for (child, f) in ← referencesTo i t do
      if touchesParent t f changed then
        for place in new do countChildren i t child f place (-1)
        for place in old do countChildren i t child f place 1

def checkLeads (isInsertion : Bool) (changed : Option (List Nat)) : Work Unit := do
  if (← get).checksReferences then
    for f in t.references do
      if touches changed f.columns then discard (follow i t f)
    for (child, f) in ← referencesTo i t do
      let matters := !isInsertion || f.reference.isDeferred || (← get).defersChecks
      if matters && touchesParent t f changed then discard (follow i child f)

def isLinked : Work Bool := do
  return (← get).checksReferences && (!t.references.isEmpty || !(← referencesTo i t).isEmpty)

def reactionTo (child : Table) (f : ForeignKey) (t : Table) (lead : Lead) (isDeletion : Bool) : Option TriggerAction :=
  let column (table : Option String) (name : String) : Expr :=
    .column none (table.map fun s => { text := s }) { text := name }
  let nameOf (t : Table) (k : Nat) : String := (t.columns[k]?.map (·.name)).getD ""
  let terms := lead.pairs.map fun (c, k) => Expr.binary .eq (column (some "old") (nameOf t k))
    (column none (nameOf child c))
  let where_ : Option Expr := match terms with
    | e :: rest => some (rest.foldl (Expr.binary .and) e)
    | [] => none
  let table : FullName := ⟨none, { text := child.name }⟩
  let update (value : Nat × Nat → Expr) : TriggerAction :=
    .update { table, where_, changes := lead.pairs.map fun p => ⟨[{ text := nameOf child p.1 }], value p⟩ }
  match if isDeletion then f.reference.onDelete else f.reference.onUpdate with
  | "cascade" =>
    some (if isDeletion then .delete { table, where_ } else update fun (_, k) => column (some "new") (nameOf t k))
  | "set null" => some (update fun _ => .null)
  | "set default" => some (update fun (c, _) => ((child.columns[c]?).bind (·.default)).getD .null)
  | "restrict" =>
    some (.select (.mk [] (.select false [.expr (.raise .abort "FOREIGN KEY constraint failed") none ""]
      [.table {} table none none none []] where_ [] none [] [] none none) []))
  | _ => none

end Work

end FormCompiler.Database
