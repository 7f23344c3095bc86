import FormCompiler.Database.Query.Entry

namespace FormCompiler.Database

open Store (Obstacle Code)

inductive Fate where
  | kept (place : Place) (instead : List Place)
  | dropped

namespace Work

def breaks (conflict : Conflict) (o : Obstacle) : Work Bool := do
  match conflict with
  | .ignore => return false
  | .rollback =>
    rollBackAll
    throw o
  | .fail =>
    modify fun c => { c with keepsPart := true }
    throw o
  | _ => throw o

def computeColumns (t : Table) (place : Place) : Work Place := do compute (← computedColumns t true) place

def checkTypes (t : Table) (place : Place) : Work Unit := do
  if t.isStrict then
    for (c, v) in t.columns.toList.zip place.values.toList do
      let fits : Bool := match Word.lower c.type, v with
        | "any", _ => true
        | _, .null => true
        | "int", .integer _ | "integer", .integer _ | "real", .real _ | "text", .text _ | "blob", .blob _ => true
        | _, _ => false
      if !fits then
        throw (.detailed (.against .datatype) ("cannot store " ++ (Function.typeName v).map Char.toUpper ++ " value in "
          ++ c.type.map Char.toUpper ++ " column " ++ t.name ++ "." ++ c.name))

structure Touched where
  columns : List Nat
  number : Bool := false

def asksNumber : Nat → Term → Bool
  | 0, _ => false
  | fuel + 1, t =>
    match t with
    | .rowNumber _ => true
    | t => t.children.any (asksNumber fuel)

def Touched.affects (c : Touched) (t : Term) : Bool :=
  ((t.columns termDepth).any fun (_, i) => c.columns.contains i) || (c.number && asksNumber termDepth t)

def Touched.spread (t : Table) (c : Touched) : Work Touched := do
  return (← computedColumns t true).foldl (fun (c : Touched) (i, _, term) =>
    if c.affects term then { c with columns := i :: c.columns } else c) c

variable (i : Nat) (t : Table) (conflict : Option Conflict) (touched : Option Touched) (place : Place)

def checkPresence : Work (Option Place) :=
  t.columns.toList.zipIdx.foldlM (fun (found : Option Place) (c, i) => do
    match found, c.notNull with
    | some place, some own =>
      if !(place.values[i]?.getD .null).isNull || t.rowColumn == some i then return some place
      if touched.any fun c => !c.columns.contains i && (t.columns[i]?).all fun c => c.generated.isNone then
        return some place
      let o : Obstacle := .detailed (.against .notNull) ("NOT NULL constraint failed: " ++ t.name ++ "." ++ c.name)
      match conflict.getD own, c.default with
      | .replace, some _ =>
        let v ← defaultValue c
        if v.isNull then throw o
        return some { place with values := place.values.setIfInBounds i v }
      | .replace, none => throw o
      | by_, _ => if ← breaks by_ o then return some place else return none
    | found, _ => return found) (some place)

def checkConditions : Work Bool := do
  if (← get).ignoresChecks then return true
  let terms ← t.checks.mapM fun (e, label) => do return (← ownTerm t e, label)
  let terms := terms.filter fun (e, _) => touched.all (·.affects e)
  if !terms.isEmpty then checkTypes t place
  terms.allM fun (e, label) => do
    if (← ownValue place e).truth? == some false then
      let by_ := match conflict with
        | some .replace | none => .abort
        | some c => c
      breaks by_ (.detailed (.against .check) ("CHECK constraint failed: " ++ label))
    else return true

def leadsTo (x : Index) (key : List Value) (place : Place) : Work Bool := do
  if t.isKeyed then
    let e := (← get).encoding
    let own (p : Place) : List Value := t.keyColumns.map fun k => p.values[k]?.getD .null
    return (← rowFor i t x key).any fun o => ((own o).zip (own place)).all fun (a, b) => a.order .binary e b == .eq
  else
    match key.getLast?, place.number with
    | some (.integer n), some m => return n == m
    | _, _ => return false

def rival? (x : Index) (place : Place) (old : Option Place) : Work (Option Place) := do
  if !x.isUnique || !(← belongs t x place) then return none
  let key := (← keyOf t x place).take x.parts.length
  if key.any Value.isNull then return none
  let (route, found) ← seekKey i t x key
  if found != .eq then return none
  let there ← keyAt i route
  match old with
  | some o => if ← leadsTo i t x there o then return none
  | none => pure ()
  return some ((← rowFor i t x there).getD { number := match there.getLast? with
    | some (.integer n) => some n
    | _ => none })

def checkKeys (old : Option Place) : Work Fate := do
  let by_ (own : Option Conflict) : Conflict := conflict.getD (own.getD .abort)
  let sameRow : Option Place ← match t.hasRowNumbers, place.number with
    | true, some n =>
      if old.any fun o => o.number == some n then pure none
      else do
        let (_, found) ← paging i (Paging.seekRow t.root n)
        if found = .eq then rowFor i t { name := "" } [.integer n] else pure none
    | _, _ => pure none
  let start : Option (List Place) ← match sameRow with
    | none => pure (some [])
    | some other =>
      if by_ t.keyConflict = .replace then pure (some [other])
      else do
        let rule : Store.Rule := if t.rowColumn.isSome then .primaryKey else .rowNumber
        let shown := t.name ++ "." ++ (t.rowColumn.bind fun k => t.columns[k]?.map (·.name)).getD "rowid"
        let goesOn ← breaks (by_ t.keyConflict) (.detailed (.against rule) ("UNIQUE constraint failed: " ++ shown))
        pure (if goesOn then some [] else none)
  if start.isSome then checkTypes t place
  let all ← t.indices.foldlM (fun (found : Option (List Place)) x => do
    match found with
    | none => return none
    | some instead =>
      match ← rival? i t x place old with
      | none => return some instead
      | some other =>
        if by_ x.conflict = .replace then return some (other :: instead)
        if ← breaks (by_ x.conflict) (duplicateKey t x) then return some instead else return none) start
  match all with
  | some instead => return .kept place instead
  | none => return .dropped

def rivalsOf (old : Option Place) : Work (List (Option Index × Place)) := do
  let byNumber ← match t.hasRowNumbers, place.number with
    | true, some n => do pure ((← rowFor i t { name := "" } [.integer n]).toList.map (none, ·))
    | _, _ => pure []
  let byKey ← t.indices.filterMapM fun x => do return (← rival? i t x place old).map (some x, ·)
  return byNumber ++ byKey

def checkValues : Work (Option Place) := do
  let touched ← touched.mapM (Touched.spread t)
  match ← checkPresence t conflict touched place with
  | none => return none
  | some place => return if ← checkConditions t conflict touched place then some place else none

def checkRow (old : Option Place) : Work Fate := do
  match ← checkValues t conflict touched place with
  | none => return .dropped
  | some place => checkKeys i t conflict place old

def removeRow : Work Unit := do
  for x in t.indices do
    if !t.isOwn x then
      if ← belongs t x place then eraseKey i t x (← keyOf t x place)
  match t.keyIndex? with
  | some own =>
    if t.isKeyed then eraseKey i t own ((← keyOf t own place).take own.parts.length) else eraseNumbered
  | none => eraseNumbered
where
  eraseNumbered : Work Unit := do
    match place.number with
    | some n => discard (paging i (Paging.eraseRow t.root n))
    | none => return

def addRow : Work Unit := do
  for x in t.indices do
    if ← belongs t x place then putKey i t x (← keyOf t x place)
  if !t.isKeyed then
    match place.number with
    | some n => paging i (Paging.putRow t.root n (Row.write (← get).encoding (storedRow t place)))
    | none => return

def replaceRow (old new : Place) : Work Unit := do
  let e := (← get).encoding
  let same (a b : List Value) : Bool := a.length == b.length && (a.zip b).all fun (x, y) =>
    x.order .binary e y == .eq && x.rank == y.rank
  let changed ← t.indices.filterM fun x => do
    let wasIn ← belongs t x old
    let isIn ← belongs t x new
    if wasIn != isIn then return true
    return !same (← keyOf t x old) (← keyOf t x new)
  for x in changed do
    if ← belongs t x old then eraseKey i t x (← keyOf t x old)
  if !t.isKeyed && old.number != new.number then
    match old.number with
    | some n => discard (paging i (Paging.eraseRow t.root n))
    | none => pure ()
  for x in changed do
    if ← belongs t x new then putKey i t x (← keyOf t x new)
  if !t.isKeyed then
    match new.number with
    | some n => paging i (Paging.putRow t.root n (Row.write e (storedRow t new)))
    | none => return

end Work

end FormCompiler.Database
