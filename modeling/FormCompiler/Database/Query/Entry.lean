import FormCompiler.Database.Query.Table

namespace FormCompiler.Database

open Store (Obstacle Code)

structure KeyPart where
  collation : Collation := .binary
  isDescending : Bool := false
  deriving Inhabited

namespace Table

def keyColumns (t : Table) : List Nat :=
  (((t.keyIndex?.map (·.parts)).getD []).filterMap (·.column)).foldl
    (fun (ks : List Nat) k => if ks.contains k then ks else ks ++ [k]) []

def keyColumnsBeside (t : Table) (x : Index) : List Nat :=
  t.keyColumns.filter fun k => !x.parts.any fun p => p.column == some k

def isOwn (t : Table) (x : Index) : Bool := t.isKeyed && x.origin = .primaryKey

def keyParts (t : Table) (x : Index) : List KeyPart :=
  let own := x.parts.map fun p => ({ collation := (Collation.ofName? p.collation).getD .binary
                                     isDescending := p.isDescending } : KeyPart)
  let beside : List KeyPart :=
    if t.isOwn x then []
    else if t.isKeyed then
      (t.keyColumnsBeside x).map fun k =>
        let part := ((t.keyIndex?.map (·.parts)).getD []).find? fun p => p.column == some k
        { collation := (part.bind fun p => Collation.ofName? p.collation).getD .binary
          isDescending := part.any (·.isDescending) }
    else [{}]
  own ++ beside

end Table

def orderKeys (e : Encoding) : List KeyPart → List Value → List Value → Ordering
  | p :: parts, a :: as, b :: bs =>
    match a.order p.collation e b with
    | .eq => orderKeys e parts as bs
    | o => if p.isDescending then o.swap else o
  | _, _, _ => .eq

namespace Work

def storedValue (c : Column) (v : Value) : Value :=
  match c.affinity, v with
  | .real, .real x =>
    match Real.integer? x with
    | some n => if n.natAbs ≤ 140737488355327 then .integer n else v
    | none => v
  | _, v => v

def storedRow (t : Table) (place : Place) : List Value :=
  t.storedOrder.map fun i =>
    if t.rowColumn == some i then .null
    else
      let v := place.values[i]?.getD .null
      (t.columns[i]?).elim v fun c => storedValue c v

def belongs (t : Table) (x : Index) (place : Place) : Work Bool := do
  match x.where_ with
  | some e => return (← evalFor t place e).truth? == some true
  | none => return true

def keyOf (t : Table) (x : Index) (place : Place) : Work (List Value) := do
  if t.isOwn x then return storedRow t place
  let column (i : Nat) : Value :=
    let v := place.values[i]?.getD .null
    (t.columns[i]?).elim v fun c => storedValue c v
  let own ← x.parts.mapM fun p =>
    match p.column with
    | some i => return if t.rowColumn == some i then (place.number.map Value.integer).getD .null else column i
    | none => evalFor t place p.expr
  let beside := if t.isKeyed then (t.keyColumnsBeside x).map column else [(place.number.map Value.integer).getD .null]
  return own ++ beside

def keyOrder (e : Encoding) (parts : List KeyPart) (key : List Value) (p : Page) (i : Nat) : Paging Ordering := do
  let c := p.cell (← Paging.layout) i
  let bytes ← Paging.entry p c
  let values ← Paging.orCorrupt (Row.read? e bytes key.length)
  return orderKeys e parts values.toList key

variable (i : Nat) (t : Table) (x : Index) (key : List Value)

def seekKey : Work (Route × Ordering) := do
  paging i (Paging.seek x.root false (keyOrder (← get).encoding (t.keyParts x) key))

def keyAt (i : Nat) (route : Route) : Work (List Value) := do
  let bytes ← paging i do
    let c := route.page.cell (← Paging.layout) route.index
    Paging.entry route.page c
  match Row.read? (← get).encoding bytes 2000 with
  | some values => return values.toList
  | none => refuse .corrupt

def putKey : Work Unit := do
  let (route, found) ← seekKey i t x key
  paging i (Paging.put route found none (Row.write (← get).encoding key))

def eraseKey : Work Unit := do
  let (route, found) ← seekKey i t x key
  if found = .eq then paging i (Paging.erase route)
  else if !(← get).overlooks then refuse .corruptIndex

def columnNames (t : Table) (columns : List Nat) : String :=
  ", ".intercalate (columns.map fun i => t.name ++ "." ++ (t.columns[i]?.map (·.name)).getD "rowid")

def duplicateKey (t : Table) (x : Index) : Obstacle :=
  let shown := if x.parts.all (·.column.isSome) then columnNames t (x.parts.filterMap (·.column))
    else "index '" ++ x.name ++ "'"
  .detailed (.against (if x.origin = .primaryKey then .primaryKey else .unique)) ("UNIQUE constraint failed: " ++ shown)

def rowFor : Work (Option Place) := do
  let read (route : Route) (number : Option Int) : Work (Option Place) := do
    let b ← paging i do Paging.entry route.page (route.page.cell (← Paging.layout) route.index)
    return some (← readRow (← completion t) b number)
  if t.isKeyed then
    match t.keyIndex? with
    | none => return none
    | some own =>
      let wanted : List Value := if t.isOwn x then key.take own.parts.length
        else t.keyColumns.map fun k =>
          match x.parts.findIdx? fun p => p.column == some k with
          | some j => key.getD j .null
          | none => ((t.keyColumnsBeside x).findIdx? (· == k)).elim .null fun j => key.getD (x.parts.length + j) .null
      let (route, found) ← seekKey i t own wanted
      if found != .eq then return none else read route none
  else
    match key.getLast? with
    | some (.integer n) =>
      let (route, found) ← paging i (Paging.seekRow t.root n)
      if found != .eq then return none else read route (some n)
    | _ => return none

end Work

end FormCompiler.Database
