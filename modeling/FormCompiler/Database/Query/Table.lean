import FormCompiler.Database.Query.Evaluate
import FormCompiler.Database.Query.Resolve.Expression

namespace FormCompiler.Database

open Store (Obstacle Code)

def Runner.none : Runner := ⟨fun _ _ => .empty, fun _ _ => .empty⟩

structure Completion where
  table : Table
  order : List Nat
  computed : List (Nat × Affinity × Term) := []

def Table.tree (t : Table) : Nat := if t.isKeyed then (t.keyIndex?.map (·.root)).getD t.root else t.root

namespace Work

def resolveReading {α : Type} (drafts : List Draft) (x : Resolver α) : Work (α × List (Nat × String)) := do
  let (a, s) ← x.run { drafts, count := (← get).queries }
  modify fun c => { c with queries := s.count }
  match s.late with
  | some m => complain m
  | none => return (a, s.tables)

def resolve {α : Type} (drafts : List Draft) (x : Resolver α) : Work α := return (← resolveReading drafts x).1

variable (t : Table)

def ownTyped (e : Expr) : Work Typed := do
  let draft : Draft := { level := { origins := #[Origin.ofTable "" t none] } }
  let look := Resolver.expression (fun _ => Resolver.complain "subqueries prohibited") false .plain
  resolve [draft] (look e)

def ownTerm (e : Expr) : Work Term := return (← ownTyped t e).term

def ownValue (place : Place) (t : Term) : Work Value := valueOf .none { frames := [{ places := #[place] }] } t

def evalFor (place : Place) (e : Expr) : Work Value := do ownValue place (← ownTerm t e)

def defaultValue (c : Column) : Work Value := do
  match c.default with
  | some e => return (← evalFor { name := "" } {} e).apply c.affinity
  | none => return .null

def inOrder : Nat → List (Nat × Affinity × Term) → List (Nat × Affinity × Term) × List (Nat × Affinity × Term)
  | 0, rest => ([], rest)
  | fuel + 1, rest =>
    let waits (c : Nat × Affinity × Term) : Bool :=
      (c.2.2.columns termDepth).any fun (_, i) => rest.any fun o => o.1 == i
    let (later, ready) := rest.partition waits
    if ready.isEmpty then ([], rest)
    else
      let (ordered, stuck) := inOrder fuel later
      (ready ++ ordered, stuck)

def computations (withKept : Bool) : Work (List (Nat × Affinity × Term) × List (Nat × Affinity × Term)) := do
  let found ← t.columns.toList.zipIdx.filterMapM fun (c, i) => do
    match c.generated with
    | some (e, isKept) => if isKept && !withKept then return none else return some (i, c.affinity, ← ownTerm t e)
    | none => return none
  return inOrder found.length found

def computedColumns (withKept : Bool) : Work (List (Nat × Affinity × Term)) := do
  let (ordered, stuck) ← computations t withKept
  return ordered ++ stuck

def checkLoops : Work Unit := do
  match (← computations t true).2.getLast? with
  | some (i, _, _) => complain ("generated column loop on \"" ++ (t.columns[i]?).elim "" (·.name) ++ "\"")
  | none => return

def completion : Work Completion := return { table := t, order := t.storedOrder, computed := ← computedColumns t false }

def compute (columns : List (Nat × Affinity × Term)) (place : Place) : Work Place :=
  columns.foldlM (fun (place : Place) (i, affinity, term) => do
    let v := (← ownValue place term).apply affinity
    return { place with values := place.values.setIfInBounds i v }) place

def complete (c : Completion) (stored : Array Value) (number : Option Int) : Work Place := do
  let t := c.table
  let column (col : Column) (i : Nat) : Work Value := do
    if t.rowColumn == some i then return (number.map Value.integer).getD .null
    match c.order.findIdx? (· == i) with
    | none => return .null
    | some k =>
      match stored[k]? with
      | some v =>
        return match col.affinity, v with
          | .real, .integer n => .real (Real.ofInt n)
          | _, v => v
      | none => defaultValue col
  let values ← t.columns.toList.zipIdx.mapM fun (col, i) => column col i
  compute c.computed { values := values.toArray, number }

def readRow (c : Completion) (b : ByteArray) (number : Option Int) : Work Place := do
  match Row.read? (← get).encoding b c.table.columns.size with
  | some stored => complete c stored number
  | none => refuse .corrupt

def storedRows (i : Nat) (t : Table) : Work (Array (Option Int × ByteArray) × Option Code) := do
  if (← volume i).count = 0 && t.root = 1 then return (#[], none)
  if t.isKeyed then
    let s ← paging i (Paging.keys (t.tree))
    return (s.items.map (none, ·), s.stopped)
  else
    let s ← paging i (Paging.rows t.root)
    return (s.items.map fun (n, b) => (some n, b), s.stopped)

def tableRows (i : Nat) (t : Table) : Stream Place :=
  .after (do return (← completion t, ← storedRows i t)) fun (c, items, stopped) =>
    ((Stream.ofArray items).mapM fun (n, b) => readRow c b n).append
      (.failing (match stopped with
        | some code => refuse code
        | none => return))

end Work

end FormCompiler.Database
