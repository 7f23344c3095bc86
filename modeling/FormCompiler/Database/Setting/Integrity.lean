import FormCompiler.Database.Change.Rule
import FormCompiler.Database.Tree.Survey

namespace FormCompiler.Database

namespace Integrity

def wrongValue? (t : Table) (i : Nat) (c : Column) (v : Value) : Option String :=
  let here := t.name ++ "." ++ c.name
  if t.rowColumn == some i then none
  else if c.notNull.isSome && v.isNull then some ("NULL value in " ++ here)
  else if t.isStrict then
    let fits : Bool := match Word.lower c.type, v with
      | "any", _ | _, .null => true
      | "int", .integer _ | "integer", .integer _ | "real", .integer _ | "real", .real _ => true
      | "text", .text _ | "blob", .blob _ => true
      | _, _ => false
    if fits then none else some ("non-" ++ c.type.map Char.toUpper ++ " value in " ++ here)
  else
    match c.affinity, v with
    | .text, .integer _ | .text, .real _ => some ("NUMERIC value in " ++ here)
    | .numeric, .text _ | .integer, .text _ | .real, .text _ =>
      match v.apply .numeric with
      | .text _ => none
      | _ => some ("TEXT value in " ++ here)
    | _, _ => none

end Integrity

namespace Work

def wrongKey? (i : Nat) (t : Table) (place : Place) (count : Nat) (x : Index) : Work (Option String) := do
  if !(← belongs t x place) then return none
  let key ← keyOf t x place
  let (_, found) ← seekKey i t x key
  if found != .eq then return some ("row " ++ Text.Numeral.ofNat count ++ " missing from index " ++ x.name)
  let own := key.take x.parts.length
  if !x.isUnique || own.any Value.isNull then return none
  let e := (← get).encoding
  let parts := t.keyParts x
  let keys ← paging i (Paging.keys x.root)
  let same := keys.items.toList.filterMap fun b =>
    (Row.read? e b 2000).bind fun values =>
      let other := values.toList
      if orderKeys e parts own (other.take own.length) == .eq && orderKeys e parts key other == .lt then
        some () else none
  return if same.isEmpty then none else some ("non-unique entry in index " ++ x.name)

def wrongRows (i : Nat) (isQuick : Bool) (t : Table) : Work (List String) := do
  let checks ← if (← get).ignoresChecks then pure [] else t.checks.mapM fun (e, _) => ownTerm t e
  let rows ← (tableRows i t).toArray
  rows.toList.zipIdx.flatMapM fun (place, n) => do
    let values := (t.columns.toList.zip place.values.toList).zipIdx.filterMap fun ((c, v), k) =>
      Integrity.wrongValue? t k c v
    let breaksRule ← checks.anyM fun e => do return (← ownValue place e).truth? == some false
    let rules := if breaksRule then ["CHECK constraint failed in " ++ t.name] else []
    let keys ← if isQuick then pure [] else
      (t.indices.filter fun x => !t.isOwn x).filterMapM (wrongKey? i t place (n + 1))
    return values ++ rules ++ keys

def rootsOf (t : Table) : List Nat :=
  if t.isView || t.isVirtual then [] else (if t.isKeyed then [] else [t.root]) ++ t.indices.map (·.root)

def wrongCounts (i : Nat) (t : Table) : Work (List String) := do
  if t.isView || t.isVirtual then return []
  let rows := (← storedRows i t).1.size
  (t.indices.filter fun x => x.where_.isNone && !t.isOwn x).filterMapM fun x => do
    let keys ← paging i (Paging.keys x.root)
    return if keys.items.size = rows then none else some ("wrong # of entries in index " ++ x.name)

def wrongs (i : Nat) (isQuick : Bool) (only : Option String) : Work (List String) := do
  verify i
  let tables := (← schema i).walk.filter fun t => only.all (Name.same t.name)
  if (← volume i).count = 0 then return []
  let lost ← if only.isSome then pure [] else paging i (Paging.lostPages (tables.flatMap rootsOf))
  let pages := lost.map fun n => "Page " ++ Text.Numeral.ofNat n ++ ": never used"
  let database := (← member i).name
  let pages := if pages.isEmpty then [] else ["*** in database " ++ database ++ " ***\n" ++ "\n".intercalate pages]
  let counts ← tables.flatMapM (wrongCounts i)
  let rows ← (tables.filter fun t => !t.isView && !t.isVirtual).flatMapM (wrongRows i isQuick)
  return pages ++ counts ++ rows

end Work

end FormCompiler.Database
