import FormCompiler.Database.Function.Apply
import FormCompiler.Database.Query.Term

namespace FormCompiler.Database

structure Kinds where
  number : Bool := false
  text : Bool := false
  blob : Bool := false

namespace Kinds

def any : Kinds := ⟨true, true, true⟩

def or (a b : Kinds) : Kinds := ⟨a.number || b.number, a.text || b.text, a.blob || b.blob⟩

def ofAffinity : Affinity → Kinds
  | .numeric | .integer | .real => ⟨true, false, true⟩
  | .text => ⟨false, true, true⟩
  | _ => any

end Kinds

structure Collating where
  name : String
  isWritten : Bool := false

structure Typed where
  term : Term := .value .null
  affinity : Affinity := .none
  collating : Option Collating := none
  type : String := ""
  column : Option String := none
  table : String := ""
  kinds : Kinds := { number := true }
  hasAggregate : Bool := false
  hasWindow : Bool := false
  word : Option Bool := none
  deriving Inhabited

namespace Typed

def collation (t : Typed) : Collation := (t.collating.bind fun c => Collation.ofName? c.name).getD .binary

end Typed

structure Origin where
  database : Option String := none
  table : String := ""
  asName : Option String := none
  fields : Array Field := #[]
  rowField : Option Nat := none
  hasRowNumbers : Bool := false
  isSchema : Bool := false
  shared : List (String × Join) := []
  isRemote : Bool := false
  deriving Inhabited

namespace Origin

def label (o : Origin) : String := o.asName.getD o.table

def otherNames (o : Origin) (hasDatabase : Bool) : List String :=
  if !o.isSchema || o.asName.isSome then []
  else if Name.same o.table "sqlite_temp_master" then
    "sqlite_temp_schema" :: (if hasDatabase then ["sqlite_master", "sqlite_schema"] else [])
  else ["sqlite_schema"]

def isNamed (o : Origin) (database : Option String) (table : String) : Bool :=
  (Name.same o.label table || (o.otherNames database.isSome).any (Name.same table))
    && database.all fun d => o.database.any (Name.same d)

def fieldIndex? (o : Origin) (name : String) : Option Nat := o.fields.findIdx? fun f => Name.same f.name name

def sharing? (o : Origin) (name : String) : Option Join := (o.shared.find? fun s => Name.same s.1 name).map (·.2)

def ofTable (database : String) (t : Table) (asName : Option String) : Origin where
  database := database
  table := t.name
  asName := asName
  fields := t.columns.mapIdx fun i c =>
    { name := c.name, affinity := c.affinity, type := c.type, isHidden := c.isHidden,
      collation := if t.rowColumn == some i then none else some (c.collation.getD "BINARY") }
  rowField := t.rowColumn
  hasRowNumbers := t.hasRowNumbers
  isSchema := t.root == 1

end Origin

inductive Meaning where
  | field (place index : Nat)
  | fields (choices : List (Nat × Nat))
  | rowNumber (place : Nat)
  | named (t : Typed)

structure Level where
  origins : Array Origin := #[]
  aliases : List (String × Typed) := []
  deriving Inhabited

namespace Level

def isRowName (name : String) : Bool := ["rowid", "_rowid_", "oid"].contains (name.map Char.toLower)

structure Hits where
  count : Nat := 0
  last : Nat × Nat := (0, 0)
  before : List (Nat × Nat) := []

variable (l : Level) (database table : Option String)

def hits (name : String) : Hits :=
  l.origins.toList.zipIdx.foldl (fun (h : Hits) (o, i) =>
    if !(table.all fun t => o.isNamed database t) || (table.isNone && o.isRemote) then h
    else
      match o.fieldIndex? name with
      | none => h
      | some j =>
        if h.count = 0 then { h with count := 1, last := (i, j) }
        else
          match o.sharing? name with
          | none => { count := h.count + 1, last := (i, j), before := [] }
          | some join =>
            if !join.isRight then h
            else if !join.isLeft then { count := 1, last := (i, j), before := [] }
            else { count := h.count + 1, last := (i, j), before := h.before ++ [h.last] }) {}

def numbered : List Nat :=
  (l.origins.toList.zipIdx.filter fun (o, _) =>
    o.hasRowNumbers && (table.isSome || !o.isRemote) && table.all fun t => o.isNamed database t).map (·.2)

def find (name : String) : Option (Except Unit Meaning) :=
  let h := l.hits database table name
  if h.count = 1 then some (.ok (.field h.last.1 h.last.2))
  else if 1 < h.count then
    if !h.before.isEmpty && h.before.length + 1 = h.count then some (.ok (.fields (h.before ++ [h.last])))
      else some (.error ())
  else
    match if isRowName name then l.numbered database table else [] with
    | [i] => some (.ok (.rowNumber i))
    | _ :: _ :: _ => some (.error ())
    | [] =>
      if table.isSome then none
      else (l.aliases.find? fun a => Name.same a.1 name).map fun a => .ok (.named a.2)

def field (l : Level) (i j : Nat) : Field := ((l.origins[i]?).bind (·.fields[j]?)).getD default

def visible (l : Level) : List (Nat × Nat) :=
  l.origins.toList.zipIdx.flatMap fun (o, i) =>
    (List.range o.fields.size).filterMap fun j =>
      let f := o.fields[j]?.getD default
      if f.isHidden || (0 < i && (o.sharing? f.name).isSome) then none else some (i, j)

def isMerged (l : Level) (i : Nat) (name : String) : Bool :=
  (l.origins.toList.drop (i + 1)).any fun o => (o.sharing? name).any (·.isRight)

end Level

abbrev Scope := List Level

namespace Scope

def shown (database table : Option String) (name : String) : String :=
  (database.elim "" (· ++ ".")) ++ (table.elim "" (· ++ ".")) ++ name

def find (s : Scope) (database table : Option Name) (name : Name) : Except String (Option (Nat × Meaning)) :=
  go 0 s
where
  go : Nat → List Level → Except String (Option (Nat × Meaning))
    | _, [] => .ok none
    | depth, l :: rest =>
      match l.find (database.map (·.text)) (table.map (·.text)) name.text with
      | some (.ok m) => .ok (some (depth, m))
      | some (.error _) =>
        .error ("ambiguous column name: " ++ shown (database.map (·.text)) (table.map (·.text)) name.text)
      | none => go (depth + 1) rest

def other? (table : Option Name) (name : Name) : Option Value :=
  if table.isSome then none
  else if name.isDoubleQuoted then some (.ofOctets name.octets)
  else if name.isQuoted then none
  else
    match name.text.map Char.toLower with
    | "true" => some (.integer 1)
    | "false" => some (.integer 0)
    | _ => none

def comparisonAffinity (a b : Affinity) : Affinity :=
  let isNumeric (x : Affinity) : Bool := x = .numeric || x = .integer || x = .real
  if a != .none && b != .none then if isNumeric a || isNumeric b then .numeric else .blob
  else if a = .none then b else a

end Scope

namespace Typed

def collatingOf (a b : Typed) : Option Collating :=
  match a.collating, b.collating with
  | some c, d =>
    if c.isWritten then some c
    else
      match d with
      | some d => if d.isWritten then some d else some c
      | none => some c
  | none, d => d

def comparison (a b : Typed) : Comparison where
  affinity := Scope.comparisonAffinity a.affinity b.affinity
  collation := ((collatingOf a b).bind fun c => Collation.ofName? c.name).getD .binary

end Typed

end FormCompiler.Database
