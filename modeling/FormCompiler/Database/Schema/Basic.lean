import FormCompiler.Database.FullText.Vocabulary
import FormCompiler.Database.Region.Node
import FormCompiler.Database.Statement.Basic

namespace FormCompiler.Database

structure Column where
  name : String
  type : String := ""
  affinity : Affinity := .blob
  notNull : Option Conflict := none
  default : Option Expr := none
  /-- What the default is, as it was written. -/
  defaultText : Option String := none
  collation : Option String := none
  isKey : Bool := false
  generated : Option (Expr × Bool) := none
  isHidden : Bool := false

structure IndexPart where
  column : Option Nat
  expr : Expr
  collation : String := "BINARY"
  isDescending : Bool := false

inductive IndexOrigin where
  | created
  | unique
  | primaryKey
  deriving DecidableEq

structure Index where
  name : String
  root : Nat := 0
  parts : List IndexPart := []
  isUnique : Bool := false
  conflict : Option Conflict := none
  origin : IndexOrigin := .created
  where_ : Option Expr := none
  estimates : Option (List Int) := none

structure ForeignKey where
  columns : List Nat
  reference : Reference

inductive Keeping where
  | texts (s : FullText.Settings)
  | words (v : FullText.Vocabulary)
  | regions (s : Region.Settings)

def Keeping.endings : Keeping → List String
  | .texts _ => ["config", "content", "data", "docsize", "idx"]
  | .words _ => []
  | .regions _ => ["node", "parent", "rowid"]

structure Module where
  name : String
  args : List Octets := []

namespace Module

def known : List String := ["fts5", "fts5vocab", "rtree", "rtree_i32"]

def isKnown (m : Module) : Bool := known.contains (m.name.map Char.toLower)

def keeping (m : Module) : Except String Keeping :=
  match m.name.map Char.toLower with
  | "fts5" => do return .texts (← FullText.Settings.ofArguments m.args)
  | "fts5vocab" => do return .words (← FullText.Vocabulary.ofArguments m.args)
  | "rtree" => do return .regions (← Region.Settings.ofArguments false m.args)
  | "rtree_i32" => do return .regions (← Region.Settings.ofArguments true m.args)
  | _ => .error ("no such module: " ++ m.name)

def columns (m : Module) (table : String) : List Column :=
  match m.keeping with
  | .ok (.texts s) =>
    s.columns.map (fun name => { name }) ++ [{ name := table, isHidden := true }, { name := "rank", isHidden := true }]
  | .ok (.words v) => v.columns.map fun name => { name }
  | .ok (.regions s) =>
    s.columns.zipIdx.map (fun (name, i) =>
      if i = 0 || s.isWhole then { name, type := "INT", affinity := .integer }
        else { name, type := "REAL", affinity := .real })
      ++ s.beside.map fun name => { name }
  | .error _ => []

end Module

structure Table where
  name : String
  root : Nat := 0
  columns : Array Column := #[]
  hasKey : Bool := false
  rowColumn : Option Nat := none
  keyConflict : Option Conflict := none
  isCounting : Bool := false
  isKeyed : Bool := false
  isStrict : Bool := false
  checks : List (Expr × String) := []
  references : List ForeignKey := []
  indices : List Index := []
  view : Option ViewDefinition := none
  module : Option Module := none
  estimate : Option Int := none
  hasSamples : Bool := false

namespace Table

variable (t : Table)

def isView : Bool := t.view.isSome

def isVirtual : Bool := t.module.isSome

def keeping? : Option Keeping := t.module.bind fun m => m.keeping.toOption

def columnIndex? (name : String) : Option Nat := t.columns.findIdx? fun c => Name.same c.name name

def keyIndex? : Option Index := t.indices.find? (·.origin = .primaryKey)

def storedOrder : List Nat :=
  let kept (i : Nat) : Bool := (t.columns[i]?.bind (·.generated)).all (·.2)
  let key := if t.isKeyed then ((t.keyIndex?.map (·.parts)).getD []).filterMap (·.column) else []
  let key := key.foldl (fun (ks : List Nat) k => if ks.contains k then ks else ks ++ [k]) []
  key ++ (List.range t.columns.size).filter fun i => !key.contains i && kept i

def hasRowNumbers : Bool := !t.isKeyed && !t.isView

end Table

structure Trigger where
  name : String
  table : String
  definition : TriggerDefinition

structure Schema where
  cookie : Nat := 0
  format : Nat := 1
  tables : List Table := []
  triggers : List Trigger := []

namespace Schema

variable (s : Schema) (name : String)

def table? : Option Table := s.tables.find? fun t => Name.same t.name name

def index? : Option (Table × Index) :=
  s.tables.findSome? fun t => (t.indices.find? fun i => Name.same i.name name).map (t, ·)

def trigger? : Option Trigger := s.triggers.find? fun t => Name.same t.name name

def isBeside : Bool :=
  s.tables.any fun t => (t.keeping?.map Keeping.endings).any fun endings =>
    endings.any fun ending => Name.same name (t.name ++ "_" ++ ending)

def withTable (s : Schema) (t : Table) : Schema :=
  if (s.table? t.name).isSome then
    { s with tables := s.tables.map fun o => if Name.same o.name t.name then t else o }
  else { s with tables := s.tables ++ [t] }

def hasRoot (t : Table) (i : Index) : Bool :=
  t.indices.any fun o => o.root == i.root && !Name.same o.name i.name

end Schema

def schemaTableName (isTemporary : Bool) : String := if isTemporary then "sqlite_temp_master" else "sqlite_master"

def affinityOf (type : String) : Affinity :=
  let t := type.toList.map Char.toLower
  let has (part : String) : Bool := (List.range (t.length + 1)).any fun i => part.toList.isPrefixOf (t.drop i)
  if has "int" then .integer
  else if has "char" || has "clob" || has "text" then .text
  else if has "blob" then .blob
  else if has "real" || has "floa" || has "doub" then .real
  else .numeric

def strictTypes : List String := ["any", "blob", "int", "integer", "real", "text"]

def nameNumber (name : String) : Nat :=
  (name.toList.flatMap fun c => (String.singleton c.toLower).toUTF8.toList).foldl
    (fun n b => (n + b.toNat) * 0x9E3779B1 % 0x100000000) 0

structure Walk (α : Type) where
  groups : Nat := 0
  items : List α := []

namespace Walk

variable {α : Type}

def put (name : α → String) (groups : Nat) (items : List α) (x : α) : List α :=
  let group (y : α) : Nat := nameNumber (name y) % groups
  match if groups = 0 then none else items.findIdx? fun y => group y == group x with
  | some i => items.insertIdx i x
  | none => x :: items

def insert (name : α → String) (w : Walk α) (x : α) : Walk α :=
  let n := w.items.length + 1
  let groups := min (2 * n) 64
  let w : Walk α :=
    if 10 ≤ n && 2 * w.groups < n && groups != w.groups then
      { groups, items := w.items.foldl (put name groups) [] } else w
  { w with items := put name w.groups w.items x }

def of (name : α → String) (items : List α) : List α := (items.foldl (insert name) {}).items

end Walk

def Schema.walk (s : Schema) : List Table := Walk.of (·.name) s.tables

end FormCompiler.Database
