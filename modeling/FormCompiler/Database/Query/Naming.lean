import FormCompiler.Database.Query.Operator
import FormCompiler.Database.Query.Supplied
import FormCompiler.Database.Schema.Load

namespace FormCompiler.Database

structure Common where
  table : CommonTable
  wrong : Option String := none
  isKept : Bool := false

structure Context where
  common : List (List Common) := []
  database : Option String := none
  inTrigger : Bool := false
  firing : List (Nat × String) := []

structure Allowance where
  aggregates : Bool := true
  windows : Bool := true

def Allowance.plain : Allowance := { aggregates := false, windows := false }

def CommonTable.name : CommonTable → Name
  | .mk n _ _ _ => n

def CommonTable.isKept : CommonTable → Option Bool
  | .mk _ _ isKept _ => isKept

def Sorting.expr : Sorting → Expr
  | .mk e _ _ => e

def Query.cores : Query → List (Option Compound × Core)
  | .mk _ first rest => (none, first) :: rest.map fun (op, c) => (some op, c)

def Query.common : Query → List CommonTable
  | .mk common _ _ => common

def Core.relations : Core → List Relation
  | .select _ _ rs _ _ _ _ _ _ _ => rs
  | .values _ => []

def Relation.join : Relation → Join
  | .table j .. | .call j .. | .query j .. | .group j .. => j

def Relation.on? : Relation → Option Expr
  | .table _ _ _ _ on_ _ | .call _ _ _ _ on_ _ | .query _ _ _ on_ _ | .group _ _ _ on_ _ => on_

def Relation.using_ : Relation → List Name
  | .table _ _ _ _ _ u | .call _ _ _ _ _ u | .query _ _ _ _ u | .group _ _ _ _ u => u

def Expr.parts : Nat → Expr → List Expr
  | 0, e => [e]
  | fuel + 1, .binary .and a b => parts fuel a ++ parts fuel b
  | _, e => [e]

def Expr.isZero : Expr → Bool
  | .integer text => text.length ≤ 10 && (match Value.ofLiteral false text with
    | .integer n => n == 0
    | _ => false)
  | _ => false

def Expr.isNever (e : Expr) : Bool :=
  match e with
  | .binary .and _ _ => (e.parts Expr.maxDepth).any Expr.isZero
  | _ => false

def Expr.conjuncts (fuel : Nat) (e : Expr) : List Expr := if e.isNever then [.integer "0"] else e.parts fuel

def ordinal (n : Nat) : String :=
  let ending := if n % 100 / 10 = 1 then "th"
    else match n % 10 with
      | 1 => "st"
      | 2 => "nd"
      | 3 => "rd"
      | _ => "th"
  Text.Numeral.ofNat n ++ ending

structure Draft where
  level : Level := {}
  named : List (Name × Window) := []
  aggregates : Array (AggregateCall Term) := #[]
  windows : Array (WindowCall Term) := #[]
  reads : List (Nat × Nat) := []
  deriving Inhabited

structure Names where
  drafts : List Draft := []
  uses : List Position := []
  slots : List Nat := []
  count : Nat := 0
  tables : List (Nat × String) := []
  asked : List (Nat × String) := []
  late : Option String := none
  deriving Inhabited

abbrev Resolver := StateT Names Work

structure Loose where
  select : Select
  origins : Array Origin := #[]
  reads : List (Nat × Nat) := []
  divisible : List (Nat × List Loose) := []

structure Resolved where
  plan : Plan
  arms : List Loose := []
  fields : Array Field := #[]
  names : List String := []
  labels : List (Option String × String) := []
  first : List Typed := []
  last : List Typed := []
  deriving Inhabited

namespace Resolver

def complain {α : Type} (sentence : String) : Resolver α := StateT.lift (Work.complain sentence)

def later (sentence : String) : Resolver Unit := modify fun s => { s with late := s.late <|> some sentence }

def scope : Resolver Scope := return (← get).drafts.map (·.level)

def onDraft (f : Draft → Draft) : Resolver Unit := modify fun s => { s with drafts := s.drafts.modify 0 f }

def draft : Resolver Draft := return (← get).drafts.headD {}

def use (depth place : Nat) : Resolver Unit :=
  modify fun s => { s with uses := ⟨s.drafts.length - 1 - depth, place⟩ :: s.uses }

def read (depth place index : Nat) : Resolver Unit :=
  let note (d : Draft) : Draft :=
    if d.reads.contains (place, index) then d else { d with reads := (place, index) :: d.reads }
  modify fun s => { s with drafts := s.drafts.modify depth note }

def useSlot (depth : Nat) : Resolver Unit :=
  modify fun s => { s with slots := (s.drafts.length - 1 - depth) :: s.slots }

def within {α : Type} (d : Draft) (x : Resolver α) : Resolver (α × Draft) := do
  modify fun s => { s with drafts := d :: s.drafts }
  let a ← x
  let d ← draft
  modify fun s => { s with drafts := s.drafts.drop 1 }
  return (a, d)

def apart {α : Type} (keep : Nat) (x : Resolver α) : Resolver α := do
  let all := (← get).drafts
  modify fun s => { s with drafts := s.drafts.take keep }
  let a ← x
  modify fun s => { s with drafts := s.drafts ++ all.drop keep }
  return a

def enclosed {α : Type} (x : Resolver α) : Resolver (α × Enclosed) := do
  let before ← get
  let height := before.drafts.length
  set { before with uses := [], slots := [], count := before.count + 1 }
  let a ← x
  let after ← get
  let uses := (after.uses.filter fun p => p.level < height).eraseDups
  let slots := after.slots.filter (· < height)
  set { after with uses := uses ++ before.uses, slots := slots ++ before.slots }
  return (a, { number := before.count + 1, readsSlots := !slots.isEmpty
               uses := uses.map fun p => ⟨height - 1 - p.level, p.place⟩ })

def column (depth place index : Nat) : Resolver Typed := do
  use depth place
  read depth place index
  let l := ((← get).drafts[depth]?.map (·.level)).getD {}
  let f := l.field place index
  return { term := .column ⟨depth, place⟩ index, affinity := f.affinity, collating := f.collation.map (⟨·, false⟩)
           type := f.type, column := some f.name, table := ((l.origins[place]?).map (·.table)).getD ""
           kinds := .ofAffinity f.affinity }

def meaning (may : Allowance) (name : String) (depth : Nat) (m : Meaning) : Resolver Typed := do
  match m with
  | .field place index => column depth place index
  | .fields choices =>
    let parts ← choices.mapM fun (place, index) => column depth place index
    return { term := .call "coalesce" .binary (parts.map (·.term)), column := some name, kinds := .any }
  | .rowNumber place =>
    use depth place
    let l := ((← get).drafts[depth]?.map (·.level)).getD {}
    let o := l.origins[place]?.getD {}
    let shown := (o.rowField.bind fun i => (o.fields[i]?).map (·.name)).getD "rowid"
    return { term := .rowNumber ⟨depth, place⟩, affinity := .integer, type := "INTEGER",
             column := some shown, table := o.table
             kinds := .ofAffinity .integer }
  | .named t =>
    if t.hasAggregate && !may.aggregates then complain ("misuse of aliased aggregate " ++ name)
    if t.hasWindow && (!may.windows || 0 < depth) then complain ("misuse of aliased window function " ++ name)
    if t.hasAggregate || t.hasWindow then useSlot depth
    for p in t.term.uses Expr.maxDepth do use (depth + p.level) p.place
    return { t with term := if depth = 0 then t.term else .outside depth t.term, column := none }

def checkCollating (c : Option Collating) : Resolver Unit := do
  match c with
  | some c => if (Collation.ofName? c.name).isNone then later ("no such collation sequence: " ++ c.name)
  | none => return

def comparison (a b : Typed) : Resolver Comparison := do
  checkCollating (Typed.collatingOf a b)
  return Typed.comparison a b

def sortKey (t : Typed) (isDescending : Bool) (nullsFirst : Option Bool) : Resolver (SortKey Term) := do
  checkCollating t.collating
  return { term := t.term, collation := t.collation, isDescending, nullsFirst }

end Resolver

namespace Typed

def writtenIn (parts : List Typed) : Option Collating :=
  parts.findSome? fun t => t.collating.filter (·.isWritten)

def ofParts (term : Term) (parts : List Typed) : Typed where
  term := term
  collating := writtenIn parts
  hasAggregate := parts.any (·.hasAggregate)
  hasWindow := parts.any (·.hasWindow)

end Typed

end FormCompiler.Database
