import FormCompiler.Database.Schema.Basic

namespace FormCompiler.Database

structure Field where
  name : String
  affinity : Affinity := .none
  collation : Option String := none
  type : String := ""
  isHidden : Bool := false
  deriving Inhabited

structure Comparison where
  affinity : Affinity := .none
  collation : Collation := .binary
  deriving DecidableEq, Inhabited

structure Position where
  level : Nat
  place : Nat
  deriving DecidableEq, Inhabited

structure Enclosed where
  number : Nat := 0
  uses : List Position := []
  readsSlots : Bool := false
  deriving DecidableEq, Inhabited

def Enclosed.isFixed (e : Enclosed) : Bool := e.uses.isEmpty && !e.readsSlots

inductive TermOf (π : Type) where
  | value (v : Value)
  | parameter (n : Nat)
  | column (p : Position) (index : Nat)
  | rowNumber (p : Position)
  /-- A value that has been computed for a group. -/
  | slot (level index : Nat)
  /-- A value that has been computed for a window of the query itself. -/
  | windowed (index : Nat)
  /-- A term of a query further out. -/
  | outside (depth : Nat) (t : TermOf π)
  /-- A term of a query further in that asks only for what is outside of it. -/
  | inside (depth : Nat) (t : TermOf π)
  | unary (op : UnaryOp) (a : TermOf π)
  | binary (op : BinaryOp) (a b : TermOf π)
  | compare (op : BinaryOp) (how : Comparison) (a b : TermOf π)
  | compareRows (op : BinaryOp) (how : List Comparison) (a b : TermOf π)
  /-- Whether a value is true, or whether it is false. -/
  | isTruth (negated word : Bool) (a : TermOf π)
  | inList (negated : Bool) (how : Comparison) (a : TermOf π) (items : List (TermOf π))
  | inQuery (negated : Bool) (how : List Comparison) (a : TermOf π) (e : Enclosed) (q : π)
  | cast (a : TermOf π) (affinity : Affinity)
  | call (name : String) (collation : Collation) (args : List (TermOf π))
  | vector (items : List (TermOf π))
  | query (width : Nat) (e : Enclosed) (q : π)
  | exists_ (e : Enclosed) (q : π)
  | case (base : Option (TermOf π)) (branches : List (Comparison × TermOf π × TermOf π)) (otherwise : Option (TermOf π))
  | raise (action : Conflict) (message : String)

instance {π : Type} : Inhabited (TermOf π) := ⟨.value .null⟩

structure SortKey (τ : Type) where
  term : τ
  collation : Collation := .binary
  isDescending : Bool := false
  nullsFirst : Option Bool := none

structure AggregateCall (τ : Type) where
  name : String
  shown : String := name
  args : List τ := []
  isDistinct : Bool := false
  order : List (SortKey τ) := []
  filter : Option τ := none
  collation : Collation := .binary

structure WindowCall (τ : Type) where
  function : AggregateCall τ
  partition : List (SortKey τ) := []
  order : List (SortKey τ) := []
  frame : WindowFrame τ := {}

inductive Hint where
  | nothing
  | noIndex
  | index (name : String)
  deriving DecidableEq, Inhabited

def Hint.ofWritten : Option (Option Name) → Hint
  | none => .nothing
  | some none => .noIndex
  | some (some n) => .index n.text

inductive AccessOf (τ : Type) where
  | kept (isReversed : Bool)
  | index (x : Index) (isReversed : Bool)
  | sorted (columns : List (Nat × Collation))
  | parts (items : List (List τ × AccessOf τ))

mutual

inductive RowsOf (τ π : Type) where
  | table (member : Nat) (t : Table) (args : List (Nat × τ)) (hint : Hint)
  | rows (q : π) (e : Enclosed)
  | recent (number : Nat)
  | supplied (name : String) (args : List (Option τ))
  | group (items : List (JoinedOf τ π))

inductive JoinedOf (τ π : Type) where
  | mk (source : RowsOf τ π) (join : Join) (start : Nat) (widths : List Nat) (conditions : List τ) (access : AccessOf τ)

end

namespace JoinedOf

variable {τ π : Type}

def source : JoinedOf τ π → RowsOf τ π
  | .mk s _ _ _ _ _ => s

def join : JoinedOf τ π → Join
  | .mk _ j _ _ _ _ => j

def start : JoinedOf τ π → Nat
  | .mk _ _ n _ _ _ => n

def width : JoinedOf τ π → Nat
  | .mk _ _ _ widths _ _ => widths.length

def conditions : JoinedOf τ π → List τ
  | .mk _ _ _ _ cs _ => cs

def access : JoinedOf τ π → AccessOf τ
  | .mk _ _ _ _ _ a => a

def adding (terms : List τ) : JoinedOf τ π → JoinedOf τ π
  | .mk s j n widths cs a => .mk s j n widths (cs ++ terms) a

def replaced (s : RowsOf τ π) : JoinedOf τ π → JoinedOf τ π
  | .mk _ j n widths cs a => .mk s j n widths cs a

def joinedBy (j : Join) : JoinedOf τ π → JoinedOf τ π
  | .mk s _ n widths _ a => .mk s j n widths [] a

def accessed (a : AccessOf τ) : JoinedOf τ π → JoinedOf τ π
  | .mk s j n widths cs _ => .mk s j n widths cs a

end JoinedOf

structure SelectOf (τ π : Type) where
  sources : List (JoinedOf τ π) := []
  where_ : List τ := []
  group : Option (List (SortKey τ)) := none
  aggregates : List (AggregateCall τ) := []
  having : Option τ := none
  windows : List (WindowCall τ) := []
  columns : List τ := []
  isDistinct : Bool := false
  collations : List Collation := []
  order : List (SortKey τ) := []
  limit : Option τ := none
  offset : Option τ := none
  inGroups : Bool := false
  estimate : Int := 200

structure CompoundOf (τ π : Type) where
  first : π
  rest : List (Compound × π)
  collations : List Collation := []
  order : List (SortKey Nat) := []
  limit : Option τ := none
  offset : Option τ := none

structure RepeatedOf (τ π : Type) where
  number : Nat
  start : π
  steps : List π
  isDistinct : Bool := false
  collations : List Collation := []
  order : List (SortKey Nat) := []
  limit : Option τ := none
  offset : Option τ := none

inductive Plan where
  | values (rows : List (List (TermOf Plan)))
  | select (s : SelectOf (TermOf Plan) Plan)
  | compound (c : CompoundOf (TermOf Plan) Plan)
  | repeated (r : RepeatedOf (TermOf Plan) Plan)

instance : Inhabited Plan := ⟨.values []⟩

abbrev Term := TermOf Plan
abbrev Select := SelectOf Term Plan
abbrev RowSource := RowsOf Term Plan
abbrev Joined := JoinedOf Term Plan
abbrev Access := AccessOf Term

namespace TermOf

def children {π : Type} : TermOf π → List (TermOf π)
  | .unary _ a | .cast a _ | .isTruth _ _ a | .inQuery _ _ a _ _ => [a]
  | .binary _ a b | .compare _ _ a b | .compareRows _ _ a b => [a, b]
  | .inList _ _ a items => a :: items
  | .call _ _ args => args
  | .vector items => items
  | .case base branches otherwise => base.toList ++ branches.flatMap (fun (_, c, r) => [c, r]) ++ otherwise.toList
  | _ => []

def uses {π : Type} : Nat → TermOf π → List Position
  | 0, _ => []
  | fuel + 1, t =>
    match t with
    | .column p _ | .rowNumber p => [p]
    | .outside n a => (a.uses fuel).map fun p => { p with level := p.level + n }
    | .inside n a => ((a.uses fuel).filter fun p => n ≤ p.level).map fun p => { p with level := p.level - n }
    | .query _ e _ | .exists_ e _ => e.uses
    | .inQuery _ _ a e _ => a.uses fuel ++ e.uses
    | t => t.children.flatMap (uses fuel)

def columns {π : Type} : Nat → TermOf π → List (Nat × Nat)
  | 0, _ => []
  | fuel + 1, t =>
    match t with
    | .column p i => if p.level = 0 then [(p.place, i)] else []
    | t => t.children.flatMap (columns fuel)

def same {π : Type} : Nat → TermOf π → TermOf π → Bool
  | 0, _, _ => false
  | fuel + 1, a, b =>
    let each (xs ys : List (TermOf π)) : Bool := xs.length == ys.length && (xs.zip ys).all fun (x, y) => same fuel x y
    match a, b with
    | .value v, .value w => v.isSame w
    | .parameter n, .parameter m => n == m
    | .column p i, .column q j => p == q && i == j
    | .rowNumber p, .rowNumber q => p == q
    | .slot k i, .slot l j => k == l && i == j
    | .windowed i, .windowed j => i == j
    | .outside k x, .outside l y | .inside k x, .inside l y => k == l && same fuel x y
    | .unary f x, .unary g y => f == g && same fuel x y
    | .binary f x y, .binary g z w => f == g && same fuel x z && same fuel y w
    | .compare f h x y, .compare g k z w => f == g && h == k && same fuel x z && same fuel y w
    | .compareRows f h x y, .compareRows g k z w => f == g && h == k && same fuel x z && same fuel y w
    | .isTruth n w x, .isTruth m u y => n == m && w == u && same fuel x y
    | .inList n h x xs, .inList m k y ys => n == m && h == k && same fuel x y && each xs ys
    | .cast x f, .cast y g => f == g && same fuel x y
    | .call f c xs, .call g d ys => f == g && c == d && each xs ys
    | .vector xs, .vector ys => each xs ys
    | .case x bs o, .case y cs p =>
      each x.toList y.toList && each o.toList p.toList && bs.length == cs.length &&
        (bs.zip cs).all fun ((h, c, r), (k, d, t)) => h == k && same fuel c d && same fuel r t
    | _, _ => false

end TermOf

end FormCompiler.Database
