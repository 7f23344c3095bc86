import FormCompiler.Database.Query.Naming

namespace FormCompiler.Database.Planner

def depth : Nat := Expr.maxDepth

inductive Subject where
  | column (i : Nat)
  | number
  | expr (t : Term)

namespace Subject

def same : Subject → Subject → Bool
  | column i, column j => i == j
  | number, number => true
  | expr a, expr b => a.same depth b
  | _, _ => false

end Subject

structure KeyColumn where
  subject : Subject
  collation : Collation := .binary
  affinity : Affinity := .none
  isDescending : Bool := false
  isNullable : Bool := true

structure Key where
  index : Option Index := none
  parts : List KeyColumn
  own : Nat
  isUnique : Bool := false
  condition : List Term := []
  rows : List Int
  width : Int
  isTable : Bool := false

namespace Key

def isNumber (k : Key) : Bool := k.index.isNone

def isPrimary (k : Key) : Bool := k.index.any fun x => x.origin = .primaryKey

def isStrict (k : Key) : Bool := k.isUnique && (k.parts.take k.own).all fun p => !p.isNullable

def hasColumn (k : Key) (i : Nat) : Bool :=
  k.isTable || k.parts.any fun p => match p.subject with
    | .column j => i == j
    | _ => false

def rowsAfter (k : Key) (n : Nat) : Int := (k.rows[n]?).getD 0

end Key

structure Supply where
  needs : List Nat
  cost : Int
  rows : Int

structure Stage where
  places : List Nat
  rows : Int := 200
  width : Int := 1
  keys : List Key := []
  affinities : List Affinity := []
  collations : List Collation := []
  used : List Nat := []
  rowColumn : Option Nat := none
  hasNumbers : Bool := true
  join : Join := {}
  isTable : Bool := false
  isStreamed : Bool := false
  mayBeIndexed : Bool := false
  supply : Option Supply := none
  hint : Hint := .nothing
  hasSamples : Bool := false

namespace Stage

def isOuter (s : Stage) : Bool := s.join.isLeft || s.join.isRight

end Stage

inductive Test where
  | equal
  | same
  | less
  | lessOrEqual
  | greater
  | greaterOrEqual
  | isNull
  | among (count : Int)
  | either (arms : List (List Term))
  | other

namespace Test

def isEquality : Test → Bool
  | equal | same => true
  | _ => false

def isNullTest : Test → Bool
  | isNull => true
  | _ => false

def isAmong : Test → Bool
  | among _ => true
  | _ => false

def isLower : Test → Bool
  | greater | greaterOrEqual => true
  | _ => false

def isUpper : Test → Bool
  | less | lessOrEqual => true
  | _ => false

def isRange (t : Test) : Bool := t.isLower || t.isUpper

def swapped : Test → Test
  | less => greater
  | lessOrEqual => greaterOrEqual
  | greater => less
  | greaterOrEqual => lessOrEqual
  | t => t

def ofOperator? : BinaryOp → Option Test
  | .eq => some equal
  | .is => some same
  | .lt => some less
  | .le => some lessOrEqual
  | .gt => some greater
  | .ge => some greaterOrEqual
  | _ => none

end Test

structure Clause where
  term : Term
  subject : Option (Nat × Subject) := none
  test : Test := .other
  how : Comparison := {}
  object : Option Term := none
  needs : List Nat := []
  stages : List Nat := []
  parent : Option Nat := none
  isEquivalence : Bool := false
  isPresence : Bool := false
  isPaired : Bool := false
  joins : Option Nat := none

namespace Clause

def fits (c : Clause) (affinity : Affinity) : Bool :=
  match c.how.affinity with
  | .none | .blob => true
  | .text => affinity = .text
  | _ => affinity = .numeric || affinity = .integer || affinity = .real

end Clause

variable (stages : List Stage)

def stagesOf (t : Term) : List Nat :=
  ((((t.uses depth).filter fun p => p.level = 0).filterMap fun p => stages.findIdx? fun s =>
    s.places.contains p.place)).eraseDups

def subjectOf? (t : Term) : Option (Nat × Subject) :=
  let at_ (place : Nat) : Option (Nat × Stage) :=
    (stages.findIdx? fun s => s.places == [place]).bind fun i => (stages[i]?).map (i, ·)
  match t with
  | .column p i =>
    if p.level != 0 then none
    else (at_ p.place).map fun (k, s) => (k, if s.rowColumn == some i then .number else .column i)
  | .rowNumber p => if p.level != 0 then none else (at_ p.place).map fun (k, _) => (k, .number)
  | .value _ | .parameter _ => none
  | t =>
    let isPart (p : KeyColumn) : Bool := match p.subject with
      | .expr e => e.same depth t
      | _ => false
    (stages.findIdx? fun s => s.keys.any fun k => k.parts.any isPart).map (·, .expr t)

def affinityOf? : Nat × Subject → Option Affinity
  | (k, .column i) => (stages[k]?).bind (·.affinities[i]?)
  | (_, .number) => some .integer
  | _ => none

def areAlike (a b : Option Affinity) : Bool :=
  let isNumeric (x : Option Affinity) : Bool := x == some .numeric || x == some .integer || x == some .real
  a == b || (isNumeric a && isNumeric b)

def comparisons (base : Clause) (test : Test) (how : Comparison) (a b : Term) : Clause × List Clause :=
  let left := stagesOf stages a
  let right := stagesOf stages b
  let isApart := !left.any right.contains
  let x := if isApart then subjectOf? stages a else none
  let y := if isApart then subjectOf? stages b else none
  let all := (left ++ right).eraseDups
  let base := { base with stages := all, how }
  match x, y with
  | some s, some r =>
    let isEquivalence := test.isEquality && base.joins.isNone && areAlike (affinityOf? stages s) (affinityOf? stages r)
      && how.collation == .binary
    ({ base with subject := x, test, object := some b, needs := right, isEquivalence },
      [{ base with subject := y, test := test.swapped, object := some a, needs := left, isEquivalence }])
  | some _, none => ({ base with subject := x, test, object := some b, needs := right }, [])
  | none, some _ => ({ base with subject := y, test := test.swapped, object := some a, needs := left }, [])
  | none, none => (base, [])

def armsOf : Nat → Term → List (List Term)
  | 0, t => [[t]]
  | fuel + 1, .binary .or a b => armsOf fuel a ++ armsOf fuel b
  | fuel + 1, t => [conjunctsOf fuel t]
where
  conjunctsOf : Nat → Term → List Term
    | 0, t => [t]
    | fuel + 1, .binary .and a b => conjunctsOf fuel a ++ conjunctsOf fuel b
    | _, t => [t]

def stem? (pattern : ByteArray) (wildcards : List UInt8) : Option (List UInt8) :=
  let stem := pattern.toList.takeWhile fun b => !wildcards.contains b
  if stem.isEmpty || stem.getLast? == some 255 then none else some stem

def analyze (foldsCase : Bool) (joins : Option Nat) (t : Term) : Clause × List Clause :=
  let base : Clause := { term := t, joins, stages := stagesOf stages t }
  let (first, more) := simply stages foldsCase base t
  let before := (joins.map List.range).getD []
  let outward (c : Clause) : Clause :=
    { c with needs := (c.needs ++ before).eraseDups, stages := (c.stages ++ joins.toList).eraseDups }
  (outward first, more.map outward)
where
  simply (stages : List Stage) (foldsCase : Bool) (base : Clause) (t : Term) : Clause × List Clause :=
  let joins := base.joins
  match t with
  | .compare op how a b =>
    match Test.ofOperator? op with
    | some test => comparisons stages base test how a b
    | none => (base, [])
  | .binary .and (.compare .ge h a b) (.compare .le g _ c) =>
    let low := comparisons stages base .greaterOrEqual h a b
    let high := comparisons stages base .lessOrEqual g a c
    (base, low.1 :: low.2 ++ (high.1 :: high.2))
  | .compareRows .eq how (.vector xs) (.vector ys) =>
    (base, ((how.zip xs).zip ys).flatMap fun ((h, x), y) =>
      let (c, more) := comparisons stages base .equal h x y
      c :: more)
  | .unary .isNull a => ({ base with subject := subjectOf? stages a, test := .isNull }, [])
  | .unary .notNull a =>
    match subjectOf? stages a with
    | some (k, .column i) =>
      if joins.isSome then (base, [])
      else (base, [{ base with
        subject := some (k, .column i), test := .greater, object := some (.value .null), isPresence := true }])
    | _ => (base, [])
  | .inList false how a items =>
    let needs := (items.flatMap (stagesOf stages)).eraseDups
    if (stagesOf stages a).any needs.contains then (base, [])
    else ({ base with subject := subjectOf? stages a, test := .among (Estimate.ofNat items.length), how, needs }, [])
  | .inQuery false [how] a e _ =>
    let used := (e.uses.filter fun p => p.level = 0).filterMap fun p => stages.findIdx? fun s =>
      s.places.contains p.place
    if (stagesOf stages a).any used.contains then (base, [])
    else ({ base with subject := subjectOf? stages a, test := .among 46, how, needs := used.eraseDups }, [])
  | .call name _ [.value (.text pattern), x] =>
    let wildcards : List UInt8 := if name == "glob" then [42, 63, 91] else [37, 95]
    match (if name == "glob" || name == "like" then stem? pattern wildcards else none), subjectOf? stages x with
    | some stem, some (k, .column i) =>
      let collation : Collation := if name == "like" && foldsCase then .noCase else .binary
      if ((stages[k]?).bind (·.affinities[i]?)) != some .text &&
        (stem.head?.any fun b => (48 ≤ b && b ≤ 57) || b == 45 || b == 43 || b == 46)
      then (base, [])
      else
        let one : Clause := { base with subject := some (k, .column i), how := { collation }, isPaired := true }
        let object : Option Term := some (.value (.text stem.toByteArray))
        (base, [{ one with test := .greaterOrEqual, object }, { one with test := .less, object }])
    | _, _ => (base, [])
  | .binary .or _ _ =>
    let arms := armsOf depth t
    let simple := arms.filterMap fun arm =>
      match arm with
      | [.compare .eq how a b] =>
        let (c, more) := comparisons stages base .equal how a b
        if more.isEmpty && c.subject.isSome then some c else none
      | _ => none
    let sameAll : Bool := match simple with
      | c :: rest => simple.length == arms.length && rest.all fun o =>
          match c.subject, o.subject with
          | some (k, s), some (l, r) => k == l && s.same r && c.how == o.how
          | _, _ => false
      | [] => false
    match simple, sameAll with
    | c :: _, true =>
      (base, [{ c with test := .among (Estimate.ofNat arms.length), object := none
                       needs := (simple.flatMap (·.needs)).eraseDups, term := t, stages := base.stages }])
    | _, _ => ({ base with test := .either arms }, [])
  | _ => (base, [])

def clausesOf (foldsCase : Bool) (terms : List (Term × Option Nat)) : Array Clause × Nat :=
  let found := terms.map fun (t, joins) => analyze stages foldsCase joins t
  let bases := found.map (·.1)
  let derived := found.zipIdx.flatMap fun ((_, more), i) => more.map fun c => { c with parent := some i }
  ((bases ++ derived).toArray, bases.length)

def impliesPresence : Nat → Term → Term → Bool
  | 0, _, _ => false
  | fuel + 1, t, x =>
    if t.same depth x then true
    else
      match t with
      | .compare op _ a b => op != .is && op != .isNot && (impliesPresence fuel a x || impliesPresence fuel b x)
      | .binary op a b => op != .and && op != .or && (impliesPresence fuel a x || impliesPresence fuel b x)
      | .inList false _ a _ => impliesPresence fuel a x
      | .unary .notNull a => impliesPresence fuel a x
      | .unary .minus a | .unary .plus a => impliesPresence fuel a x
      | _ => false

def implied (terms : List Term) (condition : Term) : Bool :=
  terms.any fun t => t.same depth condition ||
    match condition with
    | .unary .notNull x => impliesPresence 50 t x
    | _ => false

end FormCompiler.Database.Planner
