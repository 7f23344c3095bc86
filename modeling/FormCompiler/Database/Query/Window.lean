import FormCompiler.Database.Query.Group

namespace FormCompiler.Database

namespace WindowCall

def sameBound : FrameBound Term → FrameBound Term → Bool
  | .first, .first | .current, .current | .last, .last => true
  | .before a, .before b | .after a, .after b => a.same Work.termDepth b
  | _, _ => false

def sameKeys (a b : List (SortKey Term)) : Bool :=
  a.length == b.length && (a.zip b).all fun (x, y) =>
    x.term.same Work.termDepth y.term && x.collation == y.collation && x.isDescending == y.isDescending
      && x.nullsFirst == y.nullsFirst

def sameWindow (a b : WindowCall Term) : Bool :=
  a.frame.unit == b.frame.unit && sameBound a.frame.start b.frame.start && sameBound a.frame.stop b.frame.stop
    && a.frame.exclusion == b.frame.exclusion && sameKeys a.partition b.partition && sameKeys a.order b.order

end WindowCall

def windowGroups (calls : List (Nat × WindowCall Term)) : Nat → List (List (Nat × WindowCall Term))
  | 0 => []
  | fuel + 1 =>
    match calls with
    | [] => []
    | first :: rest =>
      let (same, others) := rest.partition fun c => c.2.sameWindow first.2
      (first :: same) :: windowGroups others fuel

structure Peers where
  keys : Array (List Value)
  first : Array Nat
  stop : Array Nat
  group : Array Nat
  starts : Array Nat

namespace Peers

def size (p : Peers) : Nat := p.keys.size

def of (same : List Value → List Value → Bool) (keys : Array (List Value)) : Peers :=
  let starts := (Array.range keys.size).filter fun i => i = 0 || !same (keys[i - 1]?.getD []) (keys[i]?.getD [])
  let step (found : Array Nat × Array Nat × Array Nat) (g : Nat) : Array Nat × Array Nat × Array Nat :=
    let a := starts[g]?.getD 0
    let b := starts[g + 1]?.getD keys.size
    let n := b - a
    (found.1 ++ Array.replicate n a, found.2.1 ++ Array.replicate n b, found.2.2 ++ Array.replicate n g)
  let (first, stop, group) := (Array.range starts.size).foldl step (#[], #[], #[])
  { keys, first, stop, group, starts }

def startOf (p : Peers) (g : Int) : Nat := if g < 0 then 0 else p.starts[g.toNat]?.getD p.size

end Peers

structure Distances where
  start : Value := .null
  stop : Value := .null

namespace Work

def checkDistance (unit : FrameUnit) (which : String) (v : Value) : Work Value := do
  let isFit : Bool := match unit, v.apply .numeric with
    | .range, .integer n => 0 ≤ n
    | .range, .real x => 0 ≤ x
    | .range, _ => false
    | _, .integer n => 0 ≤ n
    | _, _ => false
  if !isFit then
    complain ("frame " ++ which ++ " offset must be a non-negative " ++ (if unit = .range then "number" else "integer"))
  return v.apply .numeric

variable (runner : Runner) (env : Env)

def distances (f : WindowFrame Term) : Work Distances := do
  let of_ (which : String) (b : FrameBound Term) : Work Value := do
    match b with
    | .before t | .after t => checkDistance f.unit which (← valueOf runner env t)
    | _ => return .null
  let start ← of_ "starting" f.start
  return { start, stop := ← of_ "ending" f.stop }

/-- The first row whose order to the value at a distance is as wanted. Only numbers have such a value. -/
def rowByValue (isWanted : Ordering → Bool) (e : Encoding) (key : Option (SortKey Term)) (p : Peers) (i : Nat)
    (forward : Bool) (d : Value) : Nat :=
  let down := key.any (·.isDescending)
  let order := orderBy e ((key.map (·.collation)).getD .binary) down (key.bind (·.nullsFirst))
  let v := (p.keys[i]?.getD []).headD .null
  let bound := match v with
    | .integer _ | .real _ => if forward != down then Value.operate .add v d else Value.operate .sub v d
    | v => v
  (p.keys.findIdx? fun k => isWanted (order (k.headD .null) bound)).getD p.size

def startByValue := rowByValue (· != .lt)

def stopByValue := rowByValue (· == .gt)

def frameRange (e : Encoding) (key : Option (SortKey Term)) (f : WindowFrame Term) (d : Distances)
    (p : Peers) (i : Nat) :
    Nat × Nat :=
  let far (v : Value) : Int := v.toInteger
  let group : Int := p.group[i]?.getD 0
  let at_ (n : Int) : Nat := min n.toNat p.size
  let start := match f.unit, f.start with
    | _, .first => 0
    | _, .last => p.size
    | .rows, .current => i
    | _, .current => p.first[i]?.getD 0
    | .rows, .before _ => at_ (i - far d.start)
    | .rows, .after _ => at_ (i + far d.start)
    | .groups, .before _ => p.startOf (group - far d.start)
    | .groups, .after _ => p.startOf (group + far d.start)
    | .range, .before _ => startByValue e key p i false d.start
    | .range, .after _ => startByValue e key p i true d.start
  let stop := match f.unit, f.stop with
    | _, .last => p.size
    | _, .first => 0
    | .rows, .current => i + 1
    | _, .current => p.stop[i]?.getD 0
    | .rows, .before _ => at_ (i - far d.stop + 1)
    | .rows, .after _ => at_ (i + far d.stop + 1)
    | .groups, .before _ => p.startOf (group - far d.stop + 1)
    | .groups, .after _ => p.startOf (group + far d.stop + 1)
    | .range, .before _ => stopByValue e key p i false d.stop
    | .range, .after _ => stopByValue e key p i true d.stop
  (start, max start stop)

def isExcluded (x : Exclusion) (p : Peers) (i j : Nat) : Bool :=
  match x with
  | .nothing => false
  | .current => i == j
  | .group => p.group[i]? == p.group[j]?
  | .ties => i != j && p.group[i]? == p.group[j]?

structure Given where
  args : Array (List Json.Marked)
  counts : Array Bool

def slidingValues (c : WindowCall Term) (p : Peers) (g : Given) (range : Nat → Nat × Nat) :
    Work (Array Json.Marked) := do
  let order := Value.order c.function.collation (← get).encoding
  let name := c.function.name
  let rowsFrom (a b : Nat) : List Nat := (List.range' a (b - a)).filter fun j => g.counts[j]?.getD true
  let add (t : Tally) (j : Nat) : Work Tally := ofText (t.step name order (g.args[j]?.getD []))
  let fresh (i a b : Nat) : Work Tally :=
    ((rowsFrom a b).filter fun j => !isExcluded c.frame.exclusion p i j).foldlM add (.start name)
  let step (found : Array Json.Marked × Tally × Nat × Nat) (i : Nat) :
    Work (Array Json.Marked × Tally × Nat × Nat) := do
    let (values, tally, a, b) := found
    let (a', b') := range i
    let kept : Option Tally :=
      if c.frame.exclusion != .nothing || a' < a || b' < b || b < a' then none
      else (rowsFrom a a').foldlM (fun (t : Tally) j => t.unstep? (g.args[j]?.getD [])) tally
    let tally ← match kept with
      | some t => (rowsFrom b b').foldlM add t
      | none => fresh i a' b'
    return (values.push (← ofText (tally.finish name)), tally, a', b')
  return (← (List.range p.size).foldlM step (#[], .start name, 0, 0)).1

def lookedAt (c : WindowCall Term) (p : Peers) (range : Nat → Nat × Nat) (i : Nat) : List Nat :=
  let (a, b) := range i
  (List.range' a (b - a)).filter fun j => !isExcluded c.frame.exclusion p i j

def tile (n size i : Nat) : Nat :=
  let small := size / n
  if small = 0 then i + 1
  else
    let large := size - n * small
    let front := large * (small + 1)
    if i < front then 1 + i / (small + 1) else 1 + large + (i - front) / small

def windowValue (c : WindowCall Term) (p : Peers) (g : Given) (range : Nat → Nat × Nat) (i : Nat) :
    Work Json.Marked := do
  let plain (v : Value) : Work Json.Marked := return ⟨v, false⟩
  let arg (j k : Nat) : Json.Marked := ((g.args[j]?.getD [])[k]?).getD ⟨.null, false⟩
  let count := (g.args[i]?.getD []).length
  let first := p.first[i]?.getD 0
  match c.function.name with
  | "row_number" => plain (.integer (i + 1))
  | "rank" => plain (.integer (first + 1))
  | "dense_rank" => plain (.integer ((p.group[i]?.getD 0) + 1))
  | "percent_rank" => plain (.real (if p.size ≤ 1 then 0 else Real.ofInt first / Real.ofInt (p.size - 1)))
  | "cume_dist" => plain (.real (Real.ofInt (p.stop[i]?.getD 0) / Real.ofInt p.size))
  | "ntile" =>
    let n := (arg 0 0).value.toInteger
    if n ≤ 0 then complain "argument of ntile must be a positive integer"
    plain (.integer (tile n.toNat p.size i))
  | "lag" | "lead" =>
    let otherwise := if count = 3 then arg i 2 else ⟨.null, false⟩
    let distance := if count = 1 then .integer 1 else (arg i 1).value
    let there := if c.function.name == "lag" then Value.operate .sub (.integer i) distance
      else Value.operate .add (.integer i) distance
    match there.apply .numeric with
    | .integer j => return if 0 ≤ j && j < p.size then arg j.toNat 0 else otherwise
    | _ => return otherwise
  | "first_value" => return ((lookedAt c p range i).head?.map fun j => arg j 0).getD ⟨.null, false⟩
  | "last_value" => return ((lookedAt c p range i).getLast?.map fun j => arg j 0).getD ⟨.null, false⟩
  | "nth_value" =>
    match (arg i 1).value.apply .numeric with
    | .integer n =>
      if n ≤ 0 then complain "second argument to nth_value must be a positive integer"
      return ((lookedAt c p range i)[n.toNat - 1]?.map fun j => arg j 0).getD ⟨.null, false⟩
    | _ => complain "second argument to nth_value must be a positive integer"
  | _ => plain .null

def windowValues (c : WindowCall Term) (frames : Array Frame) (p : Peers) : Work (Array Json.Marked) := do
  let e := (← get).encoding
  let args ← frames.mapM fun f => c.function.args.mapM (eval runner termDepth (env.inside f))
  let counts ← frames.mapM fun f =>
    match c.function.filter with
    | some t => holds runner (env.inside f) t
    | none => return true
  let g : Given := { args, counts }
  let d ← distances runner env c.frame
  let range := frameRange e c.order.head? c.frame d p
  match Function.find c.function.name c.function.args.length with
  | .found f =>
    if f.kind = .window then (Array.range frames.size).mapM (windowValue c p g range) else slidingValues c p g range
  | _ => return frames.map fun _ => ⟨.null, false⟩

def noteWindow (calls : List (Nat × WindowCall Term)) (frames : Array Frame) : Work (Array Frame) := do
  match calls with
  | [] => return frames
  | (_, w) :: _ =>
    let e := (← get).encoding
    let keys := w.partition ++ w.order
    let keyed ← frames.mapM fun f => do
      return (← keys.mapM fun k => valueOf runner (env.inside f) k.term, f)
    let sorted := if keys.isEmpty then keyed else sortRows e keys keyed
    let n := w.partition.length
    let samePart (a b : List Value) : Bool := orderRows e w.partition (a.take n) (b.take n) == .eq
    let sameKey (a b : List Value) : Bool := orderRows e w.order a b == .eq
    let parts := Peers.of samePart (sorted.map (·.1))
    let pieces := (List.range parts.starts.size).map fun (k : Nat) =>
      sorted.extract (parts.startOf k) (parts.startOf (k + 1))
    let done ← pieces.mapM fun piece => do
      let p := Peers.of sameKey (piece.map fun row => row.1.drop n)
      let members := piece.map (·.2)
      calls.foldlM (fun (noted : Array Frame) (index, c) => do
        let values ← windowValues runner env c members p
        return (noted.zip values).map fun (f, v) => { f with windows := f.windows.setIfInBounds index v }) members
    return done.foldl (· ++ ·) #[]

def windowed (calls : List (WindowCall Term)) (frames : Stream Frame) : Stream Frame :=
  if calls.isEmpty then frames
  else
    .after (do
      let blank := Array.replicate calls.length (⟨.null, false⟩ : Json.Marked)
      let all ← (frames.map fun f => { f with windows := blank }).toArray
      let numbered := calls.zipIdx.map fun (c, i) => (i, c)
      (windowGroups numbered calls.length).reverse.foldlM (fun frames group => noteWindow runner env group frames) all)
      Stream.ofArray

end Work

end FormCompiler.Database
