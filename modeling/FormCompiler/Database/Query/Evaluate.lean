import FormCompiler.Database.Connection.Transaction
import FormCompiler.Database.Query.Frame

namespace FormCompiler.Database

open Store (Obstacle Code)

def Comparison.taken (how : Comparison) (x : Value) : Value :=
  match how.affinity with
  | .none | .blob => x
  | .text => x.apply .text
  | _ => x.apply .numeric

def Comparison.order (how : Comparison) (e : Encoding) (x y : Value) : Ordering :=
  (how.taken x).order how.collation e (how.taken y)

def Comparison.key (how : Comparison) (x : Value) : ByteArray := (how.taken x).keyBytes how.collation

def Comparison.answer (how : Comparison) (e : Encoding) (op : BinaryOp) (x y : Value) : Option Bool :=
  if op != .is && op != .isNot && (x.isNull || y.isNull) then none else some (Value.holds op (how.order e x y))

def compareTuples (e : Encoding) (op : BinaryOp) (how : List Comparison) (xs ys : List Value) : Option Bool :=
  let parts := (how.zip xs).zip ys
  let all (op : BinaryOp) : Option Bool :=
    parts.foldl (fun (r : Option Bool) ((h, x), y) => Value.both r (h.answer e op x y)) (some true)
  match op with
  | .eq | .is => all op
  | .ne => (all .eq).map (!·)
  | .isNot => (all .is).map (!·)
  | _ => go parts
where
  go : List ((Comparison × Value) × Value) → Option Bool
    | [] => none
    | [((h, x), y)] => h.answer e op x y
    | ((h, x), y) :: rest =>
      if x.isNull || y.isNull then none
      else
        match h.order e x y with
        | .eq => go rest
        | o => some (Value.holds op o)

namespace Work

def remember (e : Enclosed) (x : Work Remembered) : Work Remembered := do
  if !e.isFixed then x
  else
    match (← get).remembered[e.number]? with
    | some r => return r
    | none =>
      let r ← x
      modify fun c => { c with remembered := c.remembered.insert e.number r }
      return r

def amongRows (how : List Comparison) (rows : Array Tuple) : Remembered :=
  let values (row : Tuple) : List Value := (row.toList.zip how).map fun (m, h) => m.value.apply h.affinity
  let collations := how.map (·.collation)
  rows.foldl (fun (r : Remembered) row =>
    let vs := values row
    let noted := (vs.map fun v => (v, false)).toArray
    if vs.any Value.isNull then { r with rows := r.rows.push noted, hasNull := true }
    else { r with rows := r.rows.push noted, keys := r.keys.insert (Value.rowKey collations vs) }) {}

def isAmong (e : Encoding) (how : List Comparison) (r : Remembered) (xs : List Value) : Option Bool :=
  let xs := (xs.zip how).map fun (x, h) => x.apply h.affinity
  let isNull := xs.any Value.isNull
  if r.rows.isEmpty then some false
  else if !isNull && r.keys.contains (Value.rowKey (how.map (·.collation)) xs) then some true
  else if !isNull && !r.hasNull then some false
  else
    r.rows.foldl (fun (found : Option Bool) row =>
      let same := ((xs.zip how).zip row.toList).foldl (fun (s : Option Bool) ((x, h), y) =>
        Value.both s (if x.isNull || y.1.isNull then none else some (x.order h.collation e y.1 == .eq))) (some true)
      Value.either found same) (some false)

def extreme (order : Value → Value → Ordering) (wanted : Ordering) (values : List Json.Marked) : Json.Marked :=
  if values.any (·.value.isNull) then ⟨.null, false⟩
  else values.tail.foldl (fun (m : Json.Marked) v => if order v.value m.value == wanted then v else m)
    (values.headD ⟨.null, false⟩)

def maxLength : Int := 1000000000

def callFunction (name : String) (collation : Collation) (args : List Json.Marked) : Work Json.Marked := do
  let c ← get
  let order := Value.order collation c.encoding
  let plain (v : Value) : Work Json.Marked := return ⟨v, false⟩
  match name, args with
  | "max", args => return extreme order .gt args
  | "min", args => return extreme order .lt args
  | "nullif", [a, b] =>
    if !a.value.isNull && !b.value.isNull && order a.value b.value == .eq then plain .null else return a
  | "zeroblob", [v] | "randomblob", [v] =>
    if maxLength < v.value.toInteger then refuse .tooBig
    let least := if name == "randomblob" then 1 else 0
    plain (.blob (Bytes.zeros (min (max least v.value.toInteger).toNat 10000000)))
  | "random", [] => plain (.integer 1804289383846930886)
  | "changes", [] => plain (.integer c.changes)
  | "total_changes", [] => plain (.integer c.totalChanges)
  | "last_insert_rowid", [] => plain (.integer c.lastRow)
  | "subtype", [m] => plain (.integer (if m.isJson then 74 else 0))
  | name, args =>
    if Function.isOfJson name then ofText (Json.apply name args)
    else
      let signs := { Pattern.like with foldsCase := c.likeFoldsCase }
      plain (← ofText (Function.apply c.encoding signs name (args.map (·.value))))

variable (runner : Runner) (env : Env)

def firstRow (e : Enclosed) (q : Plan) : Work Remembered :=
  remember e do
    let row ← (runner.rows env q).first?
    return { rows := (row.map fun row => row.map fun m => (m.value, m.isJson)).toArray }

def rowValues (width : Nat) (r : Remembered) : List Value :=
  (r.rows[0]?.map fun row => row.toList.map (·.1)).getD (List.replicate width .null)

def decideBy (value : Term → Work Value) : Nat → Bool → Term → Work Bool
  | 0, _, _ => return false
  | fuel + 1, onNull, t => do
    match t with
    | .binary .and _ (.value (.integer 0)) => return false
    | .binary .and a b => if ← decideBy value fuel onNull a then decideBy value fuel onNull b else return false
    | .binary .or a b =>
      let isTrue : Bool := match b with
        | .value (.integer n) => n != 0
        | _ => false
      if isTrue then return true
      if ← decideBy value fuel onNull a then return true
      decideBy value fuel onNull b
    | .unary .not a => return !(← decideBy value fuel (!onNull) a)
    | t => return ((← value t).truth?).getD onNull

def eval (runner : Runner) : Nat → Env → Term → Work Json.Marked
  | 0, _, _ => return ⟨.null, false⟩
  | fuel + 1, env, t => do
    let value (t : Term) : Work Value := return (← eval runner fuel env t).value
    let plain (v : Value) : Work Json.Marked := return ⟨v, false⟩
    /- The values of a row. -/
    let tuple (t : Term) : Work (List Value) := do
      match t with
      | .vector items => items.mapM value
      | .query width e q => return rowValues width (← firstRow runner env e q)
      | t => return [← value t]
    match t with
    | .value v => plain v
    | .parameter n => plain (env.parameters[n - 1]?.getD .null)
    | .column p i =>
      let place := env.place p
      return ⟨place.values[i]?.getD .null, place.marks.contains i⟩
    | .rowNumber p => plain (((env.place p).number.map Value.integer).getD .null)
    | .slot level i => return ((env.frames[level]?).bind (·.slots[i]?)).getD ⟨.null, false⟩
    | .windowed i => return ((env.frames.head?).bind (·.windows[i]?)).getD ⟨.null, false⟩
    | .outside depth t => eval runner fuel (env.outside depth) t
    | .inside depth t => eval runner fuel { env with frames := List.replicate depth {} ++ env.frames } t
    | .unary op a =>
      let m ← eval runner fuel env a
      let v := m.value
      match op with
      | .minus => plain v.negate
      | .plus => return m
      | .bitNot => plain (if v.isNull then .null else .integer (-v.toInteger - 1))
      | .not => plain (.ofTruth (v.truth?.map (!·)))
      | .isNull => plain (.ofTruth (some v.isNull))
      | .notNull => plain (.ofTruth (some (!v.isNull)))
    | .binary op a b =>
      let x ← value a
      let y ← value b
      plain (match op with
        | .and => .ofTruth (Value.both x.truth? y.truth?)
        | .or => .ofTruth (Value.either x.truth? y.truth?)
        | op => Value.operate op x y)
    | .compare op how a b =>
      let x ← value a
      let y ← value b
      plain (.ofTruth (how.answer (← get).encoding op x y))
    | .compareRows op how a b =>
      let xs ← tuple a
      let ys ← tuple b
      plain (.ofTruth (compareTuples (← get).encoding op how xs ys))
    | .isTruth negated word a =>
      let v ← value a
      plain (.ofTruth (some ((v.truth? == some word) != negated)))
    | .inList negated how a items =>
      let x ← value a
      let e := (← get).encoding
      let found ← items.foldlM (fun (found : Option Bool) t => do
        if found == some true then return found
        let y ← value t
        let same := if x.isNull || y.isNull then none
          else some ((x.apply how.affinity).order how.collation e (y.apply how.affinity) == .eq)
        return Value.either found same) (some false)
      plain (.ofTruth (found.map (· != negated)))
    | .inQuery negated how a e q =>
      let r ← remember e do return amongRows how (← (runner.rows env q).toArray)
      let xs ← tuple a
      plain (.ofTruth ((isAmong (← get).encoding how r xs).map (· != negated)))
    | .cast a affinity =>
      let v ← value a
      plain (v.cast (← get).encoding affinity)
    | .call name collation args =>
      match name, args with
      | "coalesce", args | "ifnull", args =>
        args.foldlM (fun (found : Json.Marked) t => do
          if found.value.isNull then eval runner fuel env t else return found) ⟨.null, false⟩
      | "iif", [c, a, b] =>
        let isTrue ← decideBy value fuel false c
        eval runner fuel env (if isTrue then a else b)
      | name, .column p _ :: rest =>
        match (env.place p).hit, Function.ofWords.contains name with
        | some h, true => plain (← ofText (h.call name (← rest.mapM value)))
        | _, _ => callFunction name collation (← args.mapM (eval runner fuel env))
      | name, args => callFunction name collation (← args.mapM (eval runner fuel env))
    | .vector items => plain (← (items.head?.map value).getD (return .null))
    | .query _ e q =>
      let r ← firstRow runner env e q
      return ((r.rows[0]?.bind (·[0]?)).map fun n => ⟨n.1, n.2⟩).getD ⟨.null, false⟩
    | .exists_ e q =>
      let r ← remember e do
        return { rows := if (← (runner.rows env q).first?).isSome then #[#[]] else #[] }
      plain (.ofTruth (some !r.rows.isEmpty))
    | .case base branches otherwise =>
      let x ← base.mapM value
      let e := (← get).encoding
      let chosen ← branches.foldlM (fun (chosen : Option Term) (how, c, r) => do
        if chosen.isSome then return chosen
        let holds ← match x with
          | some x => do pure (how.answer e .eq x (← value c) == some true)
          | none => decideBy value fuel false c
        return if holds then some r else none) none
      match chosen <|> otherwise with
      | some t => eval runner fuel env t
      | none => plain .null
    | .raise action message =>
      match action with
      | .ignore => throw .ignored
      | .rollback =>
        rollBackAll
        throw (.detailed (.against .trigger) message)
      | _ => throw (.detailed (.against .trigger) message)

def termDepth : Nat := 5000

def valueOf (t : Term) : Work Value := return (← eval runner termDepth env t).value

def valuesOf : Term → Work (List Value)
  | .vector items => items.mapM (valueOf runner env)
  | .query width e q => return rowValues width (← firstRow runner env e q)
  | t => return [← valueOf runner env t]

def holds (t : Term) : Work Bool := decideBy (valueOf runner env) termDepth false t

end Work

end FormCompiler.Database
