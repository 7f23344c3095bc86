import FormCompiler.Database.Query.Evaluate

namespace FormCompiler.Database

namespace Tuple

def values (row : Tuple) : List Value := row.toList.map (·.value)

def keys (order : List (SortKey Nat)) (row : Tuple) : List Value :=
  order.map fun k => (row[k.term]?.map (·.value)).getD .null

def kept (row : Tuple) : Tuple := row.map fun m => ⟨m.value, false⟩

end Tuple

def columnKeys (collations : List Collation) : List (SortKey Nat) :=
  collations.zipIdx.map fun (collation, i) => { term := i, collation }

def coveringKeys (order : List (SortKey Nat)) (collations : List Collation) : List (SortKey Nat) :=
  order ++ (columnKeys collations).filter fun k => !order.any fun o => o.term == k.term

def sortTuples (e : Encoding) (order : List (SortKey Nat)) (rows : Array Tuple) : Array Tuple :=
  (sortRows e order (rows.map fun r => (Tuple.keys order r, Tuple.kept r))).map (·.2)

def lastOfEach (same : Tuple → Tuple → Bool) (rows : Array Tuple) : Array Tuple :=
  (rows.mapIdx fun i r => (r, (rows[i + 1]?).any (same r))).filterMap fun (r, isRepeated) => if isRepeated then
    none else some r

def combine (op : Compound) (collations : List Collation) (left right : Stream Tuple) : Stream Tuple :=
  match op with
  | .unionAll => left.append right
  | op =>
    .after (do
      let e := (← get).encoding
      let keys := columnKeys collations
      let same (a b : Tuple) : Bool := orderRows e keys a.values b.values == .eq
      let distinct (rows : Array Tuple) : Array Tuple := lastOfEach same (sortTuples e keys rows)
      let a ← left.toArray
      let b ← right.toArray
      let key (r : Tuple) : ByteArray := Value.rowKey collations r.values
      let others : Std.HashSet ByteArray := b.foldl (fun s r => s.insert (key r)) {}
      return match op with
        | .except => (distinct a).filter fun r => !others.contains (key r)
        | .intersect => (distinct a).filter fun r => others.contains (key r)
        | _ => distinct (a ++ b)) .ofArray

def merge (op : Compound) (order : Tuple → Tuple → Ordering) : Nat → List Tuple → List Tuple → List Tuple → List Tuple
  | 0, _, _, found => found.reverse
  | fuel + 1, as, bs, found =>
    let put (r : Tuple) : List Tuple :=
      if op != .unionAll && found.head?.any (fun p => order p r == .eq) then found else r :: found
    match as, bs with
    | [], [] => found.reverse
    | a :: as, [] => merge op order fuel as [] (if op = .intersect then found else put a)
    | [], b :: bs => if op = .union || op = .unionAll then merge op order fuel [] bs (put b) else found.reverse
    | a :: as', b :: bs' =>
      match order a b, op with
      | .lt, .intersect => merge op order fuel as' bs found
      | .lt, _ => merge op order fuel as' bs (put a)
      | .gt, .union | .gt, .unionAll => merge op order fuel as bs' (put b)
      | .gt, _ => merge op order fuel as bs' found
      | .eq, .unionAll => merge op order fuel as' bs (put a)
      | .eq, .intersect => merge op order fuel as' bs (put a)
      | .eq, _ => merge op order fuel as' bs found

def combineSorted (e : Encoding) (collations : List Collation) :
    List (SortKey Nat) → Array Tuple → List (Compound × Array Tuple) →
    Array Tuple
  | order, first, [] => sortTuples e order first
  | order, first, (op, rows) :: before =>
    let order := if op = .unionAll then order else coveringKeys order collations
    let left := combineSorted e collations order first before
    let right := sortTuples e order rows
    let compare (a b : Tuple) : Ordering := orderRows e order (Tuple.keys order a) (Tuple.keys order b)
    (merge op compare (left.size + right.size + 1) left.toList right.toList []).toArray

namespace Work

variable (runner : Runner) (env : Env)

def boundValue (t : Term) : Work Int := do
  match (← valueOf runner { env with frames := [] } t).apply .numeric with
  | .integer n => return n
  | _ => refuse .mismatch

def bounded (limit offset : Option Term) (rows : Stream Tuple) : Stream Tuple :=
  match limit with
  | none => rows
  | some t =>
    .after (do
      let n ← boundValue runner env t
      let skip ← if n = 0 then pure 0 else (offset.map (boundValue runner env)).getD (return 0)
      return (n, skip)) fun (n, skip) =>
      if n = 0 then .empty
      else if n < 0 then rows.drop skip.toNat
      else (rows.drop skip.toNat).take n.toNat

def compoundRows (c : CompoundOf Term Plan) : Stream Tuple :=
  let rows :=
    if c.order.isEmpty then
      c.rest.foldl (fun left (op, q) => combine op c.collations left (runner.rows env q)) (runner.rows env c.first)
    else
      .after (do
        let first ← (runner.rows env c.first).toArray
        let rest ← c.rest.mapM fun (op, q) => do return (op, ← (runner.rows env q).toArray)
        return combineSorted (← get).encoding c.collations c.order first rest.reverse) .ofArray
  bounded runner env c.limit c.offset rows

structure Waiting where
  front : List Tuple := []
  back : List Tuple := []

namespace Waiting

def push (w : Waiting) (row : Tuple) : Waiting := { w with back := row :: w.back }

def pop? (w : Waiting) (order : Option (Tuple → Tuple → Ordering)) : Option (Tuple × Waiting) :=
  match order with
  | none =>
    match w.front with
    | row :: front => some (row, { w with front })
    | [] =>
      match w.back.reverse with
      | row :: front => some (row, { front })
      | [] => none
  | some order =>
    match w.front ++ w.back.reverse with
    | [] => none
    | row :: rest =>
      let (_, best) := rest.zipIdx.foldl (fun (found : Tuple × Nat) (r, i) =>
        if order r found.1 == .lt then (r, i + 1) else found) (row, 0)
      let all := row :: rest
      some (all.getD best row, { front := all.eraseIdx best })

end Waiting

def mostRows : Nat := 100000000

def repeatRows {σ : Type} (next : Tuple → Stream Tuple) (key : Option (Tuple → ByteArray))
    (order : Option (Tuple → Tuple → Ordering))
    (f : σ → Tuple → Work (Flow σ)) : Nat → Waiting → Std.HashSet ByteArray → σ → Work (Flow σ)
  | 0, _, _, s => return .more s
  | fuel + 1, waiting, seen, s => do
    match waiting.pop? order with
    | none => return .more s
    | some (row, waiting) =>
      match ← f s row with
      | .done s => return .done s
      | .more s =>
        let (waiting, seen) ← enqueue key (next row) waiting seen
        repeatRows next key order f fuel waiting seen s
where
  enqueue (key : Option (Tuple → ByteArray)) (rows : Stream Tuple) (waiting : Waiting) (seen : Std.HashSet ByteArray) :
      Work (Waiting × Std.HashSet ByteArray) := do
    let found ← rows.fold (fun ((w, seen) : Waiting × Std.HashSet ByteArray) row => do
      match key with
      | none => return .more (w.push row.kept, seen)
      | some key =>
        let k := key row
        if seen.contains k then return .more (w, seen) else return .more (w.push row.kept, seen.insert k))
          (waiting, seen)
    return found.state

def repeatedRows (r : RepeatedOf Term Plan) : Stream Tuple :=
  let next (row : Tuple) : Stream Tuple :=
    let env := { env with recent := (r.number, row.values.toArray) :: env.recent }
    .concat (r.steps.map (runner.rows env))
  let key : Option (Tuple → ByteArray) :=
    if r.isDistinct then some fun row => Value.rowKey r.collations row.values else none
  let rows : Stream Tuple := ⟨fun f s => do
    let e := (← get).encoding
    let order : Option (Tuple → Tuple → Ordering) :=
      if r.order.isEmpty then none else some fun a b => orderRows e r.order (a.keys r.order) (b.keys r.order)
    let (waiting, seen) ← repeatRows.enqueue key (runner.rows env r.start) {} {}
    repeatRows next key order f mostRows waiting seen s⟩
  bounded runner env r.limit r.offset rows

end Work

end FormCompiler.Database
