import FormCompiler.Database.Query.Resolve.Call

namespace FormCompiler.Database

structure Operand where
  typed : Typed
  parts : List Typed

namespace Operand

def single (t : Typed) : Operand := ⟨t, [t]⟩

end Operand

abbrev LookInside := Query → Resolver Resolved

namespace Resolver

def literal (v : Value) : Typed :=
  { term := .value v
    kinds := match v with
      | .null => {}
      | .text _ => { text := true }
      | .blob _ => { blob := true }
      | _ => { number := true } }

def one (o : Operand) : Resolver Typed := do
  match o.typed.term with
  | .vector _ => later "row value misused"
  | .query n _ _ =>
    if n != 1 then later ("sub-select returns " ++ Text.Numeral.ofNat n ++ " columns - expected 1")
  | _ => pure ()
  return o.typed

def subquery (inside : LookInside) (q : Query) : Resolver Operand := do
  let (r, e) ← enclosed (inside q)
  let first := r.last.headD {}
  return ⟨{ term := .query r.last.length e r.plan, affinity := first.affinity, type := first.type
            kinds := .ofAffinity first.affinity }, r.last⟩

def compare (op : BinaryOp) (a b : Operand) : Resolver Typed := do
  match a.parts, b.parts with
  | [_], [_] =>
    let x ← one a
    let y ← one b
    return .ofParts (.compare op (← comparison x y) x.term y.term) [x, y]
  | xs, ys =>
    if xs.length != ys.length then complain "row value misused"
    let how ← (xs.zip ys).mapM fun (x, y) => comparison x y
    return .ofParts (.compareRows op how a.typed.term b.typed.term) (xs ++ ys)

def among (inside : LookInside) (negated : Bool) (a : Unit → Resolver Operand) (q : Query) : Resolver Typed := do
  let (r, e) ← enclosed (inside q)
  let a ← a ()
  let n := a.parts.length
  if r.last.length != n then
    later ("sub-select returns " ++ Text.Numeral.ofNat r.last.length ++ " columns - expected " ++ Text.Numeral.ofNat n)
  let how ← (a.parts.zip r.last).mapM fun (x, y) => do
    checkCollating (Typed.collatingOf x y)
    let c := Typed.comparison x y
    pure { c with affinity := Scope.comparisonAffinity y.affinity x.affinity }
  return .ofParts (.inQuery negated how a.typed.term e r.plan) a.parts

def listed (negated : Bool) (a : Typed) (items : List Typed) : Resolver Typed := do
  checkCollating a.collating
  let how : Comparison := ⟨a.affinity, a.collation⟩
  return .ofParts (.inList negated how a.term (items.map (·.term))) (a :: items)

def rowsOf (width : Nat) (items : List Expr) : Resolver Query := do
  let rows ← items.mapM fun
    | .vector es => do
      if es.length != width then wrong es.length
      pure es
    | e => do
      wrong 1
      pure [e]
  return .mk [] (.values rows) []
where
  wrong (n : Nat) : Resolver Unit :=
    complain ("IN(...) element has " ++ Text.Numeral.ofNat n ++ " term" ++ (if n = 1 then "" else "s") ++
      " - expected " ++ Text.Numeral.ofNat width)

def name (may : Allowance) (d t : Option Name) (n : Name) : Resolver Typed := do
  match Scope.find (← scope) d t n with
  | .error m => complain m
  | .ok (some (depth, m)) => meaning may n.text depth m
  | .ok none =>
    match Scope.other? t n with
    | some v =>
      let word := match v with
        | .integer k => some (k == 1)
        | _ => none
      return { literal v with word }
    | none => complain ("no such column: " ++ Scope.shown (d.map (·.text)) (t.map (·.text)) n.text)

def unary (op : UnaryOp) (a : Typed) : Typed :=
  match op with
  | .plus => { a with affinity := .none, type := "", column := none, word := none }
  | op => .ofParts (.unary op a.term) [a]

def binary (op : BinaryOp) (a b : Typed) : Typed :=
  match op with
  | .arrow => { Typed.ofParts (.call "->" .binary [a.term, b.term]) [a, b] with kinds := .any }
  | .longArrow => { Typed.ofParts (.call "->>" .binary [a.term, b.term]) [a, b] with kinds := .any }
  | .concat => { Typed.ofParts (.binary op a.term b.term) [a, b] with kinds := { text := true, blob := true } }
  | op => .ofParts (.binary op a.term b.term) [a, b]

def allOf (table : FullName) (args : List Expr) : Query :=
  let r : Relation := if args.isEmpty then .table {} table none none none [] else .call {} table args none none []
  .mk [] (.select false [.all] [r] none [] none [] [] none none) []

def operand (inside : LookInside) (inTrigger : Bool) : Nat → Allowance → Expr → Resolver Operand
  | 0, _, _ => complain "Expression tree is too large (maximum depth 1000)"
  | fuel + 1, may, e => do
    let look (e : Expr) : Resolver Typed := do one (← operand inside inTrigger fuel may e)
    let lookAt (may : Allowance) (e : Expr) : Resolver Typed := do one (← operand inside inTrigger fuel may e)
    match e with
    | .null => return .single (literal .null)
    | .integer text =>
      if Value.isTooLong text then later ("hex literal too big: " ++ text)
      return .single (literal (.ofLiteral false text))
    | .float text => return .single (literal (.real (Value.ofDecimal text)))
    | .string s => return .single (literal (.text s))
    | .blob b => return .single (literal (.blob b))
    | .now what => return .single (← scalar (what.map Char.toLower) [])
    | .parameter n => return .single { term := .parameter n, kinds := .any }
    | .column d t n => return .single (← name may d t n)
    | .unary .minus (.integer text) =>
      if Value.isTooLong text then later ("hex literal too big: -" ++ text)
      return .single (literal (.ofLiteral true text))
    | .unary .minus (.float text) => return .single (literal (.real (-(Value.ofDecimal text))))
    | .unary op a => return .single (unary op (← look a))
    | .binary op a b =>
      if e.isNever then return .single (literal (.integer 0))
      else if op.compares then
        let x ← operand inside inTrigger fuel may a
        let y ← operand inside inTrigger fuel may b
        match op, y.typed.word with
        | .is, some w => return .single (.ofParts (.isTruth false w (← one x).term) [x.typed])
        | .isNot, some w => return .single (.ofParts (.isTruth true w (← one x).term) [x.typed])
        | op, _ => return .single (← compare op x y)
      else
        let x ← look a
        return .single (binary op x (← look b))
    | .like op negated a b escape =>
      if op == "regexp" then complain "no such function: REGEXP"
      let x ← look a
      let y ← look b
      let c ← escape.mapM look
      if escape.isSome && op != "like" then
        complain ("wrong number of arguments to function " ++ op.map Char.toUpper ++ "()")
      let t ← scalar op (y :: x :: c.toList)
      return .single (if negated then unary .not t else t)
    | .between negated a low high =>
      let x ← operand inside inTrigger fuel may a
      let y ← operand inside inTrigger fuel may low
      let z ← operand inside inTrigger fuel may high
      let from_ ← compare .ge x y
      let to_ ← compare .le x z
      let both := binary .and from_ to_
      return .single (if negated then unary .not both else both)
    | .inList negated a items =>
      match a, items with
      | _, [] => return .single (literal (.integer (if negated then 1 else 0)))
      | .vector es, items =>
        let q ← rowsOf es.length items
        return .single (← among inside negated (fun _ => operand inside inTrigger fuel may a) q)
      | a, [e] =>
        let x ← operand inside inTrigger fuel may a
        let y ← look e
        if e.isLiteral then
          let t ← compare (if negated then .ne else .eq) x (.single (unary .plus y))
          return .single t
        else return .single (← listed negated (← one x) [y])
      | a, items =>
        let x ← look a
        return .single (← listed negated x (← items.mapM look))
    | .inQuery negated a q =>
      return .single (← among inside negated (fun _ => operand inside inTrigger fuel may a) q)
    | .inTable negated a table args =>
      return .single (← among inside negated (fun _ => operand inside inTrigger fuel may a) (allOf table args))
    | .collate a n =>
      let x ← look a
      return .single { x with collating := some ⟨n.text, true⟩ }
    | .cast a type =>
      let x ← look a
      let affinity := affinityOf type
      return .single { x with term := .cast x.term affinity, affinity, type := "", column := none, word := none
                              kinds := .ofAffinity affinity }
    | .call n isDistinct _ args order filter window =>
      return .single (← call lookAt may n isDistinct args order filter window)
    | .vector items =>
      let parts ← items.mapM look
      return ⟨.ofParts (.vector (parts.map (·.term))) parts, parts⟩
    | .query q => subquery inside q
    | .exists q =>
      let (r, e) ← enclosed (inside q)
      return .single { term := .exists_ e r.plan }
    | .case base branches otherwise =>
      let b ← base.mapM look
      let pairs ← branches.mapM fun (c, r) => do
        let x ← look c
        pure (x, ← look r)
      let o ← otherwise.mapM look
      let results := pairs.map (·.2) ++ o.toList
      let choices ← pairs.mapM fun (c, r) => do
        let how ← match b with
          | some b => comparison b c
          | none => pure {}
        pure (how, c.term, r.term)
      let parts := b.toList ++ pairs.flatMap (fun (c, r) => [c, r]) ++ o.toList
      return .single { Typed.ofParts (.case (b.map (·.term)) choices (o.map (·.term))) parts with
        kinds := results.foldl (fun (k : Kinds) t => k.or t.kinds) {} }
    | .raise action message =>
      if !inTrigger then later "RAISE() may only be used within a trigger-program"
      return .single { term := .raise action message, kinds := .any }

def expression (inside : LookInside) (inTrigger : Bool) (may : Allowance) (e : Expr) : Resolver Typed := do
  one (← operand inside inTrigger (Expr.maxDepth + 1) may e)

end Resolver

end FormCompiler.Database
