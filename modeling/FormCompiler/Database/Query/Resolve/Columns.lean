import FormCompiler.Database.Query.Resolve.Expression

namespace FormCompiler.Database

inductive Wanted where
  | expr (e : Expr) (asName : Option Name) (text : String)
  /-- A column of a place, which all columns were asked for of. -/
  | field (place index : Nat) (name : String)
  /-- A column that joins share. -/
  | shared (name : String)

namespace Wanted

def asName? : Wanted → Option String
  | .expr _ asName _ => asName.map (·.text)
  | .field _ _ name | .shared name => some name

def text : Wanted → String
  | .expr _ _ text => text
  | .field _ _ name | .shared name => name

def orNumber (name : String) (i : Nat) : String :=
  if name == "" || Name.same name "true" || Name.same name "false" then "column" ++ Text.Numeral.ofNat (i + 1) else name

def writtenName (w : Wanted) (i : Nat) : String :=
  orNumber (match w with
    | .expr _ (some n) _ => n.text
    | .expr e none text =>
      match e.withoutCollation with
      | .column _ _ n => n.text
      | _ => text
    | w => w.text) i

def meantName (w : Wanted) (t : Typed) (i : Nat) : String := orNumber (w.asName?.getD (t.column.getD w.text)) i

end Wanted

def uniqueNames (names : List String) : List String :=
  names.foldl (fun (found : List String) name => found ++ [freshName found (names.length + 1) 1 name]) []
where
  freshName (found : List String) : Nat → Nat → String → String
    | 0, _, candidate => candidate
    | fuel + 1, k, candidate =>
      if found.any (Name.same candidate) then
        freshName found fuel (k + 1) (base candidate ++ ":" ++ Text.Numeral.ofNat k)
      else candidate
  base (name : String) : String :=
    let back := name.toList.reverse
    let digits := back.takeWhile Char.isDigit
    match back.drop digits.length with
    | ':' :: rest => if rest.isEmpty then name else String.ofList rest.reverse
    | _ => name

def compoundAffinity (column : List Typed) : Affinity :=
  match column.dropWhile fun t => t.affinity = .none with
  | [] => .none
  | t :: rest =>
    let kinds := rest.foldl (fun (k : Kinds) t => k.or t.kinds) {}
    match t.affinity with
    | .text => if kinds.number then .blob else .text
    | .numeric | .integer | .real => if kinds.text then .blob else t.affinity
    | a => a

def compoundFields (names : List String) (parts : List (List Typed)) : Array Field :=
  (names.zipIdx.map fun (name, i) =>
    let column := parts.filterMap (·[i]?)
    let first := column.headD {}
    ({ name, affinity := compoundAffinity column, type := (column.getLastD {}).type
       collation := some ((first.collating.map (·.name)).getD "BINARY") } : Field)).toArray

def compoundCollations (parts : List (List Typed)) : List Collation :=
  (List.range (parts.headD []).length).map fun i =>
    ((parts.findSome? fun p => (p[i]?).bind (·.collating)).bind fun c => Collation.ofName? c.name).getD .binary

namespace Level

def wanted (l : Level) : List ResultColumn → Except String (List Wanted)
  | [] => .ok []
  | c :: rest => do
    let column (i j : Nat) : Wanted :=
      let name := (l.field i j).name
      if l.isMerged i name then .shared name else .field i j name
    let here ← match c with
      | .expr e asName text => pure [.expr e asName text]
      | .all =>
        if l.origins.isEmpty then .error "no tables specified"
        pure (l.visible.map fun (i, j) => column i j)
      | .allOf n =>
        match l.origins.toList.zipIdx.filter fun (o, _) => o.isNamed none n.text with
        | [] => .error ("no such table: " ++ n.text)
        | found =>
          pure (found.flatMap fun (o, i) =>
            ((List.range o.fields.size).filter fun j => !(l.field i j).isHidden).map fun j =>
              .field i j (l.field i j).name)
    return here ++ (← wanted l rest)

end Level

namespace Resolver

def wanted (look : Look) (may : Allowance) (w : Wanted) : Resolver Typed := do
  let before := (← draft).aggregates.size
  let t ← match w with
    | .expr e _ _ => look may e
    | .field place index _ => column 0 place index
    | .shared n => name may none none { text := n }
  return { t with hasAggregate := t.hasAggregate || before < (← draft).aggregates.size }

def position? (e : Expr) : Option Int :=
  match e with
  | .integer text => (Text.Numeral.magnitude? text.toList).map fun n => (n : Int)
  | .unary .minus a => (position? a).map fun n => -n
  | .unary .plus a => position? a
  | _ => none

def namedColumn? (columns : List Wanted) (e : Expr) : Option Nat :=
  match e with
  | .column none none n => columns.findIdx? fun w => w.asName?.any (Name.same n.text)
  | _ => none

def checkPosition (clause : String) (i : Nat) (n : Int) (width : Nat) : Resolver Nat := do
  if n < 1 || (width : Int) < n then
    complain (ordinal (i + 1) ++ " " ++ clause ++ " BY term out of range - should be between 1 and " ++
      Text.Numeral.ofNat width)
  return n.toNat - 1

def key (look : Look) (may : Allowance) (clause : String) (columns : List Wanted) (typed : List Typed)
    (i : Nat) (e : Expr) :
    Resolver Typed := do
  let inner := e.withoutCollation
  let collated (t : Typed) : Typed := e.collation?.elim t fun n => { t with collating := some ⟨n.text, true⟩ }
  match if clause == "ORDER" then namedColumn? columns inner else none with
  | some k => return collated (typed.getD k {})
  | none =>
    match position? inner with
    | some n =>
      let k ← checkPosition clause i n columns.length
      return collated (typed.getD k {})
    | none => look may e

end Resolver

end FormCompiler.Database
