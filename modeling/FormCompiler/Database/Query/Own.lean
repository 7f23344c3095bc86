import FormCompiler.Database.Query.Scope

namespace FormCompiler.Database

inductive OwnPlace where
  | check
  | generated
  | index
  | condition
  deriving DecidableEq

def OwnPlace.name : OwnPlace → String
  | check => "CHECK constraints"
  | generated => "generated columns"
  | index => "index expressions"
  | condition => "partial index WHERE clauses"

namespace Expr

def children : Expr → List Expr
  | .unary _ a | .collate a _ | .cast a _ => [a]
  | .binary _ a b => [a, b]
  | .like _ _ a b escape => b :: a :: escape.toList
  | .between _ a low high => [a, low, high]
  | .inList _ a items => a :: items
  | .inQuery _ a _ => [a]
  | .inTable _ a _ args => a :: args
  | .call _ _ _ args _ filter _ => args ++ filter.toList
  | .vector items => items
  | .case base branches otherwise => base.toList ++ branches.flatMap (fun (a, b) => [a, b]) ++ otherwise.toList
  | _ => []

def any (p : Expr → Bool) : Nat → Expr → Bool
  | 0, _ => false
  | fuel + 1, e => p e || e.children.any (any p fuel)

def maxDepth : Nat := 1000

def hasQuery : Expr → Bool
  | .query _ | .exists _ | .inQuery .. | .inTable .. => true
  | _ => false

def withoutCollation : Expr → Expr
  | .collate a _ => withoutCollation a
  | e => e

def collation? : Expr → Option Name
  | .collate _ n => some n
  | _ => none

def isConstant (e : Expr) : Bool :=
  !e.any (fun
    | .column _ table name => (Scope.other? table name).isNone || name.isDoubleQuoted
    | .parameter _ | .raise .. => true
    | e => e.hasQuery) maxDepth

def checkCall (isLoading : Bool) (name : Name) (count : Nat) (allows : Function.Kind → Bool) (window filter : Bool) :
    Except String (Option Function) :=
  match Function.find name.text count with
  | .unknown => if isLoading then .ok none else .error ("no such function: " ++ name.text)
  | .wrongCount => .error ("wrong number of arguments to function " ++ name.text ++ "()")
  | .found f =>
    if f.kind = .scalar && window then .error (name.text ++ "() may not be used as a window function")
    else if f.kind = .window && !window then .error ("misuse of window function " ++ name.text ++ "()")
    else if f.kind = .aggregate && !window && !allows .aggregate then
      .error ("misuse of aggregate function " ++ name.text ++ "()")
    else if window && !allows .window then .error ("misuse of window function " ++ name.text ++ "()")
    else if f.kind = .scalar && filter then
      .error ("FILTER may not be used with non-aggregate " ++ name.text ++ "()")
    else .ok (some f)

def checkOwn (t : Table) (place : OwnPlace) (isLoading : Bool) : Nat → Expr → Except String Unit
  | 0, _ => .ok ()
  | fuel + 1, e => do
    let prohibit (what : String) : Except String Unit := .error (what ++ " prohibited in " ++ place.name)
    match e with
    | .column database table name =>
      if table.isSome && (place = .index || place = .generated) then prohibit "the \".\" operator"
      let level : Level := { origins := #[{ Origin.ofTable "" t none with
        hasRowNumbers := t.hasRowNumbers && place != .index && place != .generated }] }
      match ← Scope.find [level] (database.bind fun _ => none) table name with
      | some _ => .ok ()
      | none =>
        if (Scope.other? table name).isSome then .ok ()
        else
          .error ("no such column: " ++
            Scope.shown (database.map (·.text)) (table.map (·.text)) name.text)
    | .parameter _ => prohibit "parameters"
    | .raise .. => .error "RAISE() may only be used within a trigger-program"
    | .call name _ _ args _ filter window =>
      match ← checkCall isLoading name args.length (fun _ => false) window.isSome filter.isSome with
      | some f =>
        if !f.isDeterministic && place != .check then prohibit "non-deterministic functions"
      | none => .ok ()
      args.forM (checkOwn t place isLoading fuel)
    | .now _ => if place != .check then prohibit "non-deterministic functions"
    | e =>
      if e.hasQuery then prohibit "subqueries"
      e.children.forM (checkOwn t place isLoading fuel)

end Expr

end FormCompiler.Database
