import FormCompiler.Database.Renewal
import FormCompiler.Database.Setting.Perform

namespace FormCompiler.Database

open Store (Obstacle Code)

namespace Work

def begin (start : Start) : Work Unit := do
  if (← get).inTransaction then complain "cannot start a transaction within a transaction"
  if start != .deferred then
    for i in ← memberNumbers do
      if (← member i).isReadOnly then enter i else enterForStatement i
  modify fun c => { c with inTransaction := true }

def commit : Work Unit := do
  if !(← get).inTransaction then complain "cannot commit - no transaction is active"
  checkDangling
  modify fun c => { c with inTransaction := false, savepoints := [] }

def rollback : Work Unit := do
  if !(← get).inTransaction then complain "cannot rollback - no transaction is active"
  rollBackAll

def savepoint (name : String) : Work Unit := do
  let c ← get
  let mark : Mark := {
    name
    members := c.members
    danglingLater := c.danglingLater
    danglingDeferred := c.danglingDeferred
    startsTransaction := !c.inTransaction }
  set { c with inTransaction := true, savepoints := mark :: c.savepoints }

def savepointsFrom (name : String) : Work (List Mark) := do
  match (← get).savepoints.dropWhile fun s => !Name.same s.name name with
  | [] => complain ("no such savepoint: " ++ name)
  | found => return found

def release (name : String) : Work Unit := do
  match ← savepointsFrom name with
  | mark :: outer =>
    let isOver := mark.startsTransaction && outer.isEmpty
    if isOver then checkDangling
    modify fun c => { c with savepoints := outer, inTransaction := !isOver }
  | [] => return

def rollbackTo (name : String) : Work Unit := do
  let found ← savepointsFrom name
  match found with
  | mark :: _ =>
    let back (m : Member) (i : Nat) : Member :=
      match mark.members[i]? with
      | some b =>
        let changed (v : Volume) : Volume := { v with isChanged := v.isChanged || m.current.any (·.isChanged) }
        { m with
          current := if m.current.isSome then (b.current <|> m.before).map changed else none
          schema := b.schema }
      | none => m
    modify fun c => { c with
      savepoints := found
      danglingLater := mark.danglingLater
      danglingDeferred := mark.danglingDeferred
      members := c.members.zipIdx.map fun (m, i) => back m i }
  | [] => return

def nameValue (e : Expr) : Work Value := do
  match e with
  | .column none none n => return .ofOctets n.octets
  | e => valueOf engine {} (← termIn {} [] e)

def attach (file name : Expr) : Work Unit := do
  let path := (← nameValue file).toText
  let name := (← nameValue name).toText
  let c ← get
  if 12 ≤ c.members.length then complain "too many attached databases - max 10"
  if (← findMember? name).isSome then complain ("database " ++ name ++ " is already in use")
  let source ← ofExcept (Source.ofFile ((c.members.head?.map (·.system)).getD .standard) path)
  match Member.open? c.disk source name with
  | .error o => throw (unopened path o)
  | .ok (m, disk) =>
    set { c with disk, members := c.members ++ [m] }
    match ← attempt loadSchemas with
    | .ok _ => return
    | .error o =>
      closeMember c.members.length
      modify fun c => { c with members := c.members.dropLast }
      throw o

def detach (name : Expr) : Work Unit := do
  let name := (← nameValue name).toText
  match ← findMember? name with
  | none => complain ("no such database: " ++ name)
  | some i =>
    if i < 2 then complain ("cannot detach database " ++ name)
    let m ← member i
    if m.current.isSome then complain ("database " ++ name ++ " is locked")
    closeMember i
    modify fun c => { c with members := c.members.eraseIdx i }

def refill (i : Nat) (t : Table) (x : Index) : Work Unit := do
  if !t.isOwn x then
    enterForStatement i
    discard (paging i (Paging.clearTree x.root))
    fillIndex i t x

def reindex (n : Option FullName) : Work Unit := do
  loadSchemas
  let all (which : Table → Index → Bool) (place : Nat → Bool) : Work Unit := do
    for i in ← memberNumbers do
      if place i then
        for t in (← schema i).tables do
          for x in t.indices do
            if which t x then refill i t x
  match n with
  | none => all (fun _ _ => true) fun _ => true
  | some n =>
    if n.database.isNone && (Collation.ofName? n.name.text).isSome then
      all (fun _ x => x.parts.any fun p => Name.same p.collation n.name.text) fun _ => true
    else
      let _ ← memberOf n.database
      match ← findTable? (n.database.map (·.text)) n.name.text with
      | some (i, t) => all (fun u _ => Name.same u.name t.name) (· = i)
      | none =>
        match ← placeOf? n.database (·.index? n.name.text) with
        | some (i, t, x) => refill i t x
        | none => complain "unable to identify the object to be reindexed"

def check (s : Statement) : Work Unit := do
  match s with
  | .select q => discard (resolve [] (lookIn {} q))
  | .insert st => checkInsert budget {} st
  | .update st => checkUpdate budget {} st
  | .delete st => checkDelete budget {} st
  | _ => return

def forgetAnswers : Work Unit := modify fun c => { c with remembered := {} }

def run (parameters : Array Value) (s : Statement) : Work Unit := do
  let site : Site := { env := { parameters } }
  match s with
  | .begin start => begin start
  | .commit => commit
  | .rollback none => rollback
  | .rollback (some n) => rollbackTo n.text
  | .savepoint n => savepoint n.text
  | .release n => release n.text
  | .select q =>
    verifyUsed
    discard (engine.rows site.env (← resolve [] (lookIn {} q)).plan).first?
  | .insert st =>
    verifyUsed
    enterForStatement (← target {} st.table).1
    counting (insertRows budget site st)
  | .update st =>
    verifyUsed
    enterForStatement (← target {} st.table).1
    counting (updateRows budget site st)
  | .delete st =>
    verifyUsed
    enterForStatement (← target {} st.table).1
    counting (deleteRows budget site st)
  | .createTable d => createTable d
  | .createIndex d => createIndex d
  | .createView d => createView d
  | .createTrigger d => createTrigger d
  | .createVirtual n ifMissing module args text => createVirtual n ifMissing { name := module.text, args } text
  | .drop kind ifThere n => drop kind ifThere n
  | .alter n _ change => alter n change
  | .pragma p => perform p
  | .attach file name => attach file name
  | .detach name => detach name
  | .vacuum database target => vacuum database target
  | .reindex n => reindex n
  | .analyze n => analyze n
  | .explain s =>
    check s
    verifyUsed

def checkParameters (names : Array String) (count : Nat) : Except Obstacle Unit :=
  names.toList.zipIdx.forM fun (name, i) =>
    match name.toList with
    | [] =>
      if i < count then .ok () else .error (.other ("missing argument with index " ++ Text.Numeral.ofNat (i + 1)))
    | sign :: rest =>
      let isPlace : Bool := (sign == '?' || sign == '$') &&
        (List.range count).any fun k => Text.Numeral.ofNat (k + 1) == String.ofList rest
      if isPlace then .ok ()
      else .error (.other ("missing named argument " ++ Text.quoted (Octets.ofString (String.ofList rest))))

def reject (m : Mistake) (begun : Begun) : Work Unit := do
  match begun with
  | .table d => beginTable d m.position
  | .trigger d => if d.position < m.position then discard (beginTrigger d)
  | .alteration n position _ => if position < m.position then discard (alterable n)
  | .nothing => pure ()
  complain m.message

def runAll (source : Array Char) (values : Array Value) : Nat → List Lexeme → Work Unit
  | 0, _ => return
  | fuel + 1, lexemes => do
    match Reading.next source lexemes with
    | .nothing => return
    | .wrong m begun => statement (reject m begun)
    | .statement s names rest =>
      statement do
        forgetAnswers
        match s with
        | .createView _ => if !names.isEmpty then complain "parameters are not allowed in views"
        | _ => pure ()
        check s
        ofExcept (checkParameters names values.size)
        run values s
      runAll source values fuel rest

def execute (text : Octets) (values : List Value) : Work Unit :=
  let chars := text.letters
  let lexemes := Lexeme.read chars
  runAll chars.toArray values.toArray (lexemes.length + 1) lexemes

def shownFields (r : Resolved) : Work (Array Field) := do
  let c ← get
  let shown (label : Option String × String) (t : Typed) : String :=
    match label.1, t.column with
    | some n, _ => n
    | none, some n => if c.fullNames then t.table ++ "." ++ n else if c.shortNames then n else label.2
    | none, none => label.2
  return ((r.labels.zip r.first).map fun (label, t) => ({ name := shown label t, type := t.type } : Field)).toArray

def select {α : Type} (text : String) (use : Array Field → Stream (List Value) → Work α) : Work α :=
  match Reading.ofText (Octets.ofString text) with
  | .statement (.select q) _ _ =>
    statement do
      forgetAnswers
      let r ← resolve [] (lookIn {} q)
      let fields ← shownFields r
      verifyUsed
      use fields ((engine.rows {} r.plan).map fun row => row.toList.map (·.value))
  | .wrong m begun => do
    statement (reject m begun)
    use #[] .empty
  | _ => use #[] .empty

end Work

end FormCompiler.Database
