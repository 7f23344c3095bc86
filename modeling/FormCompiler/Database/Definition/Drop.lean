import FormCompiler.Database.Definition.Create

namespace FormCompiler.Database

open Store (Obstacle Code)

namespace Work

def dropRoot (i : Nat) (root : Nat) : Work Unit := do
  if root < 2 then complain "corrupt schema"
  match ← paging i (Paging.dropTree root) with
  | none => return
  | some moved =>
    let e := (← get).encoding
    for (n, f) in ← descriptions i do
      if f.root == some (Text.Numeral.ofNat moved) then
        paging i (Paging.putRow 1 n (Row.write e (f.values (.integer root))))
    let moveIndex (x : Index) : Index := if x.root == moved then { x with root } else x
    let moveTable (t : Table) : Table :=
      { t with root := if t.root == moved then root else t.root, indices := t.indices.map moveIndex }
    modifySchema i fun s => { s with tables := s.tables.map moveTable }

def dropRoots : Nat → Nat → List Nat → Work Unit
  | 0, _, _ => return
  | fuel + 1, i, roots =>
    match roots.foldl max 0 with
    | 0 => return
    | largest => do
      dropRoot i largest
      dropRoots fuel i (roots.filter (· != largest))

def missing {α : Type} (kind : ObjectKind) (n : FullName) : Work α :=
  complain ("no such " ++ kind.name ++ ": " ++ shownName n)

def detachRows (i : Nat) (t : Table) : Work Unit := do
  if (← get).checksReferences then
    let others := (← referencesTo i t).filter fun (child, _) => !Name.same child.name t.name
    if !others.isEmpty then
      let rows ← (tableRows i t).toArray
      for (child, f) in others do
        match f.lead? t with
        | none => pure ()
        | some lead =>
          for place in rows do
            let found ← childrenOf i t child lead place
            countDangling f found.length
      if 0 < (← get).dangling then throw danglingRow

def dropTable (isView ifThere : Bool) (n : FullName) : Work Unit := do
  loadSchemas
  match ← findTable? (n.database.map (·.text)) n.name.text with
  | none => if ifThere then return else missing (if isView then .view else .table) n
  | some (i, t) =>
    let lower := t.name.map Char.toLower
    let isStatistic : Bool := "sqlite_stat".toList.isPrefixOf lower.toList
    if "sqlite_".toList.isPrefixOf lower.toList && !isStatistic && !(← get).overlooks then
      complain ("table " ++ t.name ++ " may not be dropped")
    if isView && !t.isView then complain ("use DROP TABLE to delete table " ++ t.name)
    if !isView && t.isView then complain ("use DROP VIEW to delete view " ++ t.name)
    enterForStatement i
    if !t.isView then detachRows i t
    let triggers := (← schema i).triggers.filter fun g => Name.same g.table t.name
    for g in triggers do forget i fun f => f.type == some "trigger" && f.name == some g.name
    forget i (isAbout t.name)
    if !t.isView then
      let roots := (if t.isKeyed then [] else [t.root]) ++ t.indices.map (·.root)
      dropRoots (roots.length + 1) i roots
    modifySchema i fun s => { s with
      tables := s.tables.filter fun o => !Name.same o.name t.name
      triggers := s.triggers.filter fun g => !Name.same g.table t.name }
    countDefinition i

def placeOf? {α : Type} (database : Option Name) (find : Schema → Option α) : Work (Option (Nat × α)) := do
  let numbers ← memberNumbers
  let order := temporary :: numbers.filter (· != temporary)
  let wanted ← match database with
    | some d => findMember? d.text
    | none => pure none
  for i in order do
    if database.isNone || wanted == some i then
      match find (← schema i) with
      | some a => return some (i, a)
      | none => pure ()
  return none

def dropIndex (ifThere : Bool) (n : FullName) : Work Unit := do
  loadSchemas
  match ← placeOf? n.database (·.index? n.name.text) with
  | none => if ifThere then return else missing .index n
  | some (i, _, x) =>
    if x.origin != .created then
      complain "index associated with UNIQUE or PRIMARY KEY constraint cannot be dropped"
    enterForStatement i
    forget i fun f => f.name == some x.name && f.type == some "index"
    countDefinition i
    dropRoot i x.root
    let without (t : Table) : Table := { t with indices := t.indices.filter fun o => !Name.same o.name x.name }
    modifySchema i fun s => { s with tables := s.tables.map without }

def dropTrigger (ifThere : Bool) (n : FullName) : Work Unit := do
  loadSchemas
  match ← placeOf? n.database (·.trigger? n.name.text) with
  | none => if ifThere then return else missing .trigger n
  | some (i, g) =>
    enterForStatement i
    forget i fun f => f.type == some "trigger" && f.name == some g.name
    countDefinition i
    modifySchema i fun s => { s with
      triggers := s.triggers.filter fun o => !Name.same o.name g.name }

end Work

end FormCompiler.Database
