import FormCompiler.Database.Definition.Alter
import FormCompiler.Database.Open

namespace FormCompiler.Database

open Store (Obstacle Code)

namespace Work

def renewedLayout (i : Nat) : Work Layout := do
  let c ← get
  let m ← member i
  let old := (← volume i).layout
  match c.chosenSize with
  | some size =>
    if m.place.isSome && m.log.isNone && isPageSize size then return ⟨size, size - (old.size - old.usable)⟩
    else return old
  | none => return old

def definitionTexts (rows : List Loading.Fields) (type : String) : List (Octets × Reading) :=
  rows.filterMap fun f => if f.type == some type then f.text.map fun s => (s, Reading.ofText s) else none

def renewed (i : Nat) : Work Volume := do
  let old ← volume i
  let m ← member i
  let k := (← get).members.length
  let layout ← renewedLayout i
  let vacuum := (← get).chosenVacuum
  let mapsPages := vacuum.elim m.mapsPages (· != 0)
  let isIncremental := vacuum.elim m.isIncremental (· == 2)
  let fresh : Member := {
    name := "vacuum_db"
    own := { layout, mapsPages, isIncremental }
    layout
    mapsPages
    isIncremental
    schema := some { tables := [schemaTable false] } }
  modify fun c => { c with members := c.members ++ [fresh] }
  enterForStatement k
  let rows := (← descriptions i).map (·.2)
  for (text, reading) in definitionTexts rows "table" do
    match reading with
    | .statement (.createTable d) _ _ =>
      match { ← builderFor k with isUnchecked := true }.table d with
      | .ok (some t) =>
        establish k t "table" text fun _ => return
        learn k (isAbout t.name)
      | _ => pure ()
    | _ => pure ()
  for (text, reading) in definitionTexts rows "index" do
    match reading with
    | .statement (.createIndex d) _ _ =>
      match { ← builderFor k with isUnchecked := true }.index d with
      | .ok (some (t, x)) =>
        let root ← paging k (Paging.createTree false)
        addDescription k { type := "index", name := x.name, table := t.name, root, text := some text }
        learn k fun f => f.name == some x.name && f.type == some "index"
      | _ => pure ()
    | _ => pure ()
  for t in (← schema k).tables do
    if t.root != 1 && !t.isView then
      match (← schema i).table? t.name with
      | some u =>
        for place in ← (tableRows i u).toArray do addRow k t place
      | none => pure ()
  for f in rows do
    if f.type == some "view" || f.type == some "trigger" then
      addDescription k { type := f.type.getD "", name := f.name.getD "", table := f.table.getD "", text := f.text }
  paging k do
    Paging.setCookie 1 ((old.cookie 1 + 1) % 0x100000000)
    for c in [3, 5, 6, 8] do Paging.setCookie c (old.cookie c)
  let new ← volume k
  modify fun c => { c with members := c.members.take k }
  return { new with pages := new.pages.extract 0 new.count }

def renew (i : Nat) : Work Unit := do
  loadSchemas
  enterForStatement i
  let new ← renewed i
  modifyMember i fun m => { m with
    layout := new.layout
    current := m.current.map fun v => { v with
      layout := new.layout
      mapsPages := new.mapsPages
      isIncremental := new.isIncremental
      pages := new.pages.setIfInBounds 0 (Bytes.overlay (new.page 1) 18 ((v.page 1).extract 18 20)
        |> fun first => Bytes.overlay first 24 ((v.page 1).extract 24 28))
      count := new.count
      isChanged := true }
    schema := none }
  paging i (Paging.setHeader 28 new.count)
  loadSchema i

def renewInto (i : Nat) (path : String) : Work Unit := do
  let c ← get
  let source ← ofExcept (Source.ofFile ((c.members.head?.map (·.system)).getD .standard) path)
  match Member.open? c.disk source "vacuum_db" with
  | .error o => throw (unopened path o)
  | .ok (m, disk) =>
    set { c with disk, members := c.members ++ [m] }
    let k := c.members.length
    let loaded ← attempt loadSchemas
    modify fun c => { c with members := c.members.take k }
    ofExcept loaded
    match m.place with
    | some l =>
      if (disk.bytes l).size != 0 then complain "output file already exists"
      enter i
      let new := countChange (← renewed i)
      onDisk (·.write l (new.pages.foldl (fun (b : ByteArray) p => b ++ p) .empty))
    | none =>
      enter i
      discard (renewed i)

def vacuum (database : Option Name) (target : Option Expr) : Work Unit := do
  let i ← memberOf database
  let into ← target.mapM fun e => do
    valueOf engine {} (← termIn {} [] e)
  if i != temporary then
    if (← get).inTransaction then complain "cannot VACUUM from within a transaction"
    match into with
    | none => renew i
    | some (.text path) => renewInto i (Octets.text path.toList)
    | some _ => complain "non-text filename"

end Work

end FormCompiler.Database
