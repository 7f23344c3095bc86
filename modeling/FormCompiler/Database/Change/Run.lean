import FormCompiler.Database.Change.Check
import FormCompiler.Database.Change.Transfer

namespace FormCompiler.Database

open Store (Obstacle Code)

namespace Work

def lastNumber : Int := Nat.pow 2 63 - 1

def unusedNumber (i : Nat) (t : Table) : Nat → Int → Work Int
  | 0, _ => refuse .full
  | fuel + 1, n => do
    let (_, found) ← paging i (Paging.seekRow t.root n)
    if found = .eq then unusedNumber i t fuel (n + 1) else return n

variable (i : Nat) (t : Table)

def sequenceRow : Work (Table × Option (Place × Int)) := do
  let s ← verifySequence i
  let rows ← (tableRows i s).toArray
  let value (p : Place) (k : Nat) : Value := p.values[k]?.getD .null
  let own := rows.toList.find? fun p => (value p 0).isSame (.ofString t.name)
  return (s, own.map fun p => (p, (value p 1).toInteger))

def newNumber : Work Int := do
  let last := (← paging i (Paging.lastKey t.root)).getD 0
  if t.isCounting then
    let (_, kept) ← sequenceRow i t
    let last := max (max last 0) ((kept.map (·.2)).getD 0)
    if last < lastNumber then return last + 1 else refuse .full
  else if last < lastNumber then return last + 1
  else unusedNumber i t 1000 1

def keepNumber (place : Place) : Work Unit := do
  match place.number with
  | some n =>
    if t.isCounting then
      let (s, kept) ← sequenceRow i t
      let last := max n ((kept.map (·.2)).getD 0)
      let number ← match kept.bind (·.1.number) with
        | some k => pure k
        | none => do pure ((← paging i (Paging.lastKey s.root)).getD 0 + 1)
      paging i (Paging.putRow s.root number (Row.write (← get).encoding [.ofString t.name, .integer last]))
  | none => return

def numberOf (v : Value) : Work Int := do
  match v.apply .numeric with
  | .integer n => return n
  | _ => refuse .mismatch

def countRow : Work Unit := modify fun c => { c with counted := c.counted + 1 }

def counting (x : Work Unit) : Work Unit := do
  modify fun c => { c with counted := 0 }
  x
  modify fun c => { c with changes := c.counted, totalChanges := c.totalChanges + c.counted, counted := 0 }

def countingApart {α : Type} (x : Work α) : Work α := do
  let before ← get
  let result ← attempt x
  modify fun c => { c with counted := before.counted, changes := before.changes, lastRow := before.lastRow }
  match result with
  | .ok a => return a
  | .error o => throw o

def transferRows (k : Nat) (s : Table) (i : Nat) (t : Table) (conflict : Option Conflict) : Work Unit := do
  let places ← (tableRows k s).toArray
  let kept ← places.toList.mapM fun place => do
    let place ← if t.isKeyed then pure place
      else if t.rowColumn.isNone && t.indices.isEmpty then do pure { place with number := some (← newNumber i t) }
      else pure place
    if t.rowColumn.isSome then discard (checkKeys i { t with indices := [] } conflict place none)
    if !t.isKeyed then
      addRow i { t with indices := [] } place
      keepNumber i t place
      modify fun c => { c with lastRow := place.number.getD c.lastRow }
    countRow
    return place
  addKeys i t kept

def assign (t : Table) (given : List (Slot × Value)) (start : Place) : Place × Option Value :=
  given.foldl (fun (p : Place × Option Value) (slot, v) =>
    match slot with
    | .rowNumber => (p.1, some v)
    | .column k =>
      let aff := (t.columns[k]?.map (·.affinity)).getD .none
      ({ p.1 with values := p.1.values.setIfInBounds k (v.apply aff) }, if t.rowColumn == some k then some v else p.2))
    (start, none)

def numbered (t : Table) (place : Place) (n : Int) : Place :=
  { place with
    number := some n
    values := t.rowColumn.elim place.values fun k => place.values.setIfInBounds k (.integer n) }

def givenBy (env : Env) (assigned : List Assigned) : Work (List (Slot × Value)) :=
  assigned.flatMapM fun a => do
    match a.slots with
    | [slot] => return [(slot, ← valueOf engine env a.term)]
    | slots => return slots.zip (← valuesOf engine env a.term)

def amendedRows (env : Env) (p : Amendment) : Stream (Array Place) :=
  let s : Select :=
    { sources := .mk p.source {} 0 [p.table.columns.size] [] (.kept false) :: p.others, where_ := p.condition }
  let terms := p.condition ++ p.assigned.map (·.term) ++ p.others.flatMap (·.conditions)
  let reads := (terms.flatMap (TermOf.columns termDepth)).eraseDups
  .after (do
    match ← planned p.origins reads 0 p.others.isEmpty s with
    | some chosen => return chosen
    | none => complain "no query solution") (selectedPlaces engine env)

def currentRow? (place : Place) : Work (Option Place) := do
  if t.isVirtual then return some place
  match t.keyIndex?, place.number with
  | some own, none => rowFor i t own ((← keyOf t own place).take own.parts.length)
  | _, some n => rowFor i t { name := "" } [.integer n]
  | none, none => return none

def lastOfEach (t : Table) (rows : List (Place × List (Slot × Value))) : Work (List (Place × List (Slot × Value))) := do
  let e := (← get).encoding
  let key (p : Place) : List Value :=
    if t.isKeyed then t.keyColumns.map fun k => p.values[k]?.getD .null else [(p.number.map Value.integer).getD .null]
  let parts : List KeyPart := (key {}).map fun _ => {}
  let sorted := rows.mergeSort fun a b => orderKeys e parts (key a.1) (key b.1) != .gt
  return (sorted.zip (sorted.drop 1 |>.map some |>.append [none])).filterMap fun (row, next) =>
    if next.any fun n => orderKeys e parts (key row.1) (key n.1) == .eq then none else some row

def tooDeep : Work Unit := complain "too many levels of trigger recursion"

mutual

def fire : Nat → Context → Nat → Table → TriggerTime → TriggerEvent → Option Place → Option Place → Work Bool
  | 0, _, _, _, _, _, _, _ => return true
  | fuel + 1, ctx, i, t, time, event, old, new => do
    let all ← triggersFor i t event
    all.allM fun (k, g) => do
      if g.definition.time != time || (ctx.firing.contains (k, g.name) && !(← get).nestsTriggers) then return true
      let site ← triggerSite ctx.firing i t event k g
      let site := { site with env := { frames := [{ places := (old.toList ++ new.toList).toArray }] } }
      match ← attempt (countingApart (act fuel site g.definition.when_ g.definition.actions)) with
      | .ok _ => return true
      | .error .ignored => return false
      | .error o => throw o

def react : Nat → Context → Nat → Table → Place → Option Place → Option (List Nat) → Work Unit
  | 0, _, _, _, _, _, _ => return
  | fuel + 1, ctx, i, t, old, new, changed => do
    if (← get).checksReferences then
      let database := (← member i).name
      let event : TriggerEvent := if new.isSome then .update [] else .delete
      let site : Site := {
        ctx := { database := some database, inTrigger := true, firing := ctx.firing }
        drafts := [triggerDraft database t event]
        env := { frames := [{ places := #[old] ++ new.toArray }] } }
      let e := (← get).encoding
      for (child, f) in ← referencesTo i t do
        match f.lead? t with
        | none => pure ()
        | some lead =>
          let keys := lead.pairs.map (·.2)
          let isSame : Bool := new.any fun n =>
            ((valuesAt old keys).zip (valuesAt n keys)).all fun (a, b) => a.order .binary e b == .eq
          if touchesParent t f changed && !isSame then
            match reactionTo child f t lead new.isNone with
            | some (.select q) => if !(← get).defersChecks then act fuel site none [.select q]
            | some a => countingApart (act fuel site none [a])
            | none => pure ()

def act : Nat → Site → Option Expr → List TriggerAction → Work Unit
  | 0, _, _, _ => tooDeep
  | fuel + 1, site, when_, actions => do
    let goesOn ← match when_ with
      | some e => holds engine site.env (← termIn site.ctx site.drafts e)
      | none => pure true
    if goesOn then
      for a in actions do
        match a with
        | .insert st => counting (insertRows fuel site st)
        | .update st => counting (updateRows fuel site st)
        | .delete st => counting (deleteRows fuel site st)
        | .select q => discard (engine.rows site.env (← resolve site.drafts (lookIn site.ctx q)).plan).toArray

def insertRows : Nat → Site → InsertStatement → Work Unit
  | 0, _, _ => tooDeep
  | fuel + 1, site, st => do
    let (_, p) ← insertion site st
    let t := p.table
    if let some (k, s) ← transferred? site.ctx st p then return ← transferRows k s p.place t p.conflict
    let defaults ← (t.columns.toList).mapM defaultValue
    let start : Place := { values := if t.isView then Array.replicate p.width .null else defaults.toArray }
    let put (row : List Value) : Work Unit := do
      let (place, number) := assign t (p.slots.zip row) start
      insertRow fuel site p.place t p.conflict p.alternatives place number
    match p.rows with
    | none => put []
    | some plan =>
      let rows := (engine.rows site.env plan).map fun row => row.toList.map (·.value)
      let isApart := p.readsItself || !(← triggersFor p.place t .insert).isEmpty
      if isApart then
        for row in ← rows.toArray do put row
      else
        discard (rows.fold (fun (_ : Unit) row => do
          put row
          return .more ()) ())

def insertRow : Nat → Site → Nat → Table → Option Conflict → List (Alternative × Option Revision) → Place →
    Option Value → Work Unit
  | 0, _, _, _, _, _, _, _ => return
  | fuel + 1, site, i, t, conflict, alternatives, place, number => do
    let ctx := site.ctx
    if t.isView then
      discard (fire fuel ctx i t .instead .insert none (some place))
    else if let some kept := t.keeping? then
      let given ← (number.filter (!·.isNull)).mapM numberOf
      if let some n ← putRow i t kept conflict place.values.toList given then
        modify fun c => { c with lastRow := n }
        countRow
    else
      let given := number.filter (!·.isNull)
      let early ← match given, t.hasRowNumbers with
        | some v, true => do pure (numbered t place (← numberOf v))
        | none, true => pure (numbered t place (-1))
        | _, false => pure place
      if !(← fire fuel ctx i t .before .insert none (some early)) then return
      let place ← match given, t.hasRowNumbers with
        | none, true => do pure (numbered t place (← newNumber i t))
        | _, _ => pure early
      let place ← computeColumns t place
      match ← checkValues t conflict none place with
      | none => return
      | some place =>
        let rivals ← if alternatives.isEmpty then pure [] else do
          checkTypes t place
          rivalsOf i t place none
        match alternatives.findSome? fun (a, r) => (rivals.find? fun o => a.isAbout o.1).map (r, ·.2) with
        | some (none, _) => return
        | some (some revision, other) =>
          let env := site.env.inside { places := #[other, place] }
          let isMeant ← match revision.condition with
            | some c => holds engine env c
            | none => pure true
          if isMeant then updateRow fuel ctx i t none (← givenBy env revision.assigned) revision.columns other
        | none =>
          match ← checkKeys i t conflict place none with
          | .dropped => return
          | .kept place instead =>
            for other in instead do dropRow fuel ctx i t other
            countReferences i t none (some place) none
            addRow i t place
            keepNumber i t place
            modify fun c => { c with lastRow := place.number.getD c.lastRow }
            countRow
            discard (fire fuel ctx i t .after .insert none (some place))

def dropRow : Nat → Context → Nat → Table → Place → Work Unit
  | 0, _, _, _, _ => return
  | fuel + 1, ctx, i, t, old => do
    let nests := (← get).nestsTriggers
    let goesOn ← if nests then fire fuel ctx i t .before .delete (some old) none else pure true
    if goesOn then
      countReferences i t (some old) none none
      removeRow i t old
      react fuel ctx i t old none none
      if nests then discard (fire fuel ctx i t .after .delete (some old) none)

def updateRow : Nat → Context → Nat → Table → Option Conflict → List (Slot × Value) → List Name → Place → Work Unit
  | 0, _, _, _, _, _, _, _ => return
  | fuel + 1, ctx, i, t, conflict, given, columns, old => do
    let event : TriggerEvent := .update columns
    let (new, number) := assign t given old
    if t.isView then discard (fire fuel ctx i t .instead event (some old) (some new))
    else if let some kept := t.keeping? then
      let wanted ← number.mapM numberOf
      if ← changeRow i t kept conflict (old.number.getD 0) new.values.toList wanted then countRow
    else
      let new ← match number with
        | some v => do pure (numbered t new (← numberOf v))
        | none => pure new
      let changed := some (given.filterMap fun
        | (.column k, _) => some k
        | (.rowNumber, _) => t.rowColumn)
      if ← fire fuel ctx i t .before event (some old) (some new) then
        let new ← computeColumns t new
        let touched : Touched := {
          columns := changed.getD []
          number := given.any fun (slot, _) => match slot with
            | .rowNumber => true
            | .column k => t.rowColumn == some k }
        match ← checkRow i t conflict (some touched) new (some old) with
        | .dropped => return
        | .kept new instead =>
          for other in instead do dropRow fuel ctx i t other
          countReferences i t (some old) none changed
          countReferences i t none (some new) changed
          replaceRow i t old new
          countRow
          react fuel ctx i t old (some new) changed
          discard (fire fuel ctx i t .after event (some old) (some new))

def updateRows : Nat → Site → UpdateStatement → Work Unit
  | 0, _, _ => tooDeep
  | fuel + 1, site, st => do
    let (_, p) ← amendment site st
    let t := p.table
    let found := (← (amendedRows site.env p).toArray).toList
    let update (old : Place) (given : List (Slot × Value)) : Work Unit :=
      updateRow fuel site.ctx p.place t p.conflict given p.columns old
    let known (places : Array Place) : Work (Place × List (Slot × Value)) := do
      return (places[0]?.getD {}, ← givenBy (site.env.inside { places }) p.assigned)
    if t.isView then
      for places in found do
        let (old, given) ← known places
        update old given
    else if p.others.isEmpty then
      for places in found do
        match ← currentRow? p.place t (places[0]?.getD {}) with
        | some old => update old (← givenBy (site.env.inside { places := #[old] }) p.assigned)
        | none => pure ()
    else
      for (old, given) in ← lastOfEach t (← found.mapM known) do update old given

def deleteRows : Nat → Site → DeleteStatement → Work Unit
  | 0, _, _ => tooDeep
  | fuel + 1, site, st => do
    let (_, p) ← deletion site st
    let i := p.place
    let t := p.table
    let ctx := site.ctx
    if t.isView then
      for places in ← (amendedRows site.env p).toArray do
        discard (fire fuel ctx i t .instead .delete (places[0]?) none)
    else if let some kept := t.keeping? then
      for places in ← (amendedRows site.env p).toArray do
        eraseRow i t kept ((places[0]?.bind (·.number)).getD 0)
        countRow
    else
      let triggers ← triggersFor i t .delete
      if st.where_.isNone && triggers.isEmpty && !(← isLinked i t) then
        let n ← if t.isKeyed then pure 0 else paging i (Paging.clearTree t.root)
        let ns ← t.indices.mapM fun x => paging i (Paging.clearTree x.root)
        let count := if t.isKeyed then ns.headD 0 else n
        modify fun c => { c with counted := c.counted + count }
      else
        for places in ← (amendedRows site.env p).toArray do
          match ← currentRow? i t (places[0]?.getD {}) with
          | none => pure ()
          | some old =>
            if ← fire fuel ctx i t .before .delete (some old) none then
              countReferences i t (some old) none none
              removeRow i t old
              countRow
              react fuel ctx i t old none none
              discard (fire fuel ctx i t .after .delete (some old) none)

end

end Work

end FormCompiler.Database
