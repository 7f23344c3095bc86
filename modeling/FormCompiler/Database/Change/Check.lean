import FormCompiler.Database.Change.Kept
import FormCompiler.Database.Change.Plan

namespace FormCompiler.Database.Work

def triggerSite (firing : List (Nat × String)) (i : Nat) (t : Table) (event : TriggerEvent) (k : Nat) (g : Trigger) :
    Work Site := do
  let name := (← member k).name
  let database := if k = temporary then none else some name
  return { ctx := { database, inTrigger := true, firing := (k, g.name) :: firing }
           drafts := [triggerDraft (← member i).name (← seenTable i t) event] }

mutual

def checkTriggers : Nat → Context → Nat → Table → TriggerEvent → Work Unit
  | 0, _, _, _, _ => return
  | fuel + 1, ctx, i, t, event => do
    for (k, g) in ← triggersFor i t event do
      if !ctx.firing.contains (k, g.name) then checkTrigger fuel (← triggerSite ctx.firing i t event k g) g.definition

def checkTrigger : Nat → Site → TriggerDefinition → Work Unit
  | 0, _, _ => return
  | fuel + 1, site, d => do
    for e in d.when_.toList do discard (termIn site.ctx site.drafts e)
    for a in d.actions do checkAction fuel site a

def checkAction : Nat → Site → TriggerAction → Work Unit
  | 0, _, _ => return
  | fuel + 1, site, a => do
    match a with
    | .insert st => checkInsert fuel site st
    | .update st => checkUpdate fuel site st
    | .delete st => checkDelete fuel site st
    | .select q => discard (resolve site.drafts (lookIn site.ctx q))

def checkInsert : Nat → Site → InsertStatement → Work Unit
  | 0, _, _ => return
  | fuel + 1, site, st => do
    let (o, p) ← insertion site st
    checkLeads p.place p.table true none
    checkTriggers fuel site.ctx p.place p.table .insert
    checkReturning site.ctx site.drafts o st.returning

def checkUpdate : Nat → Site → UpdateStatement → Work Unit
  | 0, _, _ => return
  | fuel + 1, site, st => do
    let (o, p) ← amendment site st
    checkLeads p.place p.table false (some (p.columns.filterMap fun n => o.fieldIndex? n.text))
    checkTriggers fuel site.ctx p.place p.table (.update p.columns)
    checkReturning site.ctx site.drafts o st.returning

def checkDelete : Nat → Site → DeleteStatement → Work Unit
  | 0, _, _ => return
  | fuel + 1, site, st => do
    let (o, p) ← deletion site st
    checkLeads p.place p.table false none
    checkTriggers fuel site.ctx p.place p.table .delete
    checkReturning site.ctx site.drafts o st.returning

end

end FormCompiler.Database.Work
