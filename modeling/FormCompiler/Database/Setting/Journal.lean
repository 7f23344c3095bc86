import FormCompiler.Database.Definition.Alter

namespace FormCompiler.Database.Work

open Store (Obstacle Code)

variable (i : Nat)

def setLogged (logged : Bool) : Work Unit := do
  let version := if logged then 2 else 1
  let m ← member i
  match m.place with
  | none => return
  | some l =>
    if logged then enter i
    else
      match readVolume m (fileOf (← get).disk l) (← get).overlooks with
      | .ok v => modifyMember i fun m => { m with current := some v }
      | .error code => refuse code
    let v ← volume i
    if v.count = 0 || Bytes.byte (v.page 1) 18 != version || Bytes.byte (v.page 1) 19 != version then
      enterForChange i
      paging i do
        let first ← Paging.page 1
        Paging.write 1 (Bytes.setByte (Bytes.setByte first 18 version) 19 version)

def takeJournal (new : Journal) : Work Unit := do
  let m ← member i
  match m.place with
  | none => return
  | some l =>
    if m.journal.staysBehind && !new.staysBehind && new != .log && !m.keepsLock && !m.isReadOnly then
      onDisk (·.remove (l.beside "-journal"))
    modifyMember i fun m => { m with journal := new }

def setJournal (new : Journal) : Work Unit := do
  let m ← member i
  let isBusy := m.isWriting && m.current.any (·.isChanged)
  match m.place with
  | none => if !isBusy && (new = .memory || new = .off) then modifyMember i fun m => { m with journal := new }
  | some l =>
    let old := if m.log.isSome then .log else m.journal
    if new = old || isBusy || (new = .log && !m.supportsLog) then return
    if new = .log || old = .log then
      if (← get).inTransaction then
        complain ("cannot change " ++ (if new = .log then "into" else "out of") ++
          " wal mode from within a transaction")
      if old = .log then
        if m.isReadOnly then refuse .ioLock
        removeLog i l
        modifyMember i fun m => { m with journal := new }
        setLogged i false
      else
        if old = .memory then takeJournal i .off
        setLogged i true
        takeJournal i .log
    else takeJournal i new

def journalOf? (word : String) : Option Journal :=
  (Journal.names.find? fun j => (Word.lower word).toList.isPrefixOf j.1.toList).map (·.2)

def setJournals (isNamed : Bool) (word : String) : Work Unit := do
  match journalOf? word with
  | none => return
  | some new =>
    for k in (← memberNumbers).reverse do
      if k = i || !isNamed then setJournal k new

def setLock (keepsLock : Bool) : Work Unit :=
  modifyMember i fun m =>
    if m.place.isSome && !m.isImmutable && !m.logIsPrivate then { m with keepsLock } else m

def setLocks (isNamed : Bool) (word : String) : Work Unit := do
  let keeps ← match Word.lower word with
    | "exclusive" => pure true
    | "normal" => pure false
    | _ => return
  if !isNamed then
    for k in ← memberNumbers do
      if 2 ≤ k then setLock k keeps
  setLock i keeps

def checkpoints (isNamed : Bool) (word : Option String) : Work Unit := do
  for k in ← memberNumbers do
    if k = i || !isNamed then
      let m ← member k
      if m.current.isSome then refuse .locked
      match m.place with
      | none => pure ()
      | some l =>
        if m.log.isSome then
          if m.isReadOnly then refuse .readOnly
          checkpoint k
          if word.any fun w => Word.lower w == "truncate" then
            modifyMember k fun m => { m with log := some {} }
            onDisk (·.write (l.beside "-wal") .empty)

end FormCompiler.Database.Work
