import FormCompiler.Database.Connection.Basic
import FormCompiler.Database.Tree.Root

namespace FormCompiler.Database.Work

open Store (Obstacle Code)

def fileOf (d : Disk) (l : Location) : ByteArray :=
  let b := d.bytes l
  if b.size = 1 then .empty else b

variable (i : Nat) (l : Location)

def finishJournal : Work Unit := do
  let m ← member i
  let place := l.beside "-journal"
  onDisk fun d =>
    if m.journal = .truncate then d.write place .empty
    else if m.journal = .persist || (m.keepsLock && m.journal != .log) then d.write place (Bytes.zeros 28)
    else d.remove place
  modifyMember i fun m => { m with hasOpenJournal := m.keepsLock }

def lock : Work Unit := do
  let m ← member i
  if m.locks && m.system = .dotfile && !m.holdsLock then
    let place := l.beside ".lock"
    if Path.isLongName place.name then refuse .ioLock
    if (← get).disk.has place then refuse .busy
    onDisk (·.put place .folder)
    modifyMember i fun m => { m with holdsLock := true }

def unlock : Work Unit := do
  let m ← member i
  match m.place with
  | some l =>
    if m.holdsLock && !m.keepsLock then
      onDisk (·.remove (l.beside ".lock"))
      modifyMember i fun m => { m with holdsLock := false }
  | none => return

/-- Uses up a journal that is there. One beside an empty file belongs to a database that is gone, and one
that starts with a NUL has been used. A lock that others can see looks like a change that is going on. -/
def settleJournal : Work Unit := do
  let c ← get
  let m ← member i
  let journal := c.disk.bytes (l.beside "-journal")
  if journal.size = 0 || m.holdsLock then return
  else if (fileOf c.disk l).size = 0 && !m.hasOpenJournal then
    if !m.isReadOnly then onDisk (·.remove (l.beside "-journal"))
  else if Bytes.byte journal 0 = 0 then return
  else if m.isReadOnly then refuse .readOnlyJournal
  else finishJournal i l

def indexBytes : ByteArray := ⟨#[0x18, 0xE2, 0x2D, 0, 0, 0, 0, 0]⟩

def enterLog : Work Unit := do
  let m ← member i
  if !m.supportsLog || Path.isLongName (l.beside "-wal").name then refuse .cannotOpen
  let place := l.beside "-wal"
  if !(← get).disk.has place then onDisk (·.write place .empty)
  if !m.keepsLock && m.system = .standard then onDisk (·.write (l.beside "-shm") indexBytes)
  match Log.read ((← get).disk.bytes place) with
  | .ok log => modifyMember i fun m => { m with log := some log, logIsPrivate := m.keepsLock }
  | .error code => refuse code

def settleLog : Work Unit := do
  let d := (← get).disk
  let m ← member i
  if (d.bytes (l.beside "-wal")).size = 0 || m.log.isSome then return
  else if (fileOf d l).size = 0 then onDisk (·.remove (l.beside "-wal"))
  else enterLog i l

def isPageSize (n : Nat) : Bool := [512, 1024, 2048, 4096, 8192, 16384, 32768, 65536].contains n

def pageSize? (file : ByteArray) : Option Nat :=
  let n := Bytes.word file 16
  let size := if n = 1 then 65536 else n
  if isPageSize size then some size else none

def isSameRange (b : ByteArray) (i j n : Nat) : Bool := b.extract i (i + n) == b.extract j (j + n)

def pagesOf (file : ByteArray) (size : Nat) : Array ByteArray :=
  (Array.range ((file.size + size - 1) / size)).map fun k =>
    Bytes.resize (file.extract (k * size) (k * size + size)) size

def pageCount (file : ByteArray) (size : Nat) : Nat :=
  let n := Bytes.long file 28
  if n = 0 || !isSameRange file 24 92 4 then (file.size + size - 1) / size else n

def readVolume (m : Member) (file : ByteArray) (overlooks : Bool) : Except Code Volume := do
  let size := (pageSize? file).getD m.layout.size
  let blank : Volume := {
    layout := m.layout
    limit := m.pageLimit
    mapsPages := m.mapsPages
    isIncremental := m.isIncremental
    canJournal := !m.lacksJournal }
  let counted := pageCount file size
  if counted = 0 then return blank
  if file.extract 0 16 != Volume.magic || 2 < Bytes.byte file 19
      || file.extract 21 24 != ⟨#[64, 32, 32]⟩ || (pageSize? file).isNone then throw .notADatabase
  let held := (file.size + size - 1) / size
  if held < counted && !overlooks then throw .corrupt
  let usable := size - Bytes.byte file 20
  if usable < 480 then throw .notADatabase
  return { blank with
    layout := ⟨size, usable⟩
    pages := pagesOf file size
    count := min counted held
    mapsPages := Bytes.long file 52 != 0
    isIncremental := Bytes.long file 64 != 0 }

def saysLogged (file : ByteArray) : Bool := Bytes.byte file 19 == 2 && file.extract 0 16 == Volume.magic

def readFile : Work Volume := do
  let raw : Work ByteArray := do
    let file := fileOf (← get).disk l
    return ((← member i).log).elim file (·.applyTo file)
  let file ← raw
  let m ← member i
  let size := (pageSize? file).getD m.layout.size
  if pageCount file size != 0 && file.extract 0 16 == Volume.magic then
    if 2 < Bytes.byte file 18 then modifyMember i fun m => { m with isMarkedReadOnly := true }
    if saysLogged file && !m.isImmutable && m.log.isNone then enterLog i l
  match readVolume (← member i) (← raw) (← get).overlooks with
  | .ok v => return v
  | .error code => refuse code

def enter : Work Unit := do
  let m ← member i
  if m.current.isSome then return
  match m.place with
  | none =>
    modifyMember i fun m => { m with current := some { m.own with
      limit := m.pageLimit
      layout := if m.own.count = 0 then m.layout else m.own.layout
      mapsPages := if m.own.count = 0 then m.mapsPages else m.own.mapsPages
      isIncremental := if m.own.count = 0 then m.isIncremental else m.own.isIncremental } }
  | some l =>
    match ← attempt (open_ i l) with
    | .ok v =>
      modifyMember i fun m => { m with
        current := some v
        layout := v.layout
        mapsPages := v.mapsPages
        isIncremental := v.isIncremental }
    | .error o =>
      unlock i
      throw o
where
  open_ (i : Nat) (l : Location) : Work Volume := do
    if !(← member i).isImmutable then
      lock i l
      settleJournal i l
      settleLog i l
    readFile i l

def enterForChange : Work Unit := do
  let m ← member i
  if m.isReadOnly || m.isMarkedReadOnly then refuse .readOnly
  enter i
  let m ← member i
  if m.isMarkedReadOnly then refuse .readOnly
  if !m.isWriting then
    modifyMember i fun m => { m with isWriting := true, before := m.current, isSized := true }
    paging i Paging.start

def enterForStatement : Work Unit := do
  if (← get).queryOnly then refuse .readOnly
  enterForChange i

def leave : Work Unit := do
  modifyMember i fun m => { m with current := none, isWriting := false, before := none }
  unlock i

/-- Gives up what has been changed. The journal has been used if there was anything. Without one, what is kept in
memory stays as it is. -/
def rollBack : Work Unit := do
  let m ← member i
  match m.place, m.current with
  | some l, some v =>
    if m.isWriting && v.isChanged && m.log.isNone && m.journal.isFile && v.canJournal then finishJournal i l
  | none, some v => if m.journal = .off then modifyMember i fun m => { m with own := { v with isChanged := false } }
  | _, none => pure ()
  leave i

def writerVersion : Nat := 3046000

def countChange (v : Volume) : Volume :=
  let first := v.page 1
  let n := (Bytes.long first 24 + 1) % 0x100000000
  let first := Bytes.setLong (Bytes.setLong (Bytes.setLong first 24 n) 92 n) 96 writerVersion
  { v with pages := v.pages.setIfInBounds 0 first }

def changedPages (before after : Volume) : List (Nat × ByteArray) :=
  (List.range after.count).filterMap fun k =>
    let data := after.page (k + 1)
    if before.pages[k]?.any (· == data) then none else some (k + 1, data)

def checkpoint : Work Unit := do
  let m ← member i
  match m.place, m.log with
  | some l, some log =>
    if !log.frames.isEmpty then
      onDisk fun d => d.write l (log.applyTo (fileOf d l))
      modifyMember i fun m => { m with log := some { log with frames := #[] } }
  | _, _ => return

def writeBack (v : Volume) : Work Unit := do
  let m ← member i
  match m.place with
  | none => modifyMember i fun m => { m with own := { v with isChanged := false } }
  | some l =>
    match m.log with
    | some log =>
      let changed := changedPages (m.before.getD v) v
      let v := if changed.any (·.1 == 1) then countChange v else v
      let pages := changed.map fun (n, _) => (n, v.page n)
      let log := if log.bytes.size = 0 then Log.start v.layout.size else log
      let log := log.append (if pages.isEmpty then [(1, v.page 1)] else pages) v.count
      modifyMember i fun m => { m with log := some log }
      onDisk (·.write (l.beside "-wal") log.bytes)
      let limit := (← get).logLimit
      if limit != 0 && limit ≤ log.frames.size then checkpoint i
    | none =>
      let v := countChange v
      onDisk (·.write l (v.pages.foldl (fun (b : ByteArray) p => b ++ p) .empty))
      if m.journal.isFile || m.journal = .log then finishJournal i l

def commitMember : Work Unit := do
  let m ← member i
  if m.isWriting && m.current.any (·.isChanged) then
    paging i Paging.shrinkAll
    writeBack i (← volume i)
  leave i

def hasOtherTables (m : Member) : Bool :=
  match m.before, m.current with
  | some a, some b => m.isWriting && a.cookie 1 != b.cookie 1
  | _, _ => false

def endTransaction : Work Unit :=
  modify fun c => { c with
    inTransaction := false
    savepoints := []
    defersChecks := false
    danglingLater := 0
    danglingDeferred := 0 }

def rollBackAll : Work Unit := do
  for i in ← memberNumbers do
    let m ← member i
    rollBack i
    if hasOtherTables m then modifyMember i fun m => { m with schema := none }
  endTransaction

def commitAll : Work Unit := do
  for i in ← memberNumbers do
    match ← attempt (commitMember i) with
    | .ok _ => pure ()
    | .error o =>
      rollBackAll
      throw o
  endTransaction

def danglingRow : Obstacle := .detailed (.against .foreignKey) "FOREIGN KEY constraint failed"

def checkDangling : Work Unit := do
  let c ← get
  if 0 < c.danglingLater + c.danglingDeferred then throw danglingRow

def checkStatement : Work Unit := do
  let c ← get
  if 0 < c.dangling then throw danglingRow
  if !c.inTransaction then checkDangling

def statement {α : Type} (x : Work α) : Work α := do
  modify fun c => { c with keepsPart := false, used := [], viewing := [], dangling := 0 }
  let start ← get
  match ← attempt (do
      let a ← x
      checkStatement
      return a) with
  | .ok a =>
    if !(← get).inTransaction then commitAll
    return a
  | .error o =>
    if (← get).keepsPart then
      if !(← get).inTransaction then commitAll
    else if start.inTransaction && (← get).inTransaction then
      modify fun c => { c with
        danglingLater := start.danglingLater
        danglingDeferred := start.danglingDeferred
        members := c.members.zipIdx.map fun (m, i) =>
          match start.members[i]? with
          | some b =>
            match b.current <|> m.before with
            | some v => { m with
              current := some { v with isChanged := v.isChanged || m.current.any (·.isChanged) }
              schema := b.schema }
            | none => m
          | none => m }
    else rollBackAll
    throw o

def removeLog : Work Unit := do
  checkpoint i
  modifyMember i fun m => { m with log := none }
  onDisk fun d => (d.remove (l.beside "-wal")).remove (l.beside "-shm")

def closeMember : Work Unit := do
  rollBack i
  let m ← member i
  match m.place with
  | none => return
  | some l =>
    if m.log.isSome && !m.isReadOnly then removeLog i l
    if m.hasOpenJournal && m.journal = .delete then onDisk (·.remove (l.beside "-journal"))
    modifyMember i fun m => { m with keepsLock := false, hasOpenJournal := false }
    unlock i

def closeAll : Work Unit := do
  for i in ← memberNumbers do closeMember i

end FormCompiler.Database.Work
