import FormCompiler.Database.Page.Space
import FormCompiler.Store.Obstacle

namespace FormCompiler.Database

open Store (Code)

structure Volume where
  layout : Layout
  pages : Array ByteArray := #[]
  count : Nat := 0
  limit : Nat := 0xFFFFFFFE
  mapsPages : Bool := false
  isIncremental : Bool := false
  canJournal : Bool := true
  isChanged : Bool := false

namespace Volume

def magic : ByteArray := "SQLite format 3\x00".toUTF8

def page (v : Volume) (n : Nat) : ByteArray := v.pages[n - 1]?.getD (Bytes.zeros v.layout.size)

def header (v : Volume) (offset : Nat) : Nat := Bytes.long (v.page 1) offset

def cookie (v : Volume) (i : Nat) : Nat := v.header (36 + 4 * i)

end Volume

abbrev Paging := EStateM Code Volume

namespace Paging

def corrupt {α : Type} : Paging α := throw .corrupt

def orCorrupt {α : Type} : Option α → Paging α
  | some a => pure a
  | none => corrupt

def layout : Paging Layout := return (← get).layout

def usable : Paging Nat := return (← get).layout.usable

def page (n : Nat) : Paging ByteArray := do
  let v ← get
  if n = 0 then corrupt
  if v.pages.size < n && v.limit < n then throw .full
  return v.page n

def touch : Paging Unit := do
  let v ← get
  if !v.isChanged then
    if !v.canJournal then throw .cannotOpen
    set { v with isChanged := true }

def write (n : Nat) (data : ByteArray) : Paging Unit := do
  touch
  modify fun v =>
    let missing := n - v.pages.size
    let pages := if missing = 0 then v.pages else v.pages ++ Array.replicate missing (Bytes.zeros v.layout.size)
    { v with pages := pages.setIfInBounds (n - 1) data }

def setHeader (offset n : Nat) : Paging Unit := do
  let first ← page 1
  write 1 (Bytes.setLong first offset n)

def setCookie (i n : Nat) : Paging Unit := setHeader (36 + 4 * i) n

def node (n : Nat) : Paging Page := do
  let v ← get
  if v.count < n then corrupt
  orCorrupt (Page.read? v.layout n (← page n))

def writeNode (p : Page) : Paging Unit := do
  if p.number = 1 then write 1 (Bytes.overlay p.data 0 ((← page 1).extract 0 100)) else write p.number p.data

def free (p : Page) : Paging Nat := do orCorrupt (p.free? (← layout))

def start : Paging Unit := do
  let v ← get
  if v.count = 0 then
    touch
    let l := v.layout
    let data := Bytes.overlay (Bytes.zeros l.size) 0 Volume.magic
    let data := Bytes.setWord data 16 (if l.size = 65536 then 1 else l.size)
    let data := Bytes.overlay data 18 ⟨#[1, 1, (l.size - l.usable).toUInt8, 64, 32, 32]⟩
    let data := (Page.empty l 1 .tableLeaf data).data
    let data := Bytes.setLong data 52 (if v.mapsPages then 1 else 0)
    let data := Bytes.setLong data 64 (if v.isIncremental then 1 else 0)
    write 1 (Bytes.setLong data 28 1)
    modify fun v => { v with count := 1 }

end Paging

end FormCompiler.Database
