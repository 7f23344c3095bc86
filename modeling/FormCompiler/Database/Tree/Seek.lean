import FormCompiler.Database.Tree.FreeList

namespace FormCompiler.Database.Paging

def chain : Nat → Nat → Nat → ByteArray → Paging ByteArray
  | 0, _, _, _ => corrupt
  | fuel + 1, n, rest, read => do
    let v ← get
    if n = 0 || v.count < n then corrupt
    let data ← page n
    let part := min rest (v.layout.usable - 4)
    let read := read ++ data.extract 4 (4 + part)
    if part = rest then return read else chain fuel (Bytes.long data 0) (rest - part) read

def entry (p : Page) (c : Cell) : Paging ByteArray := do
  let v ← get
  let l := v.layout
  if l.usable < c.payload + c.inPage || l.size * v.count < c.total then corrupt
  let here := p.data.extract c.payload (c.payload + c.inPage)
  if c.inPage = c.total then return here
  chain (v.count + 1) (Bytes.long p.data (c.payload + c.inPage)) (c.total - c.inPage) here

def spill : Nat → ByteArray → Nat → Paging Nat
  | 0, _, _ => corrupt
  | fuel + 1, rest, previous => do
    let v ← get
    let l := v.layout
    let near := if v.mapsPages then
        let n := previous + 1
        if l.isMapPage n then n + 1 else n
      else previous
    let n ← allocate (.near near)
    note n (if previous = 0 then .firstRest else .laterRest) previous
    let room := l.usable - 4
    let data := Bytes.setLong (Bytes.overlay (← page n) 4 (rest.extract 0 room)) 0 0
    write n data
    if room < rest.size then
      let next ← spill fuel (rest.extract room rest.size) n
      write n (Bytes.setLong (← page n) 0 next)
    return n

def cellFor (kind : Page.Kind) (key : Option Int) (payload : ByteArray) : Paging ByteArray := do
  let l ← layout
  let most := if kind.isTable then l.maxLeaf else l.maxLocal
  let head := Bytes.ofVarint payload.size ++ (key.elim [] fun k => Bytes.ofVarint (Bytes.unsigned 64 k))
  let inPage := l.localSize most payload.size
  let front := List.replicate (if kind.isLeaf then 0 else 4) 0 ++ head
  let cell := front.toByteArray ++ payload.extract 0 inPage
  if inPage = payload.size then return Bytes.resize cell (max cell.size 4)
  let n ← spill (payload.size + 1) (payload.extract inPage payload.size) 0
  return cell ++ (Bytes.ofNumber 4 n).toByteArray

def releaseChain : Nat → Nat → Paging Unit
  | 0, _ => return
  | more + 1, n => do
    if n < 2 || (← get).count < n then corrupt
    let next ← if more = 0 then pure 0 else do pure (Bytes.long (← page n) 0)
    release n
    releaseChain more next

def releaseRest (p : Page) (c : Cell) : Paging Unit := do
  if c.inPage < c.total then
    let l ← layout
    if l.size < c.offset + c.size then corrupt
    let each := l.usable - 4
    releaseChain ((c.total - c.inPage + each - 1) / each) (Bytes.long p.data (c.offset + c.size - 4))

end FormCompiler.Database.Paging

namespace FormCompiler.Database

open Store (Code)

structure Route where
  above : List (Page × Nat) := []
  page : Page
  index : Nat := 0

namespace Paging

def maxDepth : Nat := 20

variable (n : Nat)

def root (isTable : Bool) : Paging Page := do
  let p ← node n
  if p.kind.isTable != isTable then corrupt
  return p

def below (p : Page) (n : Nat) : Paging Page := do
  let q ← node n
  if q.count = 0 || q.kind.isTable != p.kind.isTable then corrupt
  return q

def rootRoute (isTable : Bool) : Paging Route := do
  let p ← root n isTable
  if p.count = 0 && !p.kind.isLeaf then
    if n != 1 then corrupt
    return { above := [(p, 0)], page := ← below p p.rightChild }
  return { page := p }

def halve (order : Page → Nat → Paging Ordering) (p : Page) : Nat → Nat → Nat → Nat → Paging (Nat × Nat × Ordering)
  | 0, low, _, i => return (low, i, .lt)
  | fuel + 1, low, high, i => do
    match ← order p i with
    | .lt => if high ≤ i + 1 then return (i + 1, i, .lt) else halve order p fuel (i + 1) high ((i + high) / 2)
    | .gt => if i ≤ low then return (low, i, .gt) else halve order p fuel low i ((low + i - 1) / 2)
    | .eq => return (i, i, .eq)

def descend (order : Page → Nat → Paging Ordering) : Nat → Route → Paging (Route × Ordering)
  | 0, _ => corrupt
  | fuel + 1, path => do
    let p := path.page
    let (low, i, found) ← halve order p (p.count + 1) 0 p.count ((p.count - 1) / 2)
    if p.kind.isLeaf || (found = .eq && !p.kind.isTable) then return ({ path with index := i }, found)
    let q ← below p (p.child (← layout) low)
    descend order fuel { above := (p, low) :: path.above, page := q }

def seek (isTable : Bool) (order : Page → Nat → Paging Ordering) : Paging (Route × Ordering) := do
  let path ← rootRoute n isTable
  if path.page.count = 0 then return (path, .lt) else descend order (maxDepth - path.above.length) path

def rowOrder (key : Int) (p : Page) (i : Nat) : Paging Ordering := do
  return compare (p.cell (← layout) i).key key

def seekRow (key : Int) : Paging (Route × Ordering) := seek n true (rowOrder key)

def lastBelow : Nat → Route → Paging Route
  | 0, _ => corrupt
  | fuel + 1, path => do
    let p := path.page
    if p.kind.isLeaf then return { path with index := p.count - 1 }
    let q ← below p p.rightChild
    lastBelow fuel { above := (p, p.count) :: path.above, page := q }

def lastKey : Paging (Option Int) := do
  let path ← rootRoute n true
  if path.page.count = 0 then return none
  let path ← lastBelow maxDepth path
  return some (path.page.cell (← layout) path.index).key

structure Scan (α : Type) where
  items : Array α := #[]
  stopped : Option Code := none

def Scan.push {α : Type} (s : Scan α) (x : Paging α) : Paging (Scan α) := fun v =>
  match x v with
  | .ok a v => .ok { s with items := s.items.push a } v
  | .error e v => .ok { s with stopped := some e } v

def scanFrom {α : Type} (visit : Page → Cell → Paging α) : Nat → Page → Scan α → Paging (Scan α)
  | 0, _, s => return { s with stopped := some .corrupt }
  | fuel + 1, p, s => do
    let l ← layout
    let down (s : Scan α) (n : Nat) : Paging (Scan α) := fun v =>
      match below p n v with
      | .ok q v => scanFrom visit fuel q s v
      | .error e v => .ok { s with stopped := some e } v
    let s ← (List.range p.count).foldlM (fun s i => do
      if s.stopped.isSome then return s
      let s ← if p.kind.isLeaf then pure s else down s (p.child l i)
      if s.stopped.isSome || p.kind = .tableInner then return s
      s.push (visit p (p.cell l i))) s
    if p.kind.isLeaf || s.stopped.isSome then return s
    down s p.rightChild

def scan {α : Type} (n : Nat) (isTable : Bool) (visit : Page → Cell → Paging α) : Paging (Scan α) := fun v =>
  match root n isTable v with
  | .error e v => .ok { stopped := some e } v
  | .ok p v =>
    if p.count = 0 && p.kind.isLeaf then .ok {} v
    else if p.count = 0 && n != 1 then .ok { stopped := some .corrupt } v
    else scanFrom visit maxDepth p {} v

def rows : Paging (Scan (Int × ByteArray)) := scan n true fun p c => do return (c.key, ← entry p c)

def keys : Paging (Scan ByteArray) := scan n false entry

end Paging

end FormCompiler.Database
