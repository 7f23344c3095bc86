import FormCompiler.Database.Tree.Seek

namespace FormCompiler.Database

structure Spread where
  ends : Array Nat
  sizes : Array Int
  pages : Nat

namespace Spread

def maxPages : Nat := 5

def end_ (s : Spread) (i : Nat) : Nat := s.ends.getD i 0

def size (s : Spread) (i : Nat) : Int := s.sizes.getD i 0

structure Load where
  cells : Array Nat
  room : Int
  dividesByCells : Bool

namespace Load

def cost (c : Load) (i : Nat) : Int := 2 + (c.cells.getD i 0 : Nat)

def passed (c : Load) (i : Nat) (own : Int) : Int :=
  if c.dividesByCells then if i < c.cells.size then c.cost i else 0 else own

end Load

def shrink (c : Load) (i : Nat) : Nat → Spread → Option Spread
  | 0, s => some s
  | fuel + 1, s => do
    if s.size i ≤ c.room then some s
    else
      let s ←
        if s.pages ≤ i + 1 then
          if maxPages < i + 2 then none
          else some { ends := s.ends.set! (i + 1) c.cells.size, sizes := s.sizes.set! (i + 1) 0, pages := i + 2 }
        else some s
      let here := s.end_ i
      let own := c.cost (here - 1)
      shrink c i fuel { s with
        ends := s.ends.set! i (here - 1)
        sizes := (s.sizes.set! i (s.size i - own)).set! (i + 1) (s.size (i + 1) + c.passed here own) }

def grow (c : Load) (i : Nat) : Nat → Spread → Spread
  | 0, s => s
  | fuel + 1, s =>
    let here := s.end_ i
    let own := c.cost here
    if c.cells.size ≤ here || c.room < s.size i + own then s
    else
      grow c i fuel { s with
        ends := s.ends.set! i (here + 1)
        sizes := (s.sizes.set! i (s.size i + own)).set! (i + 1) (s.size (i + 1) - c.passed (here + 1) own) }

def pack (c : Load) : Nat → Nat → Spread → Option Spread
  | 0, _, s => some s
  | fuel + 1, i, s => do
    if s.pages ≤ i then some s
    else
      let s := grow c i (c.cells.size + 1) (← shrink c i (c.cells.size + 1) s)
      if c.cells.size ≤ s.end_ i then some { s with pages := i + 1 }
      else if s.end_ i ≤ (if i = 0 then 0 else s.end_ (i - 1)) then none
      else pack c fuel (i + 1) s

def even (c : Load) (isLast : Bool) : Nat → Nat → Int → Int → Nat → Nat × Int × Int
  | 0, _, left, right, cut => (cut, left, right)
  | fuel + 1, r, left, right, cut =>
    let d := if c.dividesByCells then r + 1 else r
    let own : Int := c.cells.getD r 0
    let next : Int := c.cells.getD d 0
    if right != 0 && left - (own + (if isLast then 0 else 2)) < right + next + 2 then (cut, left, right)
    else
      let right := right + next + 2
      let left := left - (own + 2)
      if r = 0 then (r, left, right) else even c isLast fuel (r - 1) left right r

def level (c : Load) : Nat → Spread → Option Spread
  | 0, s => some s
  | i + 1, s => do
    if s.pages ≤ i + 1 then level c i s
    else
      let (cut, left, right) :=
        even c (i + 2 == s.pages) (c.cells.size + 1) (s.end_ i - 1) (s.size i) (s.size (i + 1)) (s.end_ i)
      let s := { s with ends := s.ends.set! i cut, sizes := (s.sizes.set! i left).set! (i + 1) right }
      if s.end_ i ≤ (if i = 0 then 0 else s.end_ (i - 1)) then none else level c i s

def compute (c : Load) (ends : List Nat) (sizes : List Int) : Option Spread := do
  let pad {α : Type} (xs : List α) (a : α) : Array α := (xs ++ List.replicate (maxPages + 1 - xs.length) a).toArray
  let s : Spread := { ends := pad ends 0, sizes := pad sizes 0, pages := ends.length }
  level c maxPages (← pack c (maxPages + 1) 0 s)

end Spread

namespace Paging

def cellsOf (p : Page) : Paging (Array ByteArray) := do
  let l ← layout
  let held ← (List.range p.count).foldlM (fun (cells : Array ByteArray) i => do
    let c := p.cell l i
    if p.data.size < c.offset + c.size then corrupt
    return cells.push (p.cellBytes l i)) #[]
  match p.surplus with
  | [] => return held
  | (i, _) :: _ =>
    if held.size < i then corrupt
    return held.extract 0 i ++ (p.surplus.map (·.2)).toArray ++ held.extract i held.size

def copyNode (p : Page) (n : Nat) : Paging Page := do
  let l ← layout
  let target : Page := { p with number := n }
  let edge := Bytes.word p.data (p.start + 5)
  let old ← page n
  let data := Bytes.overlay old edge (p.data.extract edge l.usable)
  let data := Bytes.overlay data target.start (p.data.extract p.start p.gap)
  let q ← orCorrupt (Page.read? l n data)
  let _ ← free q
  noteChildren q
  return { q with surplus := p.surplus }

def deepen (p : Page) : Paging Route := do
  let l ← layout
  touch
  let n ← allocate (.near p.number)
  let child ← copyNode p n
  note n .node p.number
  let above := Page.empty l p.number p.kind.above p.data
  let above := { above with data := Bytes.setLong above.data (above.start + 8) n }
  writeNode above
  return { above := [(above, 0)], page := child }

def extend (parent p : Page) (cell : ByteArray) : Paging Page := do
  let l ← layout
  if p.count = 0 then corrupt
  let n ← allocate (.near 0)
  let fresh ← orCorrupt ((Page.empty l n .tableLeaf (← page n)).fill? l #[cell])
  writeNode fresh
  writeNode { p with surplus := [] }
  note n .node parent.number
  noteChildren fresh
  let last := p.cell l (p.count - 1)
  let divider := Bytes.ofNumber 4 p.number ++ Bytes.ofVarint (Bytes.unsigned 64 last.key)
  let parent ← orCorrupt (parent.insert? l parent.count divider.toByteArray)
  return { parent with data := Bytes.setLong parent.data (parent.start + 8) n }

structure Siblings where
  parent : Page
  pages : List Page
  dividers : List ByteArray
  first : Nat
  rightPlace : Nat

def takeDivider (s : Siblings) (i : Nat) : Paging (ByteArray × Siblings) := do
  let l ← layout
  let fromCell (j : Nat) : Paging (ByteArray × Siblings) := do
    let cell := s.parent.cellBytes l j
    let parent ← orCorrupt (s.parent.remove? l j (s.parent.cell l j).size)
    return (cell, { s with parent, dividers := cell :: s.dividers })
  match s.parent.surplus with
  | [] => fromCell (i + s.first)
  | (j, cell) :: _ =>
    if j = i + s.first then
      return (cell, { s with parent := { s.parent with surplus := [] }, dividers := cell :: s.dividers })
    else fromCell (i + s.first - 1)

def collect (child : Page) : Nat → Nat → Siblings → Paging Siblings
  | i, n, s => do
    let p ← if n = child.number then pure child else node n
    let _ ← free p
    let s := { s with pages := p :: s.pages }
    match i with
    | 0 => return s
    | i + 1 =>
      let (cell, s) ← takeDivider s i
      collect child i (Bytes.long cell 0) s

def siblings (parent : Page) (index : Nat) (child : Page) : Paging Siblings := do
  let l ← layout
  let extra := parent.surplus.length
  let total := parent.count + extra
  let first := if total < 2 || index = 0 then 0 else if index = total then total - 2 else index - 1
  let last := if total < 2 then total else 2
  let rightPlace := if last + first - extra = parent.count then parent.start + 8
    else parent.place l (last + first - extra)
  collect child last (Bytes.long parent.data rightPlace) { parent, pages := [], dividers := [], first, rightPlace }

def gather (kind : Page.Kind) : List Page → List ByteArray → Array ByteArray → List Nat →
    Paging (Array ByteArray × List Nat)
  | [], _, cells, ends => return (cells, ends.reverse)
  | p :: pages, dividers, cells, ends => do
    if p.kind != kind then corrupt
    let cells := cells ++ (← cellsOf p)
    let ends := cells.size :: ends
    match dividers with
    | [] => gather kind pages [] cells ends
    | d :: dividers =>
      if kind = .tableLeaf then gather kind pages dividers cells ends
      else
        let d := if kind.isLeaf then d.extract 4 d.size else Bytes.setLong d 0 p.rightChild
        gather kind pages dividers (cells.push (Bytes.resize d (max d.size 4))) ends

def dividerFor (kind : Page.Kind) (n : Nat) (cells : Array ByteArray) (end_ : Nat) : Paging ByteArray := do
  let l ← layout
  let number := (Bytes.ofNumber 4 n).toByteArray
  match kind with
  | .tableLeaf =>
    let last ← orCorrupt cells[end_ - 1]?
    return number ++ (Bytes.ofVarint (Bytes.unsigned 64 (Page.cellOf l kind last 0).key)).toByteArray
  | .indexLeaf =>
    let cell := number ++ (← orCorrupt cells[end_]?)
    return if cell.size = 8 then Bytes.resize cell (Page.cellOf l .indexInner cell 0).size else cell
  | _ => return Bytes.setLong (← orCorrupt cells[end_]?) 0 n

def layOut (kind : Page.Kind) (cells : Array ByteArray) (s : Spread) (rightChild : Nat) (numbers : List Nat) :
    Paging (List Page) := do
  let l ← layout
  let skip := if kind = .tableLeaf then 0 else 1
  numbers.zipIdx.mapM fun (n, i) => do
    let from_ := if i = 0 then 0 else s.end_ (i - 1) + skip
    let p := Page.empty l n kind (← page n)
    let p ← orCorrupt (p.fill? l (cells.extract from_ (s.end_ i)))
    let child ← if i + 1 < s.pages then do
        if kind.isLeaf then pure 0 else do pure (Bytes.long (← orCorrupt cells[s.end_ i]?) 0)
      else pure rightChild
    let p := if kind.isLeaf then p else { p with data := Bytes.setLong p.data (p.start + 8) child }
    writeNode p
    return p

def supply (parent : Nat) : Nat → Nat → List Nat → Paging (List Nat)
  | 0, _, numbers => return numbers
  | more + 1, near, numbers => do
    let n ← allocate (.near near)
    note n .node parent
    supply parent more n (numbers ++ [n])

def ascending (numbers : List Nat) : List Nat := numbers.mergeSort (fun a b => decide (a ≤ b))

def share (parent : Page) (index : Nat) (child : Page) (isRoot : Bool) : Paging Page := do
  let l ← layout
  touch
  let _ ← free parent
  let sib ← siblings parent index child
  let leftmost ← orCorrupt sib.pages.head?
  let rightmost ← orCorrupt sib.pages.getLast?
  let kind := leftmost.kind
  let (cells, ends) ← gather kind sib.pages sib.dividers #[] []
  let room := l.usable - (if kind.isLeaf then 8 else 12)
  let sizes ← sib.pages.mapM fun p => do
    let free ← free p
    return (room : Int) - free + p.surplus.foldl (fun (n : Int) c => n + 2 + c.2.size) 0
  let load : Spread.Load := { cells := cells.map (·.size), room, dividesByCells := kind != .tableLeaf }
  let s ← orCorrupt (Spread.compute load ends sizes)
  let old := sib.pages.map (·.number)
  let numbers ← supply parent.number (s.pages - old.length) leftmost.number (old.take s.pages)
  let numbers := ascending numbers
  let pages ← layOut kind cells s rightmost.rightChild numbers
  for p in pages do noteChildren p
  let parent := { sib.parent with data := Bytes.setLong sib.parent.data sib.rightPlace (numbers.getLastD 0) }
  let parent ← (List.range (s.pages - 1)).foldlM (fun parent i => do
    let d ← dividerFor kind (numbers.getD i 0) cells (s.end_ i)
    orCorrupt (parent.insert? l (sib.first + i) d)) parent
  let parent ← collapse l pages parent
  noteChildren parent
  for n in old.drop s.pages do release n
  return parent
where
  collapse (l : Layout) (pages : List Page) (parent : Page) : Paging Page := do
    match pages with
    | p :: _ =>
      if isRoot && parent.count = 0 && parent.surplus.isEmpty && parent.start ≤ (← free p) then
        let data ← orCorrupt (p.defragment? l (-1))
        let parent ← copyNode { p with data } parent.number
        writeNode parent
        release p.number
        return parent
      else return parent
    | [] => return parent

def balance : Nat → Route → Paging Route
  | 0, _ => corrupt
  | fuel + 1, route => do
    let l ← layout
    let p := route.page
    if p.surplus.isEmpty && (← free p) * 3 ≤ l.usable * 2 then
      writeNode p
      return route
    match route.above with
    | [] =>
      if p.surplus.isEmpty then
        writeNode p
        return route
      balance fuel (← deepen p)
    | (parent, i) :: above =>
      let parent ←
        match p.surplus with
        | [(j, cell)] =>
          if p.kind = .tableLeaf && j = p.count && parent.number != 1 && parent.count = i then extend parent p cell
          else share parent i p above.isEmpty
        | _ => share parent i p above.isEmpty
      balance fuel { above, page := parent }

end Paging

end FormCompiler.Database
