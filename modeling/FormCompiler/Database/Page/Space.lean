import FormCompiler.Database.Page.Basic

namespace FormCompiler.Database.Page

def top (p : Page) : Nat :=
  let n := Bytes.word p.data (p.start + 5)
  if n = 0 then 65536 else n

def firstBlock (p : Page) : Nat := Bytes.word p.data (p.start + 1)

def fragments (p : Page) : Nat := Bytes.byte p.data (p.start + 7)

def blocksFrom (l : Layout) (data : ByteArray) : Nat → Nat → Option Nat
  | 0, _ => none
  | fuel + 1, pc =>
    if l.usable - 4 < pc then none
    else
      let next := Bytes.word data pc
      let size := Bytes.word data (pc + 2)
      if next ≤ pc + size + 3 then
        if next = 0 && pc + size ≤ l.usable then some size else none
      else (blocksFrom l data fuel next).map (· + size)

variable (p : Page) (l : Layout)

def free? : Option Nat := do
  let first := p.firstBlock
  let blocks ←
    if first = 0 then some 0
    else if first < p.top then none
    else blocksFrom l p.data l.size first
  let free := p.fragments + p.top + blocks
  if l.usable < free || free < p.gap then none else some (free - p.gap)

inductive Slot where
  | absent
  | broken
  | found (data : ByteArray) (place : Nat)

def findSlot (n : Nat) : Slot := go l.size (p.start + 1) p.firstBlock
where
  go : Nat → Nat → Nat → Slot
    | 0, _, _ => .broken
    | fuel + 1, link, pc =>
      if l.usable < pc + n then if l.usable < pc + 4 then .broken else .absent
      else
        let size := Bytes.word p.data (pc + 2)
        if n ≤ size then
          let rest := size - n
          if rest < 4 then
            if 57 < p.fragments then .absent
            else
              let data := Bytes.setWord p.data link (Bytes.word p.data pc)
              .found (Bytes.setByte data (p.start + 7) (p.fragments + rest)) pc
          else if l.usable < rest + pc + n then .broken
          else .found (Bytes.setWord p.data (pc + 2) rest) (pc + rest)
        else
          let next := Bytes.word p.data pc
          if next ≤ pc then if next = 0 then .absent else .broken else go fuel pc next

def pack? : Option (ByteArray × Nat) :=
  let start := Bytes.word p.data (p.start + 5)
  (List.range p.count).foldlM (fun (data, edge) i =>
    let pc := Bytes.word p.data (p.pointers + 2 * i)
    let size := (cellOf l p.kind p.data pc).size
    if l.usable - 4 < pc || edge < start + size || l.usable < pc + size then none
    else
      let data := Bytes.setWord data (p.pointers + 2 * i) (edge - size)
      some (Bytes.overlay data (edge - size) (p.data.extract pc (pc + size)), edge - size))
    (p.data, l.usable)

def close? : Option (Option (ByteArray × Nat)) :=
  let first := p.firstBlock
  if l.usable - 4 < first then none
  else if first = 0 then some none
  else
    let second := Bytes.word p.data first
    if l.usable - 4 < second then none
    else if second != 0 && Bytes.word p.data second != 0 then some none
    else
      let size := Bytes.word p.data (first + 2)
      let start := Bytes.word p.data (p.start + 5)
      let size2 := if second = 0 then 0 else Bytes.word p.data (second + 2)
      let fits := if second = 0 then first + size ≤ l.usable
        else first + size ≤ second && second + size2 ≤ l.usable
      if first ≤ start || !fits then none
      else
        let data := if second = 0 then p.data
          else Bytes.move p.data (first + size) (first + size + size2) (second - (first + size))
        let total := size + size2
        let data := Bytes.move data start (start + total) (first - start)
        let data := (List.range p.count).foldl (fun data i =>
          let pc := Bytes.word data (p.pointers + 2 * i)
          if pc < first then Bytes.setWord data (p.pointers + 2 * i) (pc + total)
          else if pc < second then Bytes.setWord data (p.pointers + 2 * i) (pc + size2)
          else data) data
        some (some (data, start + total))

def defragment? (lost : Int) : Option ByteArray := do
  let free ← p.free? l
  let closed ← if (p.fragments : Int) ≤ lost then close? p l else some none
  let (data, edge) ←
    match closed with
    | some moved => some moved
    | none => (pack? p l).map fun (data, edge) => (Bytes.setByte data (p.start + 7) 0, edge)
  if Bytes.byte data (p.start + 7) + edge != free + p.gap then none
  else
    let data := Bytes.setWord data (p.start + 5) edge
    let data := Bytes.setWord data (p.start + 1) 0
    some (Bytes.clear data p.gap (edge - p.gap))

def allocate? (free n : Nat) : Option (ByteArray × Nat) := do
  let edge := Bytes.word p.data (p.start + 5)
  let edge ←
    if edge < p.gap then if edge = 0 && l.usable = 65536 then some 65536 else none
    else if l.usable < edge then none
    else some edge
  let slot := if p.firstBlock != 0 && p.gap + 2 ≤ edge then p.findSlot l n else .absent
  match slot with
  | .broken => none
  | .found data place => if place ≤ p.gap then none else some (data, place)
  | .absent =>
    let (data, edge) ←
      if edge < p.gap + 2 + n then do
        let data ← p.defragment? l (min 4 ((free : Int) - (2 + n)))
        some (data, (top { p with data }))
      else some (p.data, edge)
    some (Bytes.setWord data (p.start + 5) (edge - n), edge - n)

def insert? (i : Nat) (cell : ByteArray) : Option Page := do
  let free ← p.free? l
  if !p.surplus.isEmpty || free < cell.size + 2 then some { p with surplus := p.surplus ++ [(i, cell)] }
  else
    let (data, place) ← p.allocate? l free cell.size
    let data := Bytes.overlay data place cell
    let link := p.pointers + 2 * i
    let data := Bytes.move data link (link + 2) (2 * (p.count - i))
    let data := Bytes.setWord data link place
    some { p with data := Bytes.setWord data (p.start + 3) (p.count + 1), count := p.count + 1 }

def linkTo? (p : Page) (place : Nat) : Nat → Nat → Option (Nat × Nat)
  | 0, _ => none
  | fuel + 1, link =>
    let block := Bytes.word p.data link
    if place ≤ block then some (link, block)
    else if block ≤ link then if block = 0 then some (link, 0) else none
    else linkTo? p place fuel block

def release? (place size : Nat) : Option ByteArray := do
  let first := p.start + 1
  let (link, block, from_, till, lost) ←
    if p.firstBlock = 0 then some (first, 0, place, place + size, 0)
    else do
      let (link, block) ← p.linkTo? place l.size first
      if l.usable - 4 < block then none
      let (block, till, lost) ←
        if block != 0 && block ≤ place + size + 3 then
          let till := block + Bytes.word p.data (block + 2)
          if block < place + size || l.usable < till then none
          else some (Bytes.word p.data block, till, block - (place + size))
        else some (block, place + size, 0)
      let (from_, lost) ←
        if first < link then
          let end_ := link + Bytes.word p.data (link + 2)
          if place ≤ end_ + 3 then if place < end_ then none else some (link, lost + (place - end_))
          else some (place, lost)
        else some (place, lost)
      if p.fragments < lost then none
      some (link, block, from_, till, lost)
  let data := if lost = 0 then p.data else Bytes.setByte p.data (p.start + 7) (p.fragments - lost)
  let edge := Bytes.word data (p.start + 5)
  if from_ ≤ edge then
    if from_ < edge || link != first then none
    else some (Bytes.setWord (Bytes.setWord data first block) (p.start + 5) till)
  else
    let data := Bytes.setWord data link from_
    let data := Bytes.setWord data from_ block
    some (Bytes.setWord data (from_ + 2) (till - from_))

def remove? (i size : Nat) : Option Page := do
  let place := Bytes.word p.data (p.pointers + 2 * i)
  if l.usable < place + size then none
  let data ← p.release? l place size
  let count := p.count - 1
  if count = 0 then
    let data := Bytes.clear data (p.start + 1) 4
    let data := Bytes.setByte data (p.start + 7) 0
    some { p with data := Bytes.setWord data (p.start + 5) l.usable, count }
  else
    let link := p.pointers + 2 * i
    let data := Bytes.move data (link + 2) link (2 * (count - i))
    some { p with data := Bytes.setWord data (p.start + 3) count, count }

def fill? (cells : Array ByteArray) : Option Page := do
  let (data, edge, _) ← cells.foldlM (fun (data, edge, link) (cell : ByteArray) =>
    if edge < cell.size + link + 2 then none
    else
      let edge := edge - cell.size
      some (Bytes.setWord (Bytes.overlay data edge cell) link edge, edge, link + 2))
    (p.data, l.usable, p.pointers)
  let data := Bytes.setWord data (p.start + 1) 0
  let data := Bytes.setWord data (p.start + 3) cells.size
  let data := Bytes.setWord data (p.start + 5) edge
  some { p with data := Bytes.setByte data (p.start + 7) 0, count := cells.size, surplus := [] }

end FormCompiler.Database.Page
