import FormCompiler.Database.Volume

namespace FormCompiler.Database

inductive Purpose where
  | root
  | free
  | firstRest
  | laterRest
  | node
  deriving DecidableEq

namespace Purpose

def number : Purpose → Nat
  | root => 1
  | free => 2
  | firstRest => 3
  | laterRest => 4
  | node => 5

def ofNumber? : Nat → Option Purpose
  | 1 => some root
  | 2 => some free
  | 3 => some firstRest
  | 4 => some laterRest
  | 5 => some node
  | _ => none

end Purpose

namespace Layout

def mapPage (l : Layout) (n : Nat) : Nat :=
  if n < 2 then 0
  else
    let each := l.usable / 5 + 1
    (n - 2) / each * each + 2

def isMapPage (l : Layout) (n : Nat) : Bool := 2 ≤ n && l.mapPage n == n

end Layout

namespace Paging

def note (n : Nat) (purpose : Purpose) (parent : Nat) : Paging Unit := do
  let v ← get
  if v.mapsPages then
    let map := v.layout.mapPage n
    if n ≤ map then corrupt
    let data ← page map
    let offset := 5 * (n - map - 1)
    if Bytes.byte data offset != purpose.number || Bytes.long data (offset + 1) != parent then
      write map (Bytes.setLong (Bytes.setByte data offset purpose.number) (offset + 1) parent)

def noted (n : Nat) : Paging (Purpose × Nat) := do
  let map := (← layout).mapPage n
  let data ← page map
  if n ≤ map then corrupt
  let offset := 5 * (n - map - 1)
  return (← orCorrupt (Purpose.ofNumber? (Bytes.byte data offset)), Bytes.long data (offset + 1))

def noteRest (p : Page) (data : ByteArray) (c : Cell) : Paging Unit := do
  if c.inPage < c.total then
    if data.size < c.offset + c.size then corrupt
    note (Bytes.long data (c.offset + c.size - 4)) .firstRest p.number

def noteChildren (p : Page) : Paging Unit := do
  let v ← get
  if v.mapsPages then
    for i in List.range p.count do
      noteRest p p.data (p.cell v.layout i)
      if !p.kind.isLeaf then note (p.child v.layout i) .node p.number
    if !p.kind.isLeaf then note p.rightChild .node p.number

end Paging

end FormCompiler.Database
