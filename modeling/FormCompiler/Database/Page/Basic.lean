import FormCompiler.Database.Bytes

namespace FormCompiler.Database

structure Layout where
  size : Nat
  usable : Nat
  deriving DecidableEq

namespace Layout

def maxLocal (l : Layout) : Nat := (l.usable - 12) * 64 / 255 - 23

def minLocal (l : Layout) : Nat := (l.usable - 12) * 32 / 255 - 23

def maxLeaf (l : Layout) : Nat := l.usable - 35

def maxCells (l : Layout) : Nat := (l.size - 8) / 6

def localSize (l : Layout) (most total : Nat) : Nat :=
  if total ≤ most then total
  else
    let part := l.minLocal + (total - l.minLocal) % (l.usable - 4)
    if part ≤ most then part else l.minLocal

end Layout

inductive Page.Kind where
  | tableLeaf
  | tableInner
  | indexLeaf
  | indexInner
  deriving DecidableEq

namespace Page.Kind

def flag : Kind → Nat
  | tableLeaf => 13
  | tableInner => 5
  | indexLeaf => 10
  | indexInner => 2

def ofFlag? : Nat → Option Kind
  | 13 => some tableLeaf
  | 5 => some tableInner
  | 10 => some indexLeaf
  | 2 => some indexInner
  | _ => none

def isLeaf : Kind → Bool
  | tableLeaf | indexLeaf => true
  | _ => false

def isTable : Kind → Bool
  | tableLeaf | tableInner => true
  | _ => false

def above : Kind → Kind
  | tableLeaf | tableInner => tableInner
  | _ => indexInner

end Page.Kind

structure Page where
  number : Nat
  kind : Page.Kind
  data : ByteArray
  count : Nat
  surplus : List (Nat × ByteArray) := []

structure Cell where
  offset : Nat
  key : Int := 0
  total : Nat := 0
  payload : Nat := 0
  inPage : Nat := 0
  size : Nat := 4

namespace Page

def start (p : Page) : Nat := if p.number = 1 then 100 else 0

def pointers (p : Page) : Nat := p.start + (if p.kind.isLeaf then 8 else 12)

def gap (p : Page) : Nat := p.pointers + 2 * p.count

def read? (l : Layout) (number : Nat) (data : ByteArray) : Option Page := do
  let start := if number = 1 then 100 else 0
  let kind ← Kind.ofFlag? (Bytes.byte data start)
  let count := Bytes.word data (start + 3)
  if l.maxCells < count then none else some { number, kind, data, count }

variable (p : Page) (l : Layout) (i : Nat)

def place : Nat := Bytes.word p.data (p.pointers + 2 * i) % l.size

def rightChild (p : Page) : Nat := Bytes.long p.data (p.start + 8)

def lengthAt (data : ByteArray) (i : Nat) : Nat × Nat := go 9 0 0
where
  go : Nat → Nat → Nat → Nat × Nat
    | 0, n, k => (n % 0x100000000, k)
    | more + 1, n, k =>
      let c := Bytes.byte data (i + k)
      let n := n * 128 + c % 128
      if c < 128 then (n % 0x100000000, k + 1) else go more n (k + 1)

def cellOf (l : Layout) (kind : Kind) (data : ByteArray) (offset : Nat) : Cell :=
  let entry (keyed : Bool) (most at_ : Nat) : Cell :=
    let (total, n) := lengthAt data at_
    let (key, m) := if keyed then Bytes.varint data (at_ + n) else (0, 0)
    let payload := at_ + n + m
    let inPage := l.localSize most total
    let size := payload - offset + inPage + (if inPage < total then 4 else 0)
    { offset, key := Bytes.signed 64 key, total, payload, inPage, size := max size 4 }
  match kind with
  | .tableLeaf => entry true l.maxLeaf offset
  | .tableInner =>
    let (key, n) := Bytes.varint data (offset + 4)
    { offset, key := Bytes.signed 64 key, payload := offset + 4 + n, size := 4 + n }
  | .indexLeaf => entry false l.maxLocal offset
  | .indexInner => entry false l.maxLocal (offset + 4)

def cell : Cell := cellOf l p.kind p.data (p.place l i)

def child : Nat :=
  if p.count ≤ i then p.rightChild else Bytes.long p.data (p.place l i)

def cellBytes : ByteArray :=
  let c := p.cell l i
  p.data.extract c.offset (c.offset + c.size)

def empty (l : Layout) (number : Nat) (kind : Kind) (old : ByteArray) : Page :=
  let p : Page := { number, kind, data := old, count := 0 }
  let data := Bytes.clear old p.start 8
  let data := Bytes.setByte data p.start kind.flag
  { p with data := Bytes.setWord data (p.start + 5) l.usable }

end Page

end FormCompiler.Database
