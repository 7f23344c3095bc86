import FormCompiler.Database.Tree.Map

namespace FormCompiler.Database

inductive Wish where
  | near (n : Nat)
  | exactly (n : Nat)
  | upTo (n : Nat)
  deriving DecidableEq

namespace Wish

def target : Wish → Nat
  | near n | exactly n | upTo n => n

def accepts (w : Wish) (n : Nat) : Bool :=
  match w with
  | near _ => true
  | exactly m => n == m
  | upTo m => n ≤ m

def closest (w : Wish) (pages : List Nat) : Nat :=
  match w with
  | upTo m => (pages.findIdx? (· ≤ m)).getD 0
  | w =>
    if w.target = 0 then 0
    else
      let distance (n : Nat) : Nat := (n - w.target) + (w.target - n)
      ((pages.zipIdx.foldl (fun (best : Nat × Nat) (n, i) =>
        if distance n < best.1 then (distance n, i) else best) (distance (pages.headD 0), 0))).2

end Wish

namespace Paging

def append : Paging Nat := do
  touch
  modify fun v => { v with count := v.count + 1 }
  let v ← get
  if v.mapsPages && v.layout.isMapPage v.count then
    let data ← page v.count
    write v.count data
    modify fun v => { v with count := v.count + 1 }
  let n := (← get).count
  setHeader 28 n
  let _ ← page n
  write n (Bytes.zeros (← layout).size)
  return n

def trunk (n last : Nat) : Paging ByteArray := do
  if last < n || n = 1 then corrupt
  page n

def leaves (data : ByteArray) (k : Nat) : List Nat := (List.range k).map fun i => Bytes.long data (8 + 4 * i)

def takeTrunk (link : Nat × Nat) (data : ByteArray) (k last : Nat) : Paging Unit := do
  let relink (to_ : Nat) : Paging Unit := do
    let before ← page link.1
    write link.1 (Bytes.setLong before link.2 to_)
  touch
  if k = 0 then relink (Bytes.long data 0)
  else
    let next := Bytes.long data 8
    if last < next then corrupt
    let heir ← page next
    let heir := Bytes.setLong (Bytes.setLong heir 0 (Bytes.long data 0)) 4 (k - 1)
    write next (Bytes.overlay heir 8 (data.extract 12 (12 + 4 * (k - 1))))
    relink next

def searchList (wish : Wish) (searches : Bool) (last : Nat) : Nat → Nat × Nat → Paging Nat
  | 0, _ => corrupt
  | fuel + 1, link => do
    let n := Bytes.long (← page link.1) link.2
    let data ← trunk n last
    let k := Bytes.long data 4
    if k = 0 && !searches then
      takeTrunk link data 0 last
      return n
    else if (← usable) / 4 - 2 < k then corrupt
    else if searches && wish.accepts n then
      takeTrunk link data k last
      return n
    else if k = 0 then searchList wish searches last fuel (n, 0)
    else
      let i := wish.closest (leaves data k)
      let found := Bytes.long data (8 + 4 * i)
      if last < found || found < 2 then corrupt
      if !searches || wish.accepts found then
        let data := if i + 1 < k then Bytes.setLong data (8 + 4 * i) (Bytes.long data (4 + 4 * k)) else data
        write n (Bytes.setLong data 4 (k - 1))
        return found
      else searchList wish searches last fuel (n, 0)

def allocate (wish : Wish) : Paging Nat := do
  let v ← get
  let free := v.header 36
  if v.count ≤ free then corrupt
  if free = 0 then append
  else
    let searches ←
      match wish with
      | .near _ => pure false
      | .upTo _ => pure true
      | .exactly n => if n ≤ v.count then do pure ((← noted n).1 == .free) else pure false
    setHeader 36 (free - 1)
    let n ← searchList wish searches v.count (free + 2) (1, 32)
    let _ ← page n
    touch
    return n

def release (n : Nat) : Paging Unit := do
  let v ← get
  if n < 2 || v.count < n then corrupt
  let free := v.header 36
  setHeader 36 (free + 1)
  note n .free 0
  let first := v.header 32
  if free != 0 then
    if v.count < first then corrupt
    let data ← page first
    let k := Bytes.long data 4
    let most := v.layout.usable / 4
    if most - 2 < k then corrupt
    if k < most - 8 then
      write first (Bytes.setLong (Bytes.setLong data 4 (k + 1)) (8 + 4 * k) n)
      return
  let data ← page n
  write n (Bytes.setLong (Bytes.setLong data 0 (if free = 0 then 0 else first)) 4 0)
  setHeader 32 n

end Paging

end FormCompiler.Database
