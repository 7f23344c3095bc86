import FormCompiler.Database.Tree.Balance

namespace FormCompiler.Database.Paging

def balanceLimit : Nat := 2 * maxDepth + 4

def overwriteChain : Nat → Nat → ByteArray → Paging Unit
  | 0, _, _ => corrupt
  | fuel + 1, n, rest => do
    if n = 0 || (← get).count < n then corrupt
    let room := (← usable) - 4
    let data ← page n
    write n (Bytes.overlay data 4 (rest.extract 0 room))
    if room < rest.size then overwriteChain fuel (Bytes.long data 0) (rest.extract room rest.size)

def overwrite (p : Page) (c : Cell) (payload : ByteArray) : Paging Unit := do
  if (← usable) < c.payload + c.inPage then corrupt
  writeNode { p with data := Bytes.overlay p.data c.payload (payload.extract 0 c.inPage) }
  if c.inPage < c.total then
    overwriteChain (payload.size + 1) (Bytes.long p.data (c.payload + c.inPage))
      (payload.extract c.inPage payload.size)

def vacate (p : Page) (i : Nat) (cell : ByteArray) : Paging (Option (Page × ByteArray)) := do
  let v ← get
  let l := v.layout
  if p.count ≤ i then corrupt
  touch
  let c := p.cell l i
  let cell := if p.kind.isLeaf then cell else Bytes.setLong cell 0 (Bytes.long p.data c.offset)
  releaseRest p c
  if c.size = cell.size && c.inPage = c.total && (!v.mapsPages || cell.size < l.minLocal) then
    if c.offset < p.start + 10 || l.usable < c.offset + cell.size then corrupt
    writeNode { p with data := Bytes.overlay p.data c.offset cell }
    return none
  else return some (← orCorrupt (p.remove? l i c.size), cell)

def put (route : Route) (found : Ordering) (key : Option Int) (payload : ByteArray) : Paging Unit := do
  let l ← layout
  let p := route.page
  let c := p.cell l route.index
  if found = .eq && p.kind.isLeaf && c.total = payload.size then overwrite p c payload
  else
    let _ ← free p
    let cell ← cellFor p.kind key payload
    let ready ← if found = .eq then vacate p route.index cell else pure (some (p, cell))
    match ready with
    | none => return
    | some (p, cell) =>
      let i := if found = .lt && p.count != 0 then route.index + 1 else route.index
      let p ← orCorrupt (p.insert? l i cell)
      if p.surplus.isEmpty then
        touch
        noteRest p p.data (p.cell l i)
        writeNode p
      else
        let _ ← balance balanceLimit { route with page := p }

def putRow (n : Nat) (key : Int) (payload : ByteArray) : Paging Unit := do
  let (route, found) ← seekRow n key
  put route found (some key) payload

def replaceInner (route : Route) : Paging (Route × Page) := do
  let l ← layout
  let p := route.page
  let first ← below p (p.child l route.index)
  let leaf ← lastBelow maxDepth { above := (p, route.index) :: route.above, page := first }
  let q := leaf.page
  let _ ← free q
  let c := p.cell l route.index
  releaseRest p c
  let p ← orCorrupt (p.remove? l route.index c.size)
  let last := q.cell l (q.count - 1)
  if last.offset < 4 || l.usable < last.offset + last.size then corrupt
  let bytes := (Bytes.ofNumber 4 first.number).toByteArray ++ q.cellBytes l (q.count - 1)
  let bytes := if last.size = 4 then Bytes.resize bytes (Page.cellOf l p.kind bytes 0).size else bytes
  let p ← orCorrupt (p.insert? l route.index bytes)
  if p.surplus.isEmpty then noteRest p p.data (p.cell l route.index)
  let q ← orCorrupt (q.remove? l (q.count - 1) last.size)
  let depth := route.above.length
  let above := leaf.above.mapIdx fun i (a, j) => (if i + depth + 1 = leaf.above.length then p else a, j)
  return ({ leaf with above, page := q }, p)

def routeAt (depth : Nat) (route : Route) : Option Route :=
  match route.above.drop (route.above.length - (depth + 1)) with
  | (p, i) :: above => some { above, page := p, index := i }
  | [] => none

def erase (route : Route) : Paging Unit := do
  let l ← layout
  let p := route.page
  if p.count ≤ route.index then corrupt
  let _ ← free p
  let c := p.cell l route.index
  if c.offset < p.gap then corrupt
  touch
  if p.kind.isLeaf then
    releaseRest p c
    let p ← orCorrupt (p.remove? l route.index c.size)
    let _ ← balance balanceLimit { route with page := p }
  else
    let depth := route.above.length
    let (leaf, _) ← replaceInner route
    let stopped ← balance balanceLimit leaf
    if depth < stopped.above.length then
      match routeAt depth stopped with
      | some inner => let _ ← balance balanceLimit inner
      | none => return

def eraseRow (n : Nat) (key : Int) : Paging Bool := do
  let (route, found) ← seekRow n key
  if found != .eq then return false
  erase route
  return true

end FormCompiler.Database.Paging
