import FormCompiler.Database.Tree.Change

namespace FormCompiler.Database.Paging

def relink (n from_ to_ : Nat) (purpose : Purpose) : Paging Unit := do
  let l ← layout
  if purpose = .laterRest then
    let data ← page n
    if Bytes.long data 0 != from_ then corrupt
    write n (Bytes.setLong data 0 to_)
  else
    let p ← node n
    let cells := (List.range p.count).map fun i => p.cell l i
    let data ←
      if purpose = .firstRest then
        match cells.find? fun c =>
            c.inPage < c.total && Bytes.long p.data (c.offset + c.size - 4) == from_ with
        | some c =>
          if l.usable < c.offset + c.size then corrupt
          pure (Bytes.setLong p.data (c.offset + c.size - 4) to_)
        | none => corrupt
      else
        match if p.kind.isLeaf then none else cells.find? fun c => Bytes.long p.data c.offset == from_ with
        | some c =>
          if l.usable < c.offset + 4 then corrupt
          pure (Bytes.setLong p.data c.offset to_)
        | none =>
          if p.kind.isLeaf || p.rightChild != from_ then corrupt
          pure (Bytes.setLong p.data (p.start + 8) to_)
    writeNode { p with data }

def relocate (n : Nat) (purpose : Purpose) (parent target : Nat) : Paging Unit := do
  if n < 3 then corrupt
  let data ← page n
  touch
  write target data
  if purpose = .node || purpose = .root then
    noteChildren (← node target)
  else
    let next := Bytes.long data 0
    if next != 0 then note next .laterRest target
  if purpose != .root then
    relink parent n target purpose
    note target purpose parent

def rootNumber (l : Layout) (n : Nat) : Nat := if l.isMapPage n then n + 1 else n

def createTree (isTable : Bool) : Paging Nat := do
  let v ← get
  let l := v.layout
  let n ←
    if v.mapsPages then do
      let largest := v.cookie 4
      if v.count < largest then corrupt
      let n := rootNumber l (largest + 1)
      let moved ← allocate (.exactly n)
      if moved != n then
        let (purpose, parent) ← noted n
        if purpose = .root || purpose = .free then corrupt
        relocate n purpose parent moved
      note n .root 0
      setCookie 4 n
      pure n
    else allocate (.near 1)
  writeNode (Page.empty l n (if isTable then .tableLeaf else .indexLeaf) (← page n))
  return n

def clearFrom : Nat → Nat → Bool → Paging Nat
  | 0, _, _ => corrupt
  | fuel + 1, n, isRoot => do
    let l ← layout
    let p ← node n
    let below ← (List.range p.count).foldlM (fun (sum : Nat) i => do
      let inner ← if p.kind.isLeaf then pure 0 else clearFrom fuel (p.child l i) false
      releaseRest p (p.cell l i)
      return sum + inner) 0
    let right ← if p.kind.isLeaf then pure 0 else clearFrom fuel p.rightChild false
    if isRoot then
      writeNode (Page.empty l n (if p.kind.isTable then .tableLeaf else .indexLeaf) (← page n))
    else release n
    return below + right + (if p.kind = .tableInner then 0 else p.count)

def clearTree (n : Nat) : Paging Nat := clearFrom (maxDepth + 1) n true

def rootBefore (l : Layout) : Nat → Nat
  | 0 => 0
  | n + 1 => if l.isMapPage n then rootBefore l n else n

def dropTree (n : Nat) : Paging (Option Nat) := do
  let v ← get
  if v.count < n then corrupt
  let _ ← clearTree n
  if v.mapsPages then
    let largest := v.cookie 4
    if n = largest then
      release n
      setCookie 4 (rootBefore v.layout largest)
      return none
    else
      relocate largest .root 0 n
      release largest
      setCookie 4 (rootBefore v.layout largest)
      return some largest
  else
    release n
    return none

def finalCount (l : Layout) (count free : Nat) : Paging Nat :=
  let each := l.usable / 5
  let maps := (free + l.mapPage count + each - count) / each
  if count ≤ free + maps then corrupt else return skip count (count - free - maps)
where
  skip : Nat → Nat → Nat
    | 0, n => n
    | fuel + 1, n => if l.isMapPage n then skip fuel (n - 1) else n

def moveBefore (goal : Nat) (strict : Bool) : Nat → Paging Nat
  | 0 => corrupt
  | fuel + 1 => do
    let v ← get
    let n ← allocate (if strict then .near 0 else .upTo goal)
    if v.count < n then corrupt
    if strict && goal < n then moveBefore goal strict fuel else return n

def lastBefore (l : Layout) : Nat → Nat
  | 0 => 0
  | n + 1 => if l.isMapPage n then lastBefore l n else n

def shrinkStep (goal last : Nat) (isCommit : Bool) : Paging Bool := do
  let v ← get
  let l := v.layout
  if !l.isMapPage last then
    if v.header 36 = 0 then return false
    let (purpose, parent) ← noted last
    if purpose = .root then corrupt
    if purpose = .free then
      if !isCommit then
        let _ ← allocate (.exactly last)
    else
      let n ← moveBefore goal isCommit (v.count + 1)
      relocate last purpose parent n
  if !isCommit then
    modify fun v => { v with count := lastBefore l last, isChanged := true }
  return true

def shrinkBy : Nat → Nat → Paging Unit
  | 0, _ => return
  | fuel + 1, steps => do
    let v ← get
    let free := v.header 36
    let goal ← finalCount v.layout v.count free
    if free = 0 then return
    if ← shrinkStep goal v.count false then
      setHeader 28 (← get).count
      if steps = 1 then return else shrinkBy fuel (steps - 1)

def shrinkAll : Paging Unit := do
  let v ← get
  if v.mapsPages && !v.isIncremental then
    let l := v.layout
    if l.isMapPage v.count then corrupt
    let free := v.header 36
    let goal ← finalCount l v.count free
    if free != 0 then
      (List.range (v.count - goal)).foldlM (fun (more : Bool) i => do
        if more then shrinkStep goal (v.count - i) true else return false) true |> discard
      setHeader 32 0
      setHeader 36 0
      setHeader 28 goal
      modify fun v => { v with count := goal, pages := v.pages.extract 0 goal }

end FormCompiler.Database.Paging
