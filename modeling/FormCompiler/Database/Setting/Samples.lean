import FormCompiler.Database.Query.Entry

namespace FormCompiler.Database

structure Sample where
  same : Array Nat := #[]
  less : Array Nat := #[]
  groups : Array Nat := #[]
  key : List Value := []
  part : Nat := 0
  chance : Nat := 0
  isRegular : Bool := false
  deriving Inhabited

namespace Sample

def sameAt (s : Sample) (k : Nat) : Nat := s.same[k]?.getD 0

def isBetterBehind (width : Nat) (s t : Sample) : Bool :=
  match (List.range' (s.part + 1) (width - s.part - 1)).find? fun k => s.sameAt k != t.sameAt k with
  | some k => t.sameAt k < s.sameAt k
  | none => t.chance < s.chance

def isBetter (width : Nat) (s t : Sample) : Bool :=
  let a := s.sameAt s.part
  let b := t.sameAt t.part
  b < a || (a == b && (s.part < t.part || (s.part == t.part && isBetterBehind width s t)))

end Sample

structure Sampling where
  width : Nat
  distance : Nat
  current : Sample := {}
  best : Array Sample := #[]
  kept : Array Sample := #[]
  worst : Nat := 0
  known : Nat := 0
  chance : Nat := 0

namespace Sampling

def most : Nat := 24

def start (width rows : Nat) : Sampling where
  width := width
  distance := rows / 9 + 1
  best := (Array.range width).map fun part => { part }
  chance := (0x689E962D * width % 0x100000000) ^^^ (0xD0944565 * rows % 0x100000000)

def withWorst (s : Sampling) : Sampling :=
  if s.kept.size < most then s
  else
    let found := (List.range s.kept.size).foldl (fun (found : Option Nat) i =>
      let x := s.kept[i]?.getD {}
      if x.isRegular then found
      else match found with
        | none => some i
        | some j => if (s.kept[j]?.getD {}).isBetter s.width x then some i else found) none
    { s with worst := found.getD 0 }

def keep (s : Sampling) (x : Sample) (unknown : Nat) : Sampling :=
  let s := { s with known := max s.known unknown }
  let open_ := (List.range s.kept.size).filter fun i => (s.kept[i]?.getD {}).sameAt x.part == 0
  let isCovered := !x.isRegular && open_.any fun i => (s.kept[i]?.getD {}).isRegular
  if isCovered then s
  else
    let raised : Option Nat := if x.isRegular then none
      else open_.reverse.foldl (fun (found : Option Nat) i =>
        match found with
        | none => some i
        | some j => if (s.kept[i]?.getD {}).isBetter s.width (s.kept[j]?.getD {}) then some i else found) none
    match raised with
    | some i =>
      let old := s.kept[i]?.getD {}
      let new := { old with part := x.part, same := old.same.setIfInBounds x.part (x.sameAt x.part) }
      withWorst { s with kept := s.kept.setIfInBounds i new }
    | none =>
      let kept := if most ≤ s.kept.size then s.kept.eraseIdxIfInBounds s.worst else s.kept
      withWorst { s with kept := kept.push { x with same := x.same.mapIdx fun i n => if i < unknown then 0 else n } }

def settle (s : Sampling) (changed : Nat) : Sampling :=
  let s := (List.range' changed (s.width - 1 - changed)).reverse.foldl (fun (s : Sampling) i =>
    let x := s.best[i]?.getD {}
    let x := { x with same := x.same.setIfInBounds i (s.current.sameAt i) }
    let s := { s with best := s.best.setIfInBounds i x }
    if s.kept.size < most || x.isBetter s.width (s.kept[s.worst]?.getD {}) then s.keep x i else s) s
  if s.known ≤ changed then s
  else
    let filled (x : Sample) : Sample :=
      { x with same := x.same.mapIdx fun j n => if changed ≤ j && n == 0 then s.current.sameAt j else n }
    { s with kept := s.kept.map filled, known := changed }

def next (s : Sampling) (isFirst : Bool) (changed : Nat) (key : List Value) : Sampling :=
  let ones := Array.replicate s.width 1
  let zeros := Array.replicate s.width 0
  let (s, current) :=
    if isFirst then (s, ({ same := ones, less := zeros, groups := zeros } : Sample))
    else
      let s := s.settle changed
      let c := s.current
      (s, { c with
        same := c.same.mapIdx fun i n => if i < changed then n + 1 else 1
        less := c.less.mapIdx fun i n => if i < changed then n else n + c.sameAt i
        groups := c.groups.mapIdx fun i n => if i < changed then n else n + 1 })
  let chance := (s.chance * 1103515245 + 12345) % 0x100000000
  let current := { current with key, chance }
  let s := { s with current, chance }
  let less := current.less[s.width - 1]?.getD 0
  let s := if less / s.distance != (less + 1) / s.distance
    then s.keep { current with isRegular := true, part := 0 } (s.width - 1) else s
  let best := s.best.mapIdx fun i x =>
    let now := { current with part := i }
    if i + 1 < s.width && (changed ≤ i || now.isBetterBehind s.width x) then now else x
  { s with best }

def samples (e : Encoding) (parts : List KeyPart) (tested : Nat) (keys : List (List Value)) : List Sample :=
  let common (a b : List Value) : Nat :=
    ((List.range tested).takeWhile fun k => orderKeys e (parts.drop k |>.take 1) (a.drop k) (b.drop k) == .eq).length
  let s := (keys.foldl (fun (found : Sampling × Option (List Value)) key =>
    (found.1.next found.2.isNone ((found.2.map fun before => common before key).getD 0) key, some key))
    (start parts.length keys.length, none)).1
  (s.settle 0).kept.toList

end Sampling

end FormCompiler.Database
