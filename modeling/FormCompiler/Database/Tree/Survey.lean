import FormCompiler.Database.Tree.Seek
import Std.Data.HashSet

namespace FormCompiler.Database

inductive Survey.Kind where
  | inner
  | leaf
  | rest
  | broken
  deriving DecidableEq

structure Survey where
  number : Nat
  path : String
  kind : Survey.Kind
  cells : Nat := 0
  payload : Nat := 0
  unused : Int := 0
  largest : Nat := 0

namespace Survey

def step (digits n : Nat) : String :=
  let cs := Text.Numeral.hex n
  String.ofList (List.replicate (digits - cs.length) '0' ++ cs)

def freeBlocks (data : ByteArray) : Nat → Nat → Nat
  | 0, _ => 0
  | fuel + 1, i => if i = 0 then 0 else Bytes.word data (i + 2) + freeBlocks data fuel (Bytes.word data i)

def ofPage (l : Layout) (p : Page) (path : String) : Survey :=
  let cells := (List.range p.count).map (p.cell l)
  let byte (i : Nat) : Nat := Bytes.byte p.data (p.start + i)
  let word (i : Nat) : Nat := Bytes.word p.data (p.start + i)
  { number := p.number
    path
    kind := if p.kind.isLeaf then .leaf else .inner
    cells := p.count
    payload := cells.foldl (fun (n : Nat) c => n + c.inPage) 0
    unused := (word 5 + byte 7 + freeBlocks p.data l.size (word 1) : Int) - (p.gap : Int)
    largest := cells.foldl (fun (n : Nat) c => max n c.total) 0 }

end Survey

namespace Paging

def surveyRest (path : String) : Nat → Nat → Nat → Nat → Paging (List Survey)
  | 0, _, _, _ => return []
  | fuel + 1, n, k, rest => do
    let room := (← usable) - 4
    let part := min rest room
    let own : Survey :=
      { number := n, path := path ++ "+" ++ Survey.step 6 k, kind := .rest, payload := part
        unused := (room - part : Nat) }
    if rest ≤ room then return [own]
    let next := Bytes.long (← page n) 0
    return own :: (← surveyRest path fuel next (k + 1) (rest - part))

def surveyFrom : Nat → Nat → String → Paging (List Survey)
  | 0, _, _ => return []
  | fuel + 1, n, path => do
    let v ← get
    let l := v.layout
    match Page.read? l n (← page n) with
    | none => return [{ number := n, path, kind := .broken }]
    | some p =>
      let parts ← (List.range p.count).flatMapM fun i => do
        let c := p.cell l i
        let way := path ++ Survey.step 3 i
        let rest ← if c.inPage < c.total then
            surveyRest way (v.count + 1) (Bytes.long p.data (c.payload + c.inPage)) 0 (c.total - c.inPage)
          else pure []
        let below ← if p.kind.isLeaf then pure [] else surveyFrom fuel (p.child l i) (way ++ "/")
        return rest ++ below
      let last ← if p.kind.isLeaf then pure [] else surveyFrom fuel p.rightChild (path ++ Survey.step 3 p.count ++ "/")
      return Survey.ofPage l p path :: parts ++ last

def survey (root : Nat) : Paging (List Survey) := surveyFrom (maxDepth + 1) root "/"

def freePages : Nat → Nat → Paging (List Nat)
  | 0, _ => return []
  | fuel + 1, n => do
    if n = 0 then return []
    let data ← page n
    return n :: leaves data (Bytes.long data 4) ++ (← freePages fuel (Bytes.long data 0))

def lostPages (roots : List Nat) : Paging (List Nat) := do
  let v ← get
  let inTrees ← roots.flatMapM fun n => do return (← survey n).map (·.number)
  let free ← freePages (v.count + 1) (v.header 32)
  let used := (inTrees ++ free).foldl (fun (s : Std.HashSet Nat) n => s.insert n) ∅
  return ((List.range v.count).map (· + 1)).filter fun n => !used.contains n && !(v.mapsPages && v.layout.isMapPage n)

end Paging

end FormCompiler.Database
