import FormCompiler.Database.FullText.Settings

namespace FormCompiler.Database.FullText

structure Census where
  rows : Nat := 0
  words : Nat := 0
  having_ : List Nat := []

structure Hit where
  settings : Settings
  query : Query := .nothing
  census : Census := {}
  texts : List Octets := []
  spots : List (List Spot) := []

namespace Hit

structure Instance where
  phrase : Nat
  column : Nat
  first : Nat
  last : Nat

variable (h : Hit)

def instances : List Instance :=
  let sizes := h.query.phrases.map fun p => p.1.terms.length
  let all := h.spots.zipIdx.flatMap fun (spots, i) =>
    spots.map fun s =>
      ({ phrase := i, column := s.column, first := s.word, last := s.word + sizes.getD i 1 - 1 } : Instance)
  all.mergeSort fun a b => a.column < b.column || (a.column == b.column && a.first ≤ b.first)

def ranges (column : Nat) : List (Nat × Nat) :=
  (((h.instances.filter fun i => i.column == column).foldl (fun (found : List (Nat × Nat)) i =>
    match found with
    | (a, b) :: rest => if i.first ≤ b then (a, max b i.last) :: rest else (i.first, i.last) :: found
    | [] => [(i.first, i.last)]) [])).reverse

def text (column : Nat) : Octets := h.texts.getD column []

def tokens (column : Nat) : List Token := h.settings.words.tokens (h.text column)

structure Marking where
  output : Octets := []
  done : Nat := 0
  isOpen : Bool := false
  waiting : List (Nat × Nat)

def Marking.step (text left right : Octets) (part : Option (Nat × Nat)) (m : Marking) (n : Nat) (t : Token) : Marking :=
  let isOutside : Bool := part.any fun (a, b) => n < a || b < n
  if isOutside then m
  else
    let copy (m : Marking) (stop : Nat) : Marking :=
      { m with output := m.output ++ (text.take stop).drop m.done, done := max m.done stop }
    let m := match part with
      | some (a, _) => if 0 < a && n = a then { m with done := t.start } else m
      | none => m
    let starts (m : Marking) : Option Nat := m.waiting.head?.map (·.1)
    let m := if m.isOpen && ((starts m).all fun s => n ≤ s) && m.done ≤ t.start
      then { m with output := m.output ++ right, isOpen := false } else m
    let m := if starts m == some n && !m.isOpen then
        let m := copy m t.start
        { m with output := m.output ++ left, done := t.start, isOpen := true }
      else m
    let m := if (m.waiting.head?.map (·.2)) == some n then
        let m := if m.isOpen then m else { m with output := m.output ++ left, isOpen := true }
        let m := copy m t.stop
        { m with waiting := m.waiting.drop 1 }
      else m
    match part with
    | some (_, b) =>
      if n = b then
        let m := if m.isOpen then
            let m := if (starts m).any fun s => s ≤ n then copy m t.stop else m
            { m with output := m.output ++ right, isOpen := false }
          else m
        copy m t.stop
      else m
    | none => m

def highlight (column : Nat) (left right : Octets) : Octets :=
  let text := h.text column
  let m := (h.tokens column).zipIdx.foldl (fun (m : Marking) (t, n) => m.step text left right none n t)
    { waiting := h.ranges column }
  let closed := if m.isOpen then m.output ++ right else m.output
  closed ++ text.drop m.done

def score (column size first count : Nat) : Nat × Nat :=
  let inside := h.instances.filter fun i => i.column == column && first ≤ i.first && i.first < first + count
  let (points, _) := inside.foldl (fun (found : Nat × List Nat) i =>
    if found.2.contains i.phrase then (found.1 + 1, found.2) else (found.1 + 1000, i.phrase :: found.2)) (0, [])
  let start : Int := (inside.head?.map fun i => (i.first : Int)).getD (-1)
  let stop : Int := (inside.getLast?.map fun i => (i.last : Int) + 1).getD 0
  let better := start - Int.tdiv ((count : Int) - (stop - start)) 2
  let better := if (size : Int) < better + count then (size : Int) - count else better
  (points, better.toNat)

def sentences (text : Octets) (tokens : List Token) : List Nat :=
  tokens.zipIdx.filterMap fun (t, n) =>
    if n = 0 then some 0
    else
      let before := (text.take t.start).reverse
      let rest := before.dropWhile fun b => b == 32 || b == 9 || b == 10 || b == 13
      match rest with
      | b :: _ => if rest.length < before.length && (b == 46 || b == 58) then some n else none
      | [] => none

def snippet (column : Option Nat) (left right ellipsis : Octets) (count : Nat) : Octets :=
  let columns := (List.range h.texts.length).filter fun i => column.all (· == i)
  let size (i : Nat) : Nat := if h.settings.isUnsearched.getD i false then 0 else (h.tokens i).length
  let best := columns.foldl (fun (best : Nat × Nat × Nat) i =>
    let firsts := sentences (h.text i) (h.tokens i)
    (h.instances.filter fun x => x.column == i).foldl (fun (best : Nat × Nat × Nat) x =>
      let (points, start) := h.score i (size i) x.first count
      let best := if best.1 < points then (points, i, start) else best
      if firsts.isEmpty || size i ≤ count then best
      else
        let first := ((firsts.filter (· ≤ x.first)).getLast?).getD 0
        if first < x.first then
          let points := (h.score i (size i) first count).1 + (if first = 0 then 120 else 100)
          if best.1 < points then (points, i, first) else best
        else best) best) (0, column.getD 0, 0)
  let (_, i, start) := best
  let text := h.text i
  let last := start + count - 1
  let m := (h.tokens i).zipIdx.foldl (fun (m : Marking) (t, n) => m.step text left right (some (start, last)) n t)
    { output := if 0 < start then ellipsis else [], waiting := (h.ranges i).dropWhile fun r => r.1 < start }
  let closed := if m.isOpen then m.output ++ right else m.output
  if size i ≤ last + 1 then closed ++ text.drop m.done else closed ++ ellipsis

def rank (weights : List Float) : Float :=
  let rows := Float.ofNat h.census.rows
  let mean := Float.ofNat h.census.words / rows
  let length := Float.ofNat ((h.settings.document h.texts).foldl (fun n ws => n + ws.length) 0)
  let total := h.spots.zipIdx.foldl (fun (sum : Float) (spots, i) =>
    let having_ := Float.ofNat (h.census.having_.getD i 0)
    let rarity := Float.log ((rows - having_ + 0.5) / (having_ + 0.5))
    let rarity := if rarity ≤ 0 then 1e-6 else rarity
    let frequency := spots.foldl (fun (f : Float) s => f + weights.getD s.column 1.0) 0
    sum + rarity * ((frequency * (1.2 + 1.0)) / (frequency + 1.2 * (1 - 0.75 + 0.75 * length / mean)))) 0
  total * (-1.0)

def call (name : String) (args : List Value) : Except String Value :=
  let wrong : Except String Value := .error ("wrong number of arguments to function " ++ name ++ "()")
  match name, args with
  | "highlight", [column, left, right] =>
    let c := column.toInteger
    if c < 0 || h.texts.length ≤ c.toNat then .ok (.text .empty)
    else .ok (.ofOctets (h.highlight c.toNat left.octets right.octets))
  | "snippet", [column, left, right, ellipsis, count] =>
    let c := column.toInteger
    .ok (.ofOctets (h.snippet (if c < 0 then none else some c.toNat) left.octets right.octets ellipsis.octets
      count.toInteger.toNat))
  | "bm25", weights => .ok (.real (h.rank (weights.map Value.toReal)))
  | _, _ => wrong

end Hit

end FormCompiler.Database.FullText
