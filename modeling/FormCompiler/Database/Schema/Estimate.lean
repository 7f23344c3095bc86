import FormCompiler.Database.Schema.Basic

namespace FormCompiler.Database

namespace Estimate

def ofNat (n : Nat) : Int :=
  if n < 2 then 0
  else
    let (x, y) := scale 128 n 40
    ([0, 2, 3, 5, 6, 7, 8, 9].getD (x % 8) 0 : Int) + y - 10
where
  scale : Nat → Nat → Int → Nat × Int
    | 0, x, y => (x, y)
    | fuel + 1, x, y =>
      if x < 8 then scale fuel (x * 2) (y - 10) else if 15 < x then scale fuel (x / 2) (y + 10) else (x, y)

def gains : List Int :=
  [10, 10, 9, 9, 8, 8, 7, 7, 7, 6, 6, 6, 5, 5, 5, 4, 4, 4, 4, 3, 3, 3, 3, 3, 3, 2, 2, 2, 2, 2, 2, 2]

def add (a b : Int) : Int :=
  let large := max a b
  let gap := (a - b).natAbs
  if 49 < gap then large else if 31 < gap then large + 1 else large + gains.getD gap 0

def seek (n : Int) : Int := if n ≤ 10 then 0 else ofNat n.toNat - 33

def columnWidth (type : String) : Nat :=
  let lower := type.toList.map Char.toLower
  let from_ (part : String) : Option (List Char) :=
    (List.range (lower.length + 1)).findSome? fun i =>
      let rest := lower.drop i
      if part.toList.isPrefixOf rest then some (rest.drop part.length) else none
  let wide (size : Nat) : Nat := min 255 (size / 4 + 1)
  let sized (rest : List Char) : Nat :=
    wide (Nat.ofDigitChars 10 ((rest.dropWhile fun c => !c.isDigit).takeWhile Char.isDigit) 0)
  match affinityOf type with
  | .text =>
    match from_ "char" with
    | some rest => sized rest
    | none => wide 16
  | .blob =>
    match from_ "blob" with
    | some ('(' :: rest) => sized rest
    | _ => wide 16
  | _ => 1

def widthOf (c : Column) : Nat := if c.type == "" then 1 else columnWidth c.type

def tableWidth (t : Table) : Int :=
  let columns := t.columns.foldl (fun (n : Nat) c => n + widthOf c) 0
  ofNat (4 * (columns + if t.rowColumn.isSome then 0 else 1))

def tableRows (t : Table) : Int :=
  let rows := t.estimate.getD 200
  if t.indices.any fun x => x.estimates.isNone then max 99 rows else rows

def unknownRows (t : Table) (x : Index) : List Int :=
  let all := max 99 (tableRows t)
  let n := x.parts.length
  let same := (List.range n).map fun i => if i + 1 = n && x.isUnique then 0 else [33, 32, 30, 28, 27].getD i 23
  (if x.where_.isSome then all - 10 else all) :: same

def indexRows (t : Table) (x : Index) : List Int := x.estimates.getD (unknownRows t x)

def ofText : Nat → List Char → List Int
  | 0, _ => []
  | _, [] => []
  | n + 1, s =>
    let rest := s.dropWhile Char.isDigit
    let rest := if rest.head? == some ' ' then rest.drop 1 else rest
    ofNat (Nat.ofDigitChars 10 (s.takeWhile Char.isDigit) 0) :: ofText n rest

end Estimate

structure Statistic where
  table : String
  index : Option String
  text : String

namespace Table

def indexNamed? (t : Table) (name : String) : Option Index :=
  if Name.same name t.name then t.keyIndex? else t.indices.find? fun x => Name.same x.name name

def noting (t : Table) (x : Statistic) : Table :=
  match x.index.bind t.indexNamed? with
  | none => { t with estimate := (Estimate.ofText 1 x.text.toList).head? <|> t.estimate }
  | some i =>
    let found := Estimate.ofText (i.parts.length + 1) x.text.toList
    let all := found ++ (Estimate.unknownRows t i).drop found.length
    { t with
      indices := t.indices.map fun o => if Name.same o.name i.name then { o with estimates := some all } else o
      estimate := if i.where_.isNone then all.head? else t.estimate }

end Table

namespace Schema

def withStatistics (s : Schema) (found : List Statistic) (sampled : List String) : Schema :=
  let plain (t : Table) : Table :=
    { t with indices := t.indices.map fun x => { x with estimates := none }, hasSamples := false }
  { s with tables := s.tables.map fun t =>
      let t := (found.filter fun x => Name.same x.table t.name).foldl Table.noting (plain t)
      { t with hasSamples := sampled.any fun n => (t.indices.any fun x => Name.same x.name n) ||
        (t.isKeyed && Name.same t.name n) } }

end Schema

end FormCompiler.Database
