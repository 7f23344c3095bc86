import FormCompiler.Database.Definition.Alter
import FormCompiler.Database.Setting.Samples

namespace FormCompiler.Database

namespace Work

def statisticsTables : List (String × List String) :=
  [("sqlite_stat1", ["tbl", "idx", "stat"]), ("sqlite_stat4", ["tbl", "idx", "neq", "nlt", "ndlt", "sample"])]

variable (i : Nat)

def openStatistics (about : Option (String × String)) : Work Unit := do
  enterForStatement i
  for (name, columns) in statisticsTables do
    match (← schema i).table? name with
    | none =>
      let t : Table := { name, columns := (columns.map fun name => ({ name } : Column)).toArray }
      establish i t "table" (Octets.ofString ("CREATE TABLE " ++ name ++ "(" ++ ",".intercalate columns ++ ")"))
        fun _ => return
      learn i (isAbout name)
    | some t =>
      match about with
      | none => discard (paging i (Paging.clearTree t.root))
      | some (column, value) =>
        let k := (t.columnIndex? column).getD 0
        for place in ← (tableRows i t).toArray do
          if (place.values[k]?.getD .null).isSame (.ofString value) then removeRow i t place

def addStatistic (name : String) (values : List Value) : Work Unit := do
  match (← schema i).table? name with
  | some t => insertRow budget {} i t none [] { values := values.toArray } none
  | none => return

def distinctCounts (e : Encoding) (parts : List KeyPart) (keys : List (List Value)) : List Nat :=
  (List.range parts.length).map fun k =>
    ((keys.zip (keys.drop 1)).filter fun (a, b) => orderKeys e (parts.take (k + 1)) a b != .eq).length + 1

def testedParts (t : Table) (x : Index) : Nat :=
  let isNever (p : IndexPart) : Bool := (p.column.bind fun i => t.columns[i]?).any fun c => c.notNull.isSome ||
    (t.isKeyed && c.isKey)
  if !t.isOwn x && x.isUnique && x.parts.all isNever then x.parts.length - 1 else (t.keyParts x).length - 1

def analyzeIndex (t : Table) (x : Index) : Work Unit := do
  let s ← paging i (Paging.keys x.root)
  match s.stopped with
  | some code => refuse code
  | none =>
    let e := (← get).encoding
    let keys := (s.items.toList.filterMap fun b => Row.read? e b 2000).map (·.toList)
    let n := keys.length
    if n != 0 then
      let own := (t.keyParts x).take x.parts.length
      let averages := (distinctCounts e own keys).map fun d =>
        let v := (n + d - 1) / d
        if v = 2 && n * 10 ≤ d * 11 then 1 else v
      let stat := " ".intercalate ((n :: averages).map Text.Numeral.ofNat)
      let name := if t.isOwn x then t.name else x.name
      addStatistic i "sqlite_stat1" [.ofString t.name, .ofString name, .ofString stat]
      let parts := t.keyParts x
      let shown (counts : Array Nat) : Value := .ofString (" ".intercalate (counts.toList.map Text.Numeral.ofNat))
      for sample in Sampling.samples e parts (testedParts t x) (keys.map (·.take parts.length)) do
        addStatistic i "sqlite_stat4" [.ofString t.name, .ofString name, shown sample.same, shown sample.less,
          shown sample.groups,
          .blob (Row.write e sample.key)]

def isSystemName (name : String) : Bool := "sqlite_".toList.isPrefixOf (name.toList.map Char.toLower)

def analyzeTable (t : Table) (only : Option String) : Work Unit := do
  if t.isView || t.isVirtual || isSystemName t.name then return
  let indices := t.indices.filter fun x => only.all (Name.same x.name)
  for x in indices do analyzeIndex i t x
  if only.isNone && !t.isKeyed && !t.indices.any fun x => x.where_.isNone then
    let s ← paging i (Paging.rows t.root)
    match s.stopped with
    | some code => refuse code
    | none =>
      if !s.items.isEmpty then
        addStatistic i "sqlite_stat1" [.ofString t.name, .null, .ofString (Text.Numeral.ofNat s.items.size)]

def useStatistics : Work Unit := do
  let s ← withStatistics i (← schema i)
  modifyMember i fun m => { m with schema := some s }

def analyzeDatabase : Work Unit := do
  let tables := (← schema i).walk
  openStatistics i none
  for t in tables do analyzeTable i t none
  useStatistics i

def analyzeOne (t : Table) (only : Option String) : Work Unit := do
  openStatistics i (some (match only with
    | some x => ("idx", x)
    | none => ("tbl", t.name)))
  analyzeTable i t only
  useStatistics i

def analyze (n : Option FullName) : Work Unit := do
  loadSchemas
  match n with
  | none =>
    for i in ← memberNumbers do
      if i != temporary then analyzeDatabase i
  | some n =>
    let asDatabase ← if n.database.isNone then findMember? n.name.text else pure none
    match asDatabase with
    | some i => analyzeDatabase i
    | none =>
      let _ ← memberOf n.database
      match ← placeOf? n.database (·.index? n.name.text) with
      | some (i, t, x) => analyzeOne i t (some x.name)
      | none =>
        let (i, t) ← locate (n.database.map (·.text)) n.name.text
        analyzeOne i t none

def analyzed : Work (List (String × Option String × Nat)) := do
  match (← schema i).table? "sqlite_stat1" with
  | none => return []
  | some t =>
    let rows ← (tableRows i t).toArray
    return rows.toList.filterMap fun p =>
      match p.values.toList with
      | tbl :: idx :: stat :: _ =>
        let n := (Text.Numeral.magnitude? (stat.toText.toList.takeWhile Char.isDigit)).getD 0
        some (tbl.toText, if idx.isNull then none else some idx.toText, n)
      | _ => none

def areKnown (known : List (String × Option String × Nat)) (t : Table) : Bool :=
  t.indices.all fun x => known.any fun (tbl, idx, _) =>
    Name.same tbl t.name && (idx.any (Name.same x.name) || (t.isOwn x && idx.any (Name.same t.name)))

def optimize (isNamed : Bool) (word : Option String) : Work Unit := do
  let mask : Nat := word.elim 0xFFFE fun w => Bytes.unsigned 32 (Word.integer32 w)
  let has (bit : Nat) : Bool := mask / bit % 2 == 1
  if !has 2 then return
  let all := (← get).members.length
  let last := if isNamed then i else all - 1
  let places := (List.range (last + 1)).filter fun k => i ≤ k && k != temporary
  for k in places do verify k
  let due ← places.flatMapM fun k => do
    let known ← analyzed k
    return (← schema k).walk.filterMap fun t =>
      if t.isView || t.isVirtual || isSystemName t.name then none
      else
        let isComplete := areKnown known t
        if has 0x10000 || (!t.indices.isEmpty && !isComplete) then
          let rows := ((known.filter fun (tbl, _, _) => Name.same tbl t.name).getLast?).map fun (_, _, n) => n
          some (k, t, if isComplete then some ((rows.map Estimate.ofNat).getD 200) else none)
        else none
  match due with
  | _ :: (k, _, _) :: _ => enterForStatement k
  | _ => pure ()
  for (k, t, size) in due do
    let s ← if t.isKeyed then do
        let s ← paging k (Paging.keys t.tree)
        pure (s.items.size, s.stopped)
      else do
        let s ← paging k (Paging.rows t.root)
        pure (s.items.size, s.stopped)
    match s.1, s.2 with
    | 0, some code => refuse code
    | n, _ =>
      let isDue : Bool := match size with
        | none => n != 0
        | some size =>
          let here : Int := if n = 0 then -1 else Estimate.ofNat n
          let least : Int := if 33 ≤ size then size - 33 else -1
          let most : Int := size + 33
          decide (here < least) || decide (most < here)
      if isDue then
        if has 1 then return
        analyzeOne k t none

end Work

end FormCompiler.Database
