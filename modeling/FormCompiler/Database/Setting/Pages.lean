import FormCompiler.Database.Query.Table
import FormCompiler.Database.Tree.Survey

namespace FormCompiler.Database.Work

def namedTrees (i : Nat) : Work (List (Value × Nat)) := do
  let (rows, _) ← schemaRows i
  let e := (← get).encoding
  let named := rows.toList.filterMap fun (_, b) =>
    (Row.read? e b 5).bind fun values =>
      let root : Int := (values[3]?.getD Value.null).toInteger
      if root ≤ 0 then none else some (values[1]?.getD Value.null, root.toNat)
  return (.ofString "sqlite_schema", 1) :: named

def namedMember? : Option Value → Work (Option Nat)
  | some v => findMember? v.toText
  | none => return some 0

def surveyRows (i : Nat) (isSum : Bool) (name : Value) (pages : List Survey) : Work (List Place) := do
  let size := (← volume i).layout.size
  let database := Value.ofString (← member i).name
  let sum (f : Survey → Int) : Value := .integer (pages.foldl (fun (n : Int) p => n + f p) 0)
  if isSum then
    let largest := pages.foldl (fun (n : Nat) p => max n p.largest) 0
    return [{ number := (pages.getLast?).map fun p => (p.number : Int)
              values := #[name, .null, .integer pages.length, .null, sum fun p => p.cells, sum fun p => p.payload,
                sum (·.unused), .integer largest, .null, .integer (size * pages.length : Nat), database, .integer 1] }]
  else
    let before := pages.map (·.number)
    return (pages.zip ((before.headD 1) :: before)).map fun (p, last) =>
      let kind := match p.kind with
        | .inner => "internal"
        | .leaf => "leaf"
        | .rest => "overflow"
        | .broken => "corrupted"
      let offset := size * ((if p.kind = .rest then last else p.number) - 1)
      { number := some p.number
        values := #[name, .ofString p.path, .integer p.number, .ofString kind, .integer p.cells, .integer p.payload,
          .integer p.unused, .integer p.largest, .integer offset, .integer size, database, .integer 0] }

def usageRows (database isSum : Option Value) : Stream Place :=
  let sums := isSum.any fun v => v.truth? == some true
  .after (do
    match ← namedMember? database with
    | none => return (0, [])
    | some i =>
      enter i
      let isEmpty := (← volume i).count = 0
      let trees ← namedTrees i
      return (i, if isEmpty then [] else trees)) fun (i, trees) =>
    (Stream.ofArray trees.toArray).bind fun (name, root) =>
      .after (do surveyRows i sums name (← paging i (Paging.survey root))) fun rows => Stream.ofArray rows.toArray

def pageRows (database : Option Value) : Stream Place :=
  .after (do
    match ← namedMember? database with
    | none => return (0, 0)
    | some i =>
      enter i
      return (i, (← volume i).count)) fun (i, count) =>
    (Stream.ofArray (Array.range count)).mapM fun n => do
      let data := (← volume i).page (n + 1)
      let values := #[.integer (n + 1 : Nat), .blob data, .ofString (← member i).name]
      return { number := some (n + 1 : Nat), values }

end FormCompiler.Database.Work
