import FormCompiler.Database.Change.Reference
import FormCompiler.Database.Function.Catalog
import FormCompiler.Database.Function.Json.Each
import FormCompiler.Database.Query.Resolve.Query
import FormCompiler.Database.Setting.Integrity
import FormCompiler.Database.Setting.Pages

namespace FormCompiler.Database.Work

def nesting : Nat := 1000

def lookIn : LookIn := Resolver.query nesting

def view (i : Nat) (t : Table) (d : ViewDefinition) : Work (Array Field × RowSource) := do
  let (fields, rows, _) ← resolve [] (Resolver.view lookIn i t d)
  return (fields, rows)

def seenTable (i : Nat) (t : Table) : Work Table := do
  match t.view with
  | none => return t
  | some d =>
    let (fields, _) ← view i t d
    return { t with columns := fields.map fun f =>
      ({ name := f.name, type := f.type, affinity := f.affinity, collation := f.collation } : Column) }

end FormCompiler.Database.Work

namespace FormCompiler.Database

namespace Answer

def ofBool (b : Bool) : Value := .integer (if b then 1 else 0)

def typeName (type : String) : String :=
  if strictTypes.contains (Word.lower type) then type.map Char.toUpper else type

variable (t : Table)

def keyPart (i : Nat) (c : Column) : Nat :=
  if !c.isKey then 0
  else
    match t.keyIndex? with
    | none => 1
    | some x => ((x.parts.findIdx? fun p => p.column == some i).map (· + 1)).getD 0

def hiddenness (c : Column) : Nat :=
  match c.generated with
  | some (_, isKept) => if isKept then 3 else 2
  | none => if c.isHidden then 1 else 0

def columns (withHidden : Bool) : List (List Value) :=
  let shown := t.columns.toList.zipIdx.filter fun (c, _) => withHidden || hiddenness c = 0
  shown.zipIdx.map fun ((c, i), k) =>
    [.integer k, .ofString c.name, .ofString (typeName c.type), ofBool c.notNull.isSome,
      (c.defaultText.map Value.ofString).getD .null, .integer (keyPart t i c)]
      ++ if withHidden then [.integer (hiddenness c)] else []

def indices : List (List Value) :=
  t.indices.zipIdx.map fun (x, i) =>
    let origin := match x.origin with
      | .created => "c"
      | .unique => "u"
      | .primaryKey => "pk"
    [.integer i, .ofString x.name, ofBool x.isUnique, .ofString origin, ofBool x.where_.isSome]

def partName (p : IndexPart) : List Value :=
  match p.column with
  | some i =>
    if t.rowColumn == some i then [.integer (-1), .null]
    else [.integer i, ((t.columns[i]?).map fun c => Value.ofString c.name).getD .null]
  | none => [.integer (-2), .null]

def partsBeside (x : Index) : List IndexPart :=
  let part (i : Nat) : IndexPart :=
    { column := some i, expr := .null, collation := ((t.columns[i]?).bind (·.collation)).getD "BINARY" }
  if t.isOwn x then (t.storedOrder.filter fun i => !x.parts.any fun p => p.column == some i).map part
  else if t.isKeyed then (t.keyColumnsBeside x).map part
  else []

def indexParts (x : Index) (isFull : Bool) : List (List Value) :=
  let row (isKey : Bool) (n : Nat) (p : IndexPart) : List Value :=
    [.integer n] ++ partName t p ++
      if isFull then [ofBool p.isDescending, .ofString p.collation, ofBool isKey] else []
  let own := x.parts.zipIdx.map fun (p, n) => row true n p
  let beside := if !isFull then []
    else if t.isKeyed then (partsBeside t x).zipIdx.map fun (p, n) => row false (x.parts.length + n) p
    else [[.integer x.parts.length, .integer (-1), .null, .integer 0, .ofString "BINARY", .integer 0]]
  own ++ beside

def references : List (List Value) :=
  t.references.zipIdx.flatMap fun (f, id) =>
    f.columns.zipIdx.map fun (c, seq) =>
      let action (word : String) : Value := .ofString (if word == "" then "NO ACTION" else word.map Char.toUpper)
      [.integer id, .integer seq, .ofString f.reference.table.text,
        ((t.columns[c]?).map fun c => Value.ofString c.name).getD .null,
        ((f.reference.columns[seq]?).map fun n => Value.ofString n.text).getD .null,
        action f.reference.onUpdate, action f.reference.onDelete, .ofString "NONE"]

def settingNames : List String :=
  ((Supplied.settings.map (·.name)) ++ ["case_sensitive_like", "incremental_vacuum", "mmap_size", "shrink_memory",
    "temp_store_directory", "wal_autocheckpoint", "wal_checkpoint"]).mergeSort fun a b => a ≤ b

end Answer

namespace Work

open Answer (ofBool)

def told (i : Nat) (name : String) (otherwise : Int) : Work Value :=
  return .integer (((← get).told.lookup (i, name)).getD otherwise)

def flagValue? (c : Connection) (name : String) : Option Bool :=
  let told (otherwise : Bool) : Option Bool := some (((c.told.lookup (0, name)).map (· != 0)).getD otherwise)
  match name with
  | "query_only" => some c.queryOnly
  | "writable_schema" => some c.overlooks
  | "ignore_check_constraints" => some c.ignoresChecks
  | "foreign_keys" => some c.checksReferences
  | "defer_foreign_keys" => some c.defersChecks
  | "recursive_triggers" => some c.nestsTriggers
  | "short_column_names" => some c.shortNames
  | "full_column_names" => some c.fullNames
  | "automatic_index" | "trusted_schema" => told true
  | "cell_size_check" | "checkpoint_fullfsync" | "count_changes" | "empty_result_callbacks" | "fullfsync"
  | "legacy_alter_table" | "read_uncommitted" | "reverse_unordered_selects" => told false
  | _ => none

def danglingRows (i : Nat) (t : Table) : Work (List (List Value)) := do
  let s ← schema i
  let rows ← (tableRows i t).toArray
  rows.toList.flatMapM fun place =>
    t.references.zipIdx.filterMapM fun (f, id) => do
      if (valuesAt place f.columns).any Value.isNull then return none
      let isThere ← match s.table? f.reference.table.text with
        | none => pure false
        | some parent =>
          match f.lead? parent with
          | none => complain ("foreign key mismatch - \"" ++ t.name ++ "\" referencing \"" ++
            f.reference.table.text ++ "\"")
          | some lead => do
            if ← asksForItself t parent lead place then pure true else hasParent i parent lead place
      return if isThere then none
        else some [.ofString t.name, (place.number.map Value.integer).getD .null, .ofString f.reference.table.text,
          .integer id]

def listTables (i : Nat) (wanted : Option String) : Work (List (List Value)) := do
  let database := (← member i).name
  let all ← schema i
  all.walk.filterMapM fun t => do
    if !(wanted.all (Name.same t.name)) then return none
    let seen ← seenTable i t
    let name := match t.name with
      | "sqlite_master" => "sqlite_schema"
      | "sqlite_temp_master" => "sqlite_temp_schema"
      | name => name
    let kind := if t.isView then "view" else if t.isVirtual then "virtual" else if all.isBeside t.name then
      "shadow" else "table"
    return some [.ofString database, .ofString name, .ofString kind, .integer seen.columns.size, ofBool t.isKeyed,
      ofBool t.isStrict]

def connectionAnswer (name : String) (arg : Option String) : Work (List (List Value)) := do
  let c ← get
  match flagValue? c name with
  | some b => return [[ofBool b]]
  | none =>
    match name with
    | "analysis_limit" | "busy_timeout" | "hard_heap_limit" | "secure_delete" | "soft_heap_limit" | "threads" =>
      return [[← told 0 name 0]]
    | "temp_store" => return [[.integer c.temporaryStore]]
    | "encoding" =>
      loadSchemas
      return [[.ofString (match (← get).encoding with
        | .utf8 => "UTF-8"
        | .utf16le => "UTF-16le"
        | .utf16be => "UTF-16be")]]
    | "collation_list" => return [[.integer 0, .ofString "RTRIM"], [.integer 1, .ofString "NOCASE"],
      [.integer 2, .ofString "BINARY"]]
    | "database_list" =>
      return c.members.zipIdx.filterMap fun (m, i) =>
        if i = temporary && m.own.count = 0 && m.current.all (·.count = 0) then none
        else some [.integer i, .ofString m.name, (m.place.map fun l => Value.ofOctets l.name).getD (.ofString "")]
    | "compile_options" => return Function.options.map fun o => [.ofString o]
    | "function_list" =>
      return Entry.all.map fun e =>
        let (name, isBuiltIn, kind, count, flags) := e.row
        [.ofString name, ofBool isBuiltIn, .ofString kind, .ofString "utf8", .integer count, .integer flags]
    | "module_list" => return moduleNames.map fun n => [.ofString n]
    | "pragma_list" => return Answer.settingNames.map fun n => [.ofString n]
    | "table_list" =>
      loadSchemas
      (← memberNumbers).flatMapM fun i => listTables i arg
    | _ => return []

def askedTable? (database : Option String) (name : String) : Work (Option (Nat × Table)) := do
  loadSchemas
  match ← findTable? database name with
  | some (i, t) => return some (i, ← seenTable i t)
  | none =>
    return (Supplied.fields? name).map fun fields =>
      let column (f : Field) : Column :=
        { name := f.name, type := f.type, affinity := f.affinity, isHidden := f.isHidden }
      (0, { name, columns := fields.map column })

def askedIndex? (database : Option String) (name : String) : Work (Option (Table × Index)) := do
  loadSchemas
  let places ← match database with
    | some d => do pure (← findMember? d).toList
    | none => do pure (temporary :: (← memberNumbers).filter (· != temporary))
  let found ← places.findSomeM? fun i => do return (← schema i).index? name
  match found with
  | some f => return some f
  | none =>
    match ← findTable? database name with
    | some (_, t) => return if t.isKeyed then t.keyIndex?.map (t, ·) else none
    | none => return none

def tableAnswer (name : String) (database : Option String) (arg : String) : Work (List (List Value)) := do
  match name with
  | "table_info" | "table_xinfo" =>
    return ((← askedTable? database arg).map fun (_, t) => Answer.columns t (name == "table_xinfo")).getD []
  | "index_list" => return ((← askedTable? database arg).map fun (_, t) => Answer.indices t).getD []
  | "foreign_key_list" => return ((← askedTable? database arg).map fun (_, t) => Answer.references t).getD []
  | _ => return ((← askedIndex? database arg).map fun (t, x) => Answer.indexParts t x (name == "index_xinfo")).getD []

def journalName (m : Member) : String :=
  if m.place.isNone then if m.journal = .off then "off" else "memory"
  else if m.log.isSome then "wal"
  else ((Journal.names.find? fun j => j.2 = m.journal).map (·.1)).getD "delete"

def databaseAnswer (i : Nat) (name : String) : Work (List (List Value)) := do
  let header (cookie : Nat) : Work (List (List Value)) := do
    enter i
    let n := (← volume i).cookie cookie
    return [[.integer (if n < 0x80000000 then n else (n : Int) - 0x100000000)]]
  match name with
  | "application_id" => header 8
  | "user_version" => header 6
  | "schema_version" => header 1
  | "freelist_count" => header 0
  | "data_version" => return [[.integer 1]]
  | "auto_vacuum" =>
    loadSchemas
    let v ← volume i
    return [[.integer (if !v.mapsPages then 0 else if v.isIncremental then 2 else 1)]]
  | "cache_size" | "default_cache_size" =>
    loadSchemas
    enter i
    let kept := (← volume i).cookie 3
    let kept : Int := if kept = 0 then -2000 else kept
    return [[← if name == "cache_size" then told i name kept else pure (.integer kept)]]
  | "cache_spill" => return [[.integer 483]]
  | "journal_mode" =>
    loadSchemas
    return [[.ofString (journalName (← member i))]]
  | "journal_size_limit" => return [[← told i name (-1)]]
  | "locking_mode" => return [[.ofString (if (← member i).keepsLock then "exclusive" else "normal")]]
  | "max_page_count" =>
    verify i
    return [[.integer (← member i).pageLimit]]
  | "page_count" =>
    verify i
    return [[.integer (← volume i).count]]
  | "page_size" =>
    let m ← member i
    return [[.integer (if m.current.any (·.count != 0) then ((m.current.map (·.layout.size)).getD 4096)
      else m.layout.size)]]
  | "synchronous" => return [[← told i name 2]]
  | _ => return []

def settingRows (s : Supplied.Setting) (arg schema? : Option String) : Work (List (List Value)) := do
  let i ← memberOf (schema?.map fun d => { text := d })
  match s.name with
  | "table_info" | "table_xinfo" | "index_list" | "index_info" | "index_xinfo" | "foreign_key_list" =>
    match arg with
    | some a => tableAnswer s.name schema? a
    | none => return []
  | "integrity_check" | "quick_check" =>
    let only := arg.filter fun a => !Word.isCount a
    match only with
    | some a => discard (locate schema? a)
    | none => pure ()
    let limit := (arg.filter Word.isCount).elim 100 fun a => if Word.integer32 a ≤ 0 then
      100 else (Word.integer32 a).toNat
    let found ← (← memberNumbers).flatMapM fun k => do
      if schema?.isSome && k != i then return []
      wrongs k (s.name == "quick_check") only
    return (if found.isEmpty then ["ok"] else found.take limit).map fun w => [.ofString w]
  | "foreign_key_check" =>
    loadSchemas
    let tables ← match arg with
      | some a => do pure [← locate schema? a]
      | none => do pure ((← schema i).walk.map (i, ·))
    tables.flatMapM fun (k, t) => do
      if t.isView || t.isVirtual || t.references.isEmpty then return []
      verify k
      danglingRows k t
  | name =>
    match ← connectionAnswer name arg with
    | [] => databaseAnswer i name
    | rows => return rows

def supply (table : String) (hidden : List (Option Value)) : Stream Place :=
  let text (k : Nat) : Option String := ((hidden[k]?).bind id).bind fun v => if v.isNull then none else some v.toText
  let place (values : List Value) (n : Nat) : Place := { values := values.toArray, number := some n }
  let value (k : Nat) : Option Value := (hidden[k]?).bind id
  match Word.lower table with
  | "dbstat" => usageRows (value 0) (value 1)
  | "sqlite_dbpage" => pageRows (value 0)
  | _ => .after (do
    match Supplied.setting? table with
    | some s =>
      let arg := if s.takesValue then text 0 else none
      let database := if s.isOfDatabase then text (if s.takesValue then 1 else 0) else none
      let rows ← settingRows s arg database
      let given := (if s.takesValue then [arg] else []) ++ (if s.isOfDatabase then [database] else [])
      let beside := given.map fun g => (g.map Value.ofString).getD .null
      return (rows.zipIdx.map fun (r, n) => place (r ++ beside) n).toArray
    | none =>
      match hidden with
      | some v :: rest =>
        let root := (rest.head?).bind id
        let entries ← ofText (Json.entries (Word.lower table == "json_tree") v root)
        return (entries.zipIdx.map fun (e, n) =>
          let row := e.row v root
          { place (row.map (·.value)) n with
            marks := (row.zipIdx.filter fun (m, _) => m.isJson).map (·.2) }).toArray
      | _ => return #[]) Stream.ofArray

end Work

end FormCompiler.Database
