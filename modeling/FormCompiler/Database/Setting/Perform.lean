import FormCompiler.Database.Setting.Journal
import FormCompiler.Database.Setting.Statistics

namespace FormCompiler.Database.Work

open Store (Obstacle Code)

def readsTables : List String :=
  ["auto_vacuum", "cache_size", "default_cache_size", "foreign_key_check", "foreign_key_list",
    "incremental_vacuum", "index_info", "index_list", "index_xinfo", "integrity_check", "journal_mode",
    "max_page_count", "optimize", "page_count", "quick_check", "synchronous", "table_info", "table_list",
    "table_xinfo", "wal_checkpoint"]

variable (i : Nat) (word : String)

def limitPages (word : Option String) : Work Unit := do
  verify i
  match word.bind Word.integer64? with
  | some n =>
    if 0 < n then
      let limit := max (← volume i).count (min n.toNat 0xFFFFFFFE)
      modifyMember i fun m => { m with pageLimit := limit, current := m.current.map fun v => { v with limit } }
  | none => return

def vacuumBy : Nat :=
  match Word.lower word with
  | "none" => 0
  | "full" => 1
  | "incremental" => 2
  | _ =>
    match Word.integer32 word with
    | 1 => 1
    | 2 => 2
    | _ => 0

def setVacuum : Work Unit := do
  let how := vacuumBy word
  modify fun c => { c with chosenVacuum := some how }
  let m ← member i
  if !(m.isSized && m.mapsPages != (how != 0)) then
    modifyMember i fun m => { m with
      mapsPages := how != 0
      isIncremental := how = 2
      current := m.current.map fun v => { v with
        mapsPages := if v.count = 0 then how != 0 else v.mapsPages
        isIncremental := how = 2 } }
    if how != 0 then
      enterForStatement i
      if (← volume i).cookie 4 != 0 then
        paging i (Paging.setCookie 7 (how - 1))
        modifyMember i fun m => { m with current := m.current.map fun v => { v with isIncremental := how = 2 } }

def vacuumStep : Work Unit := do
  enterForStatement i
  if (← volume i).mapsPages then paging i (Paging.shrinkBy 1 1)

def setPageSize : Work Unit := do
  let size := (Word.integer32 word).toNat
  modify fun c => { c with chosenSize := some size }
  let m ← member i
  if !m.isSized && m.current.isNone && isPageSize size then
    modifyMember i fun m => { m with layout := ⟨size, size⟩ }

def encodings : List (String × Encoding) :=
  [("utf8", .utf8), ("utf-8", .utf8), ("utf-16le", .utf16le), ("utf-16be", .utf16be), ("utf16le", .utf16le),
    ("utf16be", .utf16be), ("utf-16", .utf16le), ("utf16", .utf16le)]

def setEncoding : Work Unit := do
  if !(← get).encodingIsFixed then
    match encodings.lookup (Word.lower word) with
    | some encoding => modify fun c => { c with encoding }
    | none => complain ("unsupported encoding: " ++ word)

def setTemporaryPlace : Work Unit := do
  let c ← get
  let system := (c.members.head?.map (·.system)).getD .standard
  if word != "" && (system = .memory || !Path.leadsSomewhere c.disk.lookup (Octets.ofString word)) then
    complain "not a writable directory"

def setNumber (i cookie : Nat) (word : String) : Work Unit := do
  enterForStatement i
  let n := Bytes.unsigned 32 (Word.integer32 word)
  paging i (Paging.setCookie cookie n)
  if cookie = 1 then
    modifySchema i fun s => { s with cookie := (n + 0xFFFFFFFF) % 0x100000000 }

def headerNumbers : List (String × Nat) := [("schema_version", 1), ("user_version", 6), ("application_id", 8)]

def checkIntegrity (p : Pragma) : Work Unit := do
  let database ← p.database.mapM fun _ => return (← member i).name
  match p.value with
  | some name => if !(p.digits.any Word.isCount) then discard (locate database name)
  | none => pure ()
  for k in ← memberNumbers do
    if p.database.isNone || k = i then verify k

def checkReferences (p : Pragma) : Work Unit := do
  let database ← p.database.mapM fun _ => return (← member i).name
  let tables : List (Nat × Table) ← match p.value with
    | some name => do pure [← locate database name]
    | none => do pure ((← schema i).walk.map (i, ·))
  for (k, t) in tables do
    if !t.isView && !t.isVirtual && !t.references.isEmpty then
      let s ← schema k
      for f in t.references do
        match s.table? f.reference.table.text with
        | none => pure ()
        | some parent =>
          if (f.lead? parent).isNone then
            complain ("foreign key mismatch - \"" ++ t.name ++ "\" referencing \"" ++ f.reference.table.text ++ "\"")
      verify k
      discard (tableRows k t).first?

def checkColumns (p : Pragma) : Work Unit := do
  match p.value with
  | none => return
  | some name =>
    let database ← match p.database with
      | some _ => do pure (some (← member i).name)
      | none => pure none
    match ← findTable? database name with
    | some (k, t) =>
      match t.view with
      | some d => discard (view k t d)
      | none => return
    | none => return

def tell (name : String) (n : Int) : Work Unit := modify fun c => { c with told := ((i, name), n) :: c.told }

def safetyBy : Int :=
  match Word.lower word with
  | "no" | "off" | "false" => 0
  | "full" => 2
  | "extra" => 3
  | w => if w.toList.head?.any Char.isDigit then ((Word.integer32 w % 256 + 1) % 8 - 1) |> max 0 else 1

def setFlag (name word : String) : Work Unit := do
  let isOn := Word.isTrue word
  let inTransaction := (← get).inTransaction
  match name with
  | "query_only" => modify fun c => { c with queryOnly := isOn }
  | "writable_schema" =>
    modify fun c => { c with overlooks := isOn }
    if !isOn && Word.lower word == "reset" then
      for i in ← memberNumbers do modifyMember i fun m => { m with schema := none }
  | "ignore_check_constraints" => modify fun c => { c with ignoresChecks := isOn }
  | "foreign_keys" => if !inTransaction then modify fun c => { c with checksReferences := isOn }
  | "defer_foreign_keys" =>
    modify fun c => { c with defersChecks := isOn, danglingDeferred := if isOn then c.danglingDeferred else 0 }
  | "recursive_triggers" => modify fun c => { c with nestsTriggers := isOn }
  | "short_column_names" => modify fun c => { c with shortNames := isOn }
  | "full_column_names" => modify fun c => { c with fullNames := isOn }
  | "case_sensitive_like" => modify fun c => { c with likeFoldsCase := !isOn }
  | name => if (flagValue? (← get) name).isSome then tell 0 name (if isOn then 1 else 0)

def setTemporaryStore : Work Unit := do
  let store : Nat := match Word.lower word with
    | "file" => 1
    | "memory" => 2
    | w => match w.toList.head? with
      | some '1' => 1
      | some '2' => 2
      | _ => 0
  let c ← get
  if c.temporaryStore != store then
    let m ← member temporary
    if c.inTransaction && (m.current.isSome || m.own.count != 0) then
      complain "temporary storage cannot be changed from within a transaction"
    modifyMember temporary fun m => { m with own := { layout := m.layout }, schema := none }
    modify fun c => { c with temporaryStore := store }

def change (isNamed : Bool) (name word : String) : Work Unit := do
  match name with
  | "journal_mode" => setJournals i isNamed word
  | "locking_mode" => setLocks i isNamed word
  | "auto_vacuum" => setVacuum i word
  | "page_size" => setPageSize i word
  | "default_cache_size" =>
    verify i
    enterForStatement i
    paging i (Paging.setCookie 3 (Word.integer32 word).natAbs)
  | "encoding" => setEncoding word
  | "temp_store_directory" => setTemporaryPlace word
  | "temp_store" => setTemporaryStore word
  | "synchronous" =>
    if (← get).inTransaction then complain "Safety level may not be changed inside a transaction"
    if i != temporary then tell i name (safetyBy word)
  | "cache_size" => tell i name (Word.integer32 word)
  | "journal_size_limit" => tell i name (max (-1) ((Word.integer64? word).getD (-1)))
  | "busy_timeout" => tell 0 name (max 0 (Word.integer32 word))
  | "threads" => tell 0 name (max 0 (min 8 ((Word.integer64? word).getD 0)))
  | "secure_delete" => tell 0 name (if Word.lower word == "fast" then 2 else if Word.isTrue word then 1 else 0)
  | "analysis_limit" | "soft_heap_limit" | "hard_heap_limit" =>
    match Word.integer64? word with
    | some n => if 0 ≤ n then tell 0 name n
    | none => return
  | "wal_autocheckpoint" => modify fun c => { c with logLimit := (Word.integer32 word).toNat }
  | name =>
    match headerNumbers.lookup name with
    | some cookie => setNumber i cookie word
    | none => setFlag name word

def ask (name : String) : Work Unit := do
  match name with
  | "encoding" => loadSchemas
  | "default_cache_size" | "data_version" | "freelist_count" => enter i
  | name => if (headerNumbers.lookup name).isSome then enter i

def perform (p : Pragma) : Work Unit := do
  let i ← memberOf p.database
  let name := Word.lower p.name.text
  let isNamed := p.database.isSome
  if readsTables.contains name then loadSchemas
  match name, p.value with
  | "integrity_check", _ | "quick_check", _ => checkIntegrity i p
  | "foreign_key_check", _ => checkReferences i p
  | "table_info", _ | "table_xinfo", _ => checkColumns i p
  | "optimize", word => optimize i isNamed word
  | "max_page_count", word => limitPages i word
  | "page_count", _ => verify i
  | "wal_checkpoint", word => checkpoints i isNamed word
  | "incremental_vacuum", _ =>
    verify i
    vacuumStep i
  | "data_version", _ | "freelist_count", _ => enter i
  | name, some word => change i isNamed name word
  | name, none => ask i name

end FormCompiler.Database.Work
