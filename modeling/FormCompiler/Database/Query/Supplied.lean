import FormCompiler.Database.Query.Term

namespace FormCompiler.Database.Supplied

structure Setting where
  name : String
  columns : List String
  takesValue : Bool
  isOfDatabase : Bool

def single (takesValue isOfDatabase : Bool) (names : List String) : List Setting :=
  names.map fun name => { name, columns := [name], takesValue, isOfDatabase }

def settings : List Setting :=
  single false false ["analysis_limit", "application_id", "automatic_index", "cell_size_check", "checkpoint_fullfsync",
    "compile_options", "count_changes", "data_version", "defer_foreign_keys", "empty_result_callbacks", "encoding",
    "foreign_keys", "freelist_count", "full_column_names", "fullfsync", "hard_heap_limit", "ignore_check_constraints",
    "legacy_alter_table", "query_only", "read_uncommitted", "recursive_triggers", "reverse_unordered_selects",
    "schema_version", "secure_delete", "short_column_names", "soft_heap_limit", "temp_store", "threads",
    "trusted_schema", "user_version", "writable_schema"] ++
  single false true ["auto_vacuum", "cache_size", "cache_spill", "journal_mode", "journal_size_limit", "locking_mode",
    "max_page_count", "page_count", "page_size", "synchronous"] ++
  single true true ["integrity_check", "quick_check"] ++
  single true false ["optimize"] ++
  [⟨"busy_timeout", ["timeout"], false, false⟩, ⟨"default_cache_size", ["cache_size"], false, true⟩,
    ⟨"collation_list", ["seq", "name"], false, false⟩, ⟨"database_list", ["seq", "name", "file"], false, false⟩,
    ⟨"foreign_key_check", ["table", "rowid", "parent", "fkid"], true, true⟩,
    ⟨"foreign_key_list", ["id", "seq", "table", "from", "to", "on_update", "on_delete", "match"], true, true⟩,
    ⟨"function_list", ["name", "builtin", "type", "enc", "narg", "flags"], false, false⟩,
    ⟨"index_info", ["seqno", "cid", "name"], true, true⟩,
    ⟨"index_list", ["seq", "name", "unique", "origin", "partial"], true, true⟩,
    ⟨"index_xinfo", ["seqno", "cid", "name", "desc", "coll", "key"], true, true⟩,
    ⟨"module_list", ["name"], false, false⟩, ⟨"pragma_list", ["name"], false, false⟩,
    ⟨"table_info", ["cid", "name", "type", "notnull", "dflt_value", "pk"], true, true⟩,
    ⟨"table_list", ["schema", "name", "type", "ncol", "wr", "strict"], true, false⟩,
    ⟨"table_xinfo", ["cid", "name", "type", "notnull", "dflt_value", "pk", "hidden"], true, true⟩]

def setting? (table : String) : Option Setting :=
  let lower := table.map Char.toLower
  if "pragma_".toList.isPrefixOf lower.toList then
    settings.find? fun s => s.name == String.ofList (lower.toList.drop 7)
  else none

def columns? (table : String) : Option (List String × List String) :=
  match table.map Char.toLower with
  | "json_each" | "json_tree" =>
    some (["key", "value", "type", "atom", "id", "parent", "fullkey", "path"], ["json", "root"])
  | "dbstat" =>
    some (["name", "path", "pageno", "pagetype", "ncell", "payload", "unused", "mx_payload", "pgoffset", "pgsize"],
      ["schema", "aggregate"])
  | "sqlite_dbpage" => some (["pgno", "data"], ["schema"])
  | _ =>
    (setting? table).map fun s =>
      (s.columns, (if s.takesValue then ["arg"] else []) ++ (if s.isOfDatabase then ["schema"] else []))

def typeOf (table column : String) : String × Affinity :=
  match table.map Char.toLower with
  | "dbstat" =>
    if ["name", "path", "pagetype", "schema"].contains column then ("TEXT", .text)
    else if column == "aggregate" then ("BOOLEAN", .numeric)
    else ("INTEGER", .integer)
  | "sqlite_dbpage" => if column == "pgno" then ("INTEGER", .integer) else if column == "data" then
    ("BLOB", .blob) else ("", .blob)
  | _ => ("", .blob)

def isDirect (table : String) : Bool := ["dbstat", "sqlite_dbpage"].contains (table.map Char.toLower)

def fields? (table : String) : Option (Array Field) :=
  (columns? table).map fun (seen, hidden) =>
    let field (isHidden : Bool) (name : String) : Field :=
      let (type, affinity) := typeOf table name
      { name, type, affinity, collation := some "BINARY", isHidden }
    (seen.map (field false) ++ hidden.map (field true)).toArray

end FormCompiler.Database.Supplied
