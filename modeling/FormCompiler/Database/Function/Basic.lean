namespace FormCompiler.Database

inductive Function.Kind where
  | scalar
  | aggregate
  | window
  deriving DecidableEq

structure Function where
  name : String
  kind : Function.Kind := .scalar
  counts : List Nat := []
  atLeast : Option Nat := none
  isDeterministic : Bool := true

namespace Function

def fixed (kind : Kind) (counts : List Nat) (names : List String) : List Function :=
  names.map fun name => { name, kind, counts }

def variadic (least : Nat) (names : List String) : List Function :=
  names.map fun name => { name, atLeast := some least }

def ofWords : List String := ["bm25", "highlight", "snippet"]

def all : List Function :=
  fixed .scalar [0] ["pi", "sqlite_source_id", "sqlite_version", "fts5_source_id"] ++
  fixed .scalar [1] ["abs", "acos", "acosh", "asin", "asinh", "atan", "atanh", "ceil", "ceiling", "cos", "cosh",
    "degrees", "exp", "floor", "geopoly_area", "geopoly_bbox", "geopoly_blob", "geopoly_ccw", "geopoly_debug",
    "geopoly_json", "hex", "json", "json_error_position", "json_quote", "jsonb", "length", "likely",
    "ln", "log10", "log2", "lower", "octet_length", "quote", "radians", "rtreedepth", "sign", "sin", "sinh",
    "soundex", "sqlite_compileoption_get", "sqlite_compileoption_used", "sqlite_offset", "sqrt", "subtype",
    "tan", "tanh", "trunc", "typeof", "unicode", "unlikely", "upper", "zeroblob", "fts5"] ++
  fixed .scalar [2] ["atan2", "geopoly_overlap", "geopoly_within", "glob", "ifnull", "instr", "json_patch",
    "jsonb_patch", "likelihood", "match", "mod", "nullif", "pow", "power", "rtreenode", "sqlite_log", "timediff", "->",
    "->>"] ++
  fixed .scalar [3] ["geopoly_contains_point", "iif", "replace"] ++
  fixed .scalar [4] ["geopoly_regular"] ++
  fixed .scalar [7] ["geopoly_xform"] ++
  fixed .scalar [1, 2] ["json_array_length", "json_pretty", "json_type", "json_valid", "load_extension", "log",
    "ltrim", "round", "rtrim", "trim", "unhex"] ++
  fixed .scalar [2, 3] ["like", "substr", "substring"] ++
  variadic 0 (["char", "format", "geopoly_svg", "json_array", "json_extract", "json_insert", "json_object",
    "json_remove", "json_replace", "json_set", "jsonb_array", "jsonb_extract", "jsonb_insert", "jsonb_object",
    "jsonb_remove", "jsonb_replace", "jsonb_set", "printf", "rtreecheck"] ++ ofWords) ++
  variadic 0 ["date", "datetime", "julianday", "strftime", "time", "unixepoch"] ++
  variadic 1 ["concat"] ++
  variadic 2 ["coalesce", "concat_ws", "max", "min"] ++
  (["changes", "current_date", "current_time", "current_timestamp", "last_insert_rowid", "random",
    "total_changes"].map fun name => ({ name, counts := [0], isDeterministic := false } : Function)) ++
  [{ name := "randomblob", counts := [1], isDeterministic := false },
    { name := "max", kind := .aggregate, counts := [1] }, { name := "min", kind := .aggregate, counts := [1] },
    { name := "count", kind := .aggregate, counts := [0, 1] },
    { name := "group_concat", kind := .aggregate, counts := [1, 2] },
    { name := "string_agg", kind := .aggregate, counts := [2] },
    { name := "json_group_object", kind := .aggregate, counts := [2] },
    { name := "jsonb_group_object", kind := .aggregate, counts := [2] }] ++
  fixed .aggregate [1] ["avg", "geopoly_group_bbox", "json_group_array", "jsonb_group_array", "sum", "total"] ++
  fixed .window [0] ["cume_dist", "dense_rank", "percent_rank", "rank", "row_number"] ++
  fixed .window [1] ["first_value", "last_value", "ntile"] ++
  fixed .window [2] ["nth_value"] ++
  fixed .window [1, 2, 3] ["lag", "lead"]

def takes (f : Function) (n : Nat) : Bool := f.counts.contains n || f.atLeast.any (· ≤ n)

inductive Search where
  | unknown
  | wrongCount
  | found (f : Function)

def find (name : String) (n : Nat) : Search :=
  let named := all.filter fun f => f.name == name.map Char.toLower
  match named.find? (·.takes n) with
  | some f => .found f
  | none => if named.isEmpty then .unknown else .wrongCount

def isOfJson (name : String) : Bool := "json".toList.isPrefixOf name.toList || name == "->" || name == "->>"

end Function

end FormCompiler.Database
