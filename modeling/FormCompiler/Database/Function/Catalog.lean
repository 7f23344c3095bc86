import FormCompiler.Database.Function.Basic
import FormCompiler.Database.Schema.Basic

namespace FormCompiler.Database

structure Entry where
  name : String
  count : Option Nat
  kind : Function.Kind := .scalar
  isConstant : Bool := true
  readsMarks : Bool := false
  isDirect : Bool := false
  isHarmless : Bool := true
  isBuiltIn : Bool := true

namespace Entry

def flags (e : Entry) : Nat :=
  (if e.isConstant then 0x800 else 0) + (if e.isDirect then 0x80000 else 0) + (if e.readsMarks then 0x100000 else 0) +
    if e.isHarmless then 0x200000 else 0

def row (e : Entry) : String × Bool × String × Int × Nat :=
  let kind := match e.kind with
    | .scalar => "s"
    | .aggregate => if e.isBuiltIn then "w" else "a"
    | .window => "w"
  (e.name, e.isBuiltIn, kind, (e.count.map fun n => (n : Int)).getD (-1), e.flags)

def constant (named : List (String × List Nat)) : List Entry :=
  named.flatMap fun (name, counts) =>
    if counts.isEmpty then [{ name, count := none }] else counts.map fun n => { name, count := some n }

def changing (named : List (String × List Nat)) : List Entry :=
  (constant named).map fun e => { e with isConstant := false }

def ofGroups (kind : Function.Kind) (named : List (String × List Nat)) : List Entry :=
  (changing named).map fun e => { e with kind }

def marked (named : List (String × List Nat)) : List Entry :=
  (constant named).map fun e => { e with readsMarks := true }

def special : List Entry :=
  ofGroups .window [("row_number", [0]), ("dense_rank", [0]), ("rank", [0]), ("percent_rank", [0]),
    ("cume_dist", [0]), ("ntile", [1]), ("last_value", [1]), ("nth_value", [2]), ("first_value", [1]),
    ("lead", [1, 2, 3]), ("lag", [1, 2, 3])] ++
  constant [("julianday", []), ("unixepoch", []), ("date", []), ("time", []), ("datetime", []), ("strftime", []),
    ("timediff", [2])] ++
  changing [("current_time", [0]), ("current_timestamp", [0]), ("current_date", [0])] ++
  constant [("json", [1]), ("jsonb", [1])] ++ marked [("json_array", []), ("jsonb_array", [])] ++
  constant [("json_array_length", [1, 2]), ("json_error_position", [1]), ("json_extract", []), ("jsonb_extract", []),
    ("->", [2]), ("->>", [2])] ++
  marked [("json_insert", []), ("jsonb_insert", []), ("json_object", []), ("jsonb_object", [])] ++
  constant [("json_patch", [2]), ("jsonb_patch", [2]), ("json_pretty", [1, 2])] ++ marked [("json_quote", [1])] ++
  constant [("json_remove", []), ("jsonb_remove", [])] ++
  marked [("json_replace", []), ("jsonb_replace", []), ("json_set", []), ("jsonb_set", [])] ++
  constant [("json_type", [1, 2]), ("json_valid", [1, 2])] ++
  (marked [("json_group_array", [1]), ("jsonb_group_array", [1]), ("json_group_object", [2]),
    ("jsonb_group_object", [2])]).map
    fun e => { e with kind := .aggregate }

def general : List Entry :=
  constant [("soundex", [1])] ++
  (changing [("load_extension", [1, 2])]).map (fun e => { e with isDirect := true, isHarmless := false }) ++
  changing [("sqlite_compileoption_used", [1]), ("sqlite_compileoption_get", [1])] ++
  constant [("unlikely", [1]), ("likelihood", [2]), ("likely", [1]), ("sqlite_offset", [1]), ("ltrim", [1, 2]),
    ("rtrim", [1, 2]), ("trim", [1, 2]), ("min", [])] ++
  ofGroups .aggregate [("min", [1])] ++ constant [("max", [])] ++ ofGroups .aggregate [("max", [1])] ++
  constant [("typeof", [1])] ++ marked [("subtype", [1])] ++
  constant [("length", [1]), ("octet_length", [1]), ("instr", [2]), ("printf", []), ("format", []), ("unicode", [1]),
    ("char", []), ("abs", [1]), ("round", [1, 2]), ("upper", [1]), ("lower", [1]), ("hex", [1]), ("unhex", [1, 2]),
    ("concat", []), ("concat_ws", []), ("ifnull", [2])] ++
  changing [("random", [0]), ("randomblob", [1])] ++ constant [("nullif", [2])] ++
  changing [("sqlite_version", [0]), ("sqlite_source_id", [0])] ++ constant [("sqlite_log", [2]), ("quote", [1])] ++
  changing [("last_insert_rowid", [0]), ("changes", [0]), ("total_changes", [0])] ++
  constant [("replace", [3]), ("zeroblob", [1]), ("substr", [2, 3]), ("substring", [2, 3])] ++
  ofGroups .aggregate [("sum", [1]), ("total", [1]), ("avg", [1]), ("count", [0, 1]), ("group_concat", [1, 2]),
    ("string_agg", [2])] ++
  constant [("glob", [2]), ("like", [2, 3]), ("ceil", [1]), ("ceiling", [1]), ("floor", [1]), ("trunc", [1]),
    ("ln", [1]), ("log", [1]), ("log10", [1]), ("log2", [1]), ("log", [2]), ("exp", [1]), ("pow", [2]),
    ("power", [2]), ("mod", [2]), ("acos", [1]), ("asin", [1]), ("atan", [1]), ("atan2", [2]), ("cos", [1]),
    ("sin", [1]), ("tan", [1]), ("cosh", [1]), ("sinh", [1]), ("tanh", [1]), ("acosh", [1]), ("asinh", [1]),
    ("atanh", [1]), ("sqrt", [1]), ("radians", [1]), ("degrees", [1]), ("pi", [0]), ("sign", [1]), ("coalesce", []),
    ("iif", [3])]

def added : List Entry :=
  let open_ (e : Entry) : Entry := { e with isHarmless := false }
  let all := (changing [("match", [2]), ("fts5", [1])]).map open_ ++ constant [("fts5_source_id", [0])] ++
    (changing [("rtreenode", [2]), ("rtreedepth", [1]), ("rtreecheck", [])]).map open_ ++
    constant [("geopoly_area", [1]), ("geopoly_blob", [1]), ("geopoly_json", [1]), ("geopoly_svg", []),
      ("geopoly_within", [2]), ("geopoly_contains_point", [3]), ("geopoly_overlap", [2])] ++
    (changing [("geopoly_debug", [1])]).map (fun e => { e with isDirect := true, isHarmless := false }) ++
    constant [("geopoly_bbox", [1]), ("geopoly_xform", [7]), ("geopoly_regular", [4]), ("geopoly_ccw", [1])] ++
    (constant [("geopoly_group_bbox", [1])]).map fun e => { e with kind := .aggregate }
  all.map fun e => { e with isBuiltIn := false }

def group (e : Entry) : Nat := ((e.name.toList.head?.map Char.toNat).getD 0 + e.name.length) % 23

def join (es : List Entry) (e : Entry) : List Entry :=
  match es.findIdx? fun o => o.name == e.name with
  | some i => es.insertIdx (i + 1) e
  | none => e :: es

def all : List Entry :=
  let own := special ++ general
  ((List.range 23).flatMap fun k => (own.filter fun e => e.group == k).foldl join []) ++ Walk.of (·.name) added

end Entry

def moduleNames : List String :=
  Walk.of id ["fts5", "fts5vocab", "rtree", "rtree_i32", "geopoly", "sqlite_dbpage", "dbstat", "json_each", "json_tree",
    "pragma_module_list"]

end FormCompiler.Database
