import FormCompiler.Database.Function.Aggregate
import FormCompiler.Database.Function.Basic
import FormCompiler.Database.Function.Calendar
import FormCompiler.Database.Function.Pattern

namespace FormCompiler.Database.Function

def escapeOf (v : Value) : Except String Nat :=
  match Characters.codes (Characters.untilNul v.octets) with
  | [c] => .ok c
  | _ => .error "ESCAPE expression must be a single character"

def like (signs : Pattern.Signs) (pattern v : Value) (escape : Option Value) : Except String Value := do
  if pattern.isBlob || v.isBlob then return .integer 0
  let c ← match escape with
    | some e => if e.isNull then return .null else do pure (some (← escapeOf e))
    | none => pure none
  if pattern.isNull || v.isNull then return .null
  return .ofTruth (some (Pattern.isLike signs pattern.octets v.octets c))

def unicode (v : Value) : Value :=
  if v.isNull then .null
  else
    match Characters.codes (Characters.untilNul v.octets) with
    | c :: _ => .integer c
    | [] => .null

def options : List String :=
  ["ATOMIC_INTRINSICS=1", "COMPILER=clang-16.0.6", "DEFAULT_AUTOVACUUM", "DEFAULT_CACHE_SIZE=-2000",
    "DEFAULT_FILE_FORMAT=4", "DEFAULT_JOURNAL_SIZE_LIMIT=-1", "DEFAULT_MEMSTATUS=0", "DEFAULT_MMAP_SIZE=0",
    "DEFAULT_PAGE_SIZE=4096", "DEFAULT_PCACHE_INITSZ=20", "DEFAULT_RECURSIVE_TRIGGERS", "DEFAULT_SECTOR_SIZE=4096",
    "DEFAULT_SYNCHRONOUS=2", "DEFAULT_WAL_AUTOCHECKPOINT=1000", "DEFAULT_WAL_SYNCHRONOUS=2",
    "DEFAULT_WORKER_THREADS=0", "DIRECT_OVERFLOW_READ", "ENABLE_COLUMN_METADATA", "ENABLE_DBSTAT_VTAB", "ENABLE_FTS5",
    "ENABLE_GEOPOLY", "ENABLE_MATH_FUNCTIONS", "ENABLE_MEMORY_MANAGEMENT", "ENABLE_OFFSET_SQL_FUNC",
    "ENABLE_PREUPDATE_HOOK", "ENABLE_RBU", "ENABLE_RTREE", "ENABLE_SESSION", "ENABLE_SNAPSHOT", "ENABLE_STAT4",
    "ENABLE_UNLOCK_NOTIFY", "LIKE_DOESNT_MATCH_BLOBS", "MALLOC_SOFT_LIMIT=1024", "MAX_ATTACHED=10",
    "MAX_COLUMN=2000", "MAX_COMPOUND_SELECT=500", "MAX_DEFAULT_PAGE_SIZE=8192", "MAX_EXPR_DEPTH=1000",
    "MAX_FUNCTION_ARG=127", "MAX_LENGTH=1000000000", "MAX_LIKE_PATTERN_LENGTH=50000", "MAX_MMAP_SIZE=0x7fff0000",
    "MAX_PAGE_COUNT=0xfffffffe", "MAX_PAGE_SIZE=65536", "MAX_SQL_LENGTH=1000000000", "MAX_TRIGGER_DEPTH=1000",
    "MAX_VARIABLE_NUMBER=32766", "MAX_VDBE_OP=250000000", "MAX_WORKER_THREADS=8", "MUTEX_NOOP", "SOUNDEX",
    "SYSTEM_MALLOC", "TEMP_STORE=1", "THREADSAFE=1"]

def hasOption (name : String) : Bool :=
  let upper := name.toList.map Char.toUpper
  let bare := if "SQLITE_".toList.isPrefixOf upper then upper.drop 7 else upper
  options.any fun o =>
    let o := o.toList.map Char.toUpper
    bare.isPrefixOf o && !((o.drop bare.length).head?.any fun c => c.isAlphanum || c == '_')

def apply (e : Encoding) (signs : Pattern.Signs) (name : String) (args : List Value) : Except String Value :=
  let isNull : Bool := args.any Value.isNull
  let present (v : Value) : Except String Value := .ok (if isNull then .null else v)
  let letters (v : Value) (f : UInt8 → UInt8) : Value := if v.isNull then .null else .ofOctets (v.octets.map f)
  let real (f : Float → Float) (v : Value) : Except String Value := .ok (map f v)
  match name, args with
  | "abs", [v] =>
    match v with
    | .null => .ok .null
    | .integer n => if n = -(Nat.pow 2 63 : Int) then .error "integer overflow" else .ok (.integer n.natAbs)
    | v => .ok (.real (if v.toReal < 0 then -v.toReal else v.toReal))
  | "char", args => .ok (.ofOctets (ofNumbers (args.map Value.toInteger)))
  | "concat", args => .ok (.ofOctets (args.flatMap Value.octets))
  | "concat_ws", sep :: args =>
    if sep.isNull then .ok .null
    else .ok (.ofOctets (sep.octets.intercalate ((args.filter (!·.isNull)).map Value.octets)))
  | "format", f :: args | "printf", f :: args => .ok (if f.isNull then .null else Format.apply f.octets args)
  | "hex", [v] => .ok (.ofLetters (hex (v.toBlob e)))
  | "unhex", [v] => .ok (if isNull then .null else
    ((unhex [] (v.octets.length + 1) (Characters.untilNul v.octets)).map fun o =>
      Value.blob o.toByteArray).getD .null)
  | "unhex", [v, pass] =>
    .ok (if isNull then .null
      else ((unhex (Characters.codes (Characters.untilNul pass.octets)) (v.octets.length + 1)
        (Characters.untilNul v.octets)).map fun o => Value.blob o.toByteArray).getD .null)
  | "instr", [a, b] => present (.integer (positionOf a b))
  | "length", [v] =>
    match v with
    | .null => .ok .null
    | .blob b => .ok (.integer b.size)
    | v => .ok (.integer (length v.octets))
  | "likely", [v] | "unlikely", [v] | "likelihood", [v, _] => .ok v
  | "lower", [v] => .ok (letters v Characters.lower)
  | "upper", [v] => .ok (letters v Characters.upper)
  | "ltrim", [v] => present (.ofOctets (trim true false v.octets [32]))
  | "rtrim", [v] => present (.ofOctets (trim false true v.octets [32]))
  | "trim", [v] => present (.ofOctets (trim true true v.octets [32]))
  | "ltrim", [v, s] => present (.ofOctets (trim true false v.octets s.octets))
  | "rtrim", [v, s] => present (.ofOctets (trim false true v.octets s.octets))
  | "trim", [v, s] => present (.ofOctets (trim true true v.octets s.octets))
  | "octet_length", [v] => present (.integer (v.toBlob e).size)
  | "quote", [v] => .ok (.ofOctets (Format.quote v))
  | "replace", [v, a, b] => if isNull then .ok .null else .ok (replace v a b)
  | "round", [v] => .ok (round v (.integer 0))
  | "round", [v, n] => .ok (round v n)
  | "sign", [v] => .ok (sign v)
  | "soundex", [v] => .ok (.ofLetters (soundex (if v.isNull then [] else v.octets)))
  | "sqlite_version", [] => .ok (.ofString "3.46.0")
  | "sqlite_source_id", [] | "fts5_source_id", [] =>
    .ok (.ofString ((if name == "fts5_source_id" then "fts5: " else "") ++
      "2024-05-23 13:25:27 96c92aba00c8375bc32fafcdf12429c58bd8aabfcadab6683e35bbb9cdebf19e"))
  | "sqlite_compileoption_used", [v] => present (.ofTruth (some (hasOption v.toText)))
  | "sqlite_compileoption_get", [v] =>
    .ok (if v.toInteger < 0 then .null else ((options[v.toInteger.toNat]?).map Value.ofString).getD .null)
  | "substr", v :: start :: rest | "substring", v :: start :: rest =>
    if isNull then .ok .null else .ok (substring v start.toInteger (rest.head?.map Value.toInteger))
  | "typeof", [v] => .ok (.ofString (typeName v))
  | "unicode", [v] => .ok (unicode v)
  | "glob", [p, v] => like Pattern.glob p v none
  | "like", [p, v] => like signs p v none
  | "like", [p, v, c] => like signs p v (some c)
  | "pi", [] => .ok (.real pi)
  | "ceil", [v] | "ceiling", [v] => .ok (whole Float.ceil v)
  | "floor", [v] => .ok (whole Float.floor v)
  | "trunc", [v] => .ok (whole truncated v)
  | "sqrt", [v] => real Float.sqrt v
  | "exp", [v] => real Float.exp v
  | "ln", [v] => .ok (positive Float.log v)
  | "log", [v] | "log10", [v] => .ok (positive Float.log10 v)
  | "log2", [v] => .ok (positive Float.log2 v)
  | "log", [b, v] => .ok (logarithm b v)
  | "sin", [v] => real Float.sin v
  | "cos", [v] => real Float.cos v
  | "tan", [v] => real Float.tan v
  | "asin", [v] => real Float.asin v
  | "acos", [v] => real Float.acos v
  | "atan", [v] => real Float.atan v
  | "sinh", [v] => real Float.sinh v
  | "cosh", [v] => real Float.cosh v
  | "tanh", [v] => real Float.tanh v
  | "asinh", [v] => real Float.asinh v
  | "acosh", [v] => real Float.acosh v
  | "atanh", [v] => real Float.atanh v
  | "degrees", [v] => real (fun x => x * (180 / pi)) v
  | "radians", [v] => real (fun x => x * (pi / 180)) v
  | "atan2", [a, b] => .ok (map2 Float.atan2 a b)
  | "pow", [a, b] | "power", [a, b] => .ok (map2 Float.pow a b)
  | "mod", [a, b] => .ok (map2 remainder a b)
  | "date", _ | "time", _ | "datetime", _ | "julianday", _ | "unixepoch", _ | "strftime", _ | "timediff", _
  | "current_date", _ | "current_time", _ | "current_timestamp", _ => .ok (Calendar.apply name args)
  | "load_extension", _ => .error "not authorized"
  | "match", _ => .error "unable to use function MATCH in the requested context"
  | "bm25", _ | "highlight", _ | "snippet", _ =>
    .error ("unable to use function " ++ name ++ " in the requested context")
  | _, _ => .ok .null

end FormCompiler.Database.Function
