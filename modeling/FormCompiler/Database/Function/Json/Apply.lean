import FormCompiler.Database.Function.Json.Path

namespace FormCompiler.Database.Json

structure Marked where
  value : Value
  isJson : Bool := false
  deriving Inhabited

def malformed : String := "malformed JSON"

def badPath (path : Value) : String := "bad JSON path: " ++
    (Octets.text (Format.quote (.ofOctets (Characters.untilNul path.octets))))

variable (asBytes : Bool) (v : Value)

def argument : Except String (Option (Json × Bool)) :=
  let ofText (v : Value) : Except String (Option (Json × Bool)) :=
    match read v.octets with
    | .ok r => .ok (some r)
    | .error _ => .error malformed
  match v with
  | .null => .ok none
  | .blob b =>
    if isBytes b then
      match ofBytes? b with
      | some j => .ok (some (j, false))
      | none => .error malformed
    else ofText v
  | v => ofText v

def ofMarked (m : Marked) : Except String Json :=
  match m.value with
  | .null => .ok .null
  | .integer n => .ok (.number false false (Text.Numeral.ofInt n).toList)
  | .real x =>
    .ok (.number true false (if x.isInf then (if x < 0 then "-9e999".toList else "9e999".toList) else Real.text x))
  | .text s =>
    if m.isJson then
      match read s.toList with
      | .ok (j, _) => .ok j
      | .error _ => .error malformed
    else .ok (.text ⟨.raw, Octets.letters s.toList⟩)
  | .blob b =>
    if isBytes b then ((ofBytes? b).map Except.ok).getD (.error malformed) else .error "JSON cannot hold BLOB values"

def writeMarked (m : Marked) : Except String (List Char) :=
  match m.value with
  | .null => .ok "null".toList
  | .integer n => .ok (Text.Numeral.ofInt n).toList
  | .real x => .ok (Format.real { isExact := true, fillsZeros := true, precision := some 15 } .general 'e' x)
  | .text s => .ok (if m.isJson then Octets.letters s.toList else quoted (Octets.letters s.toList))
  | .blob b =>
    if isBytes b then ((ofBytes? b).map fun j => Except.ok j.write).getD (.error malformed)
    else .error "JSON cannot hold BLOB values"

def marked (j : Json) : Marked := ⟨.ofLetters j.write, true⟩

def inBytes (j : Json) : Marked := ⟨.blob j.bytes.toByteArray, false⟩

def result (j : Json) : Marked := if asBytes then inBytes j else marked j

def resultOfText (s : List Char) : Marked :=
  if asBytes then
    match read (Octets.ofLetters s) with
    | .ok (j, _) => inBytes j
    | .error _ => ⟨.blob .empty, false⟩
  else ⟨.ofLetters s, true⟩

def commas (parts : List (List Char)) : List Char := [','].intercalate parts

def array_ (args : List Marked) : Except String Marked := do
  return resultOfText asBytes ('[' :: commas (← args.mapM writeMarked) ++ [']'])

def pairs : List Marked → Except String (List (List Char))
  | k :: v :: rest => do
    match k.value with
    | .text s =>
      let here := quoted (Octets.letters s.toList) ++ ':' :: (← writeMarked v)
      return here :: (← pairs rest)
    | _ => .error "json_object() labels must be TEXT"
  | _ => .ok []

def object_ (args : List Marked) : Except String Marked := do
  if args.length % 2 = 1 then .error "json_object() requires an even number of arguments"
  return resultOfText asBytes ('\x7b' :: commas (← pairs args) ++ ['\x7d'])

def pathOf : List Char := (Characters.untilNul v.octets).letters

def rooted? : Option (List Char) :=
  match pathOf v with
  | '$' :: rest => some rest
  | _ => none

def abbreviated : List Char :=
  let letters := pathOf v
  match v with
  | .integer _ => '[' :: letters ++ [']']
  | _ =>
    if letters.all fun c => c.isAlphanum || c == '_' then '.' :: letters
    else if letters.head? == some '[' && 3 ≤ letters.length && letters.getLast? == some ']' then letters
    else ['.', '"'] ++ letters ++ ['"']

def extract (paths : List Value) : Except String Marked := do
  match ← argument v with
  | none => return ⟨.null, false⟩
  | some (j, _) =>
    match paths with
    | [p] =>
      if p.isNull then return ⟨.null, false⟩
      match rooted? p with
      | none => .error (badPath p)
      | some path =>
        match lookup j path with
        | .ok q =>
          return if !q.json.isContainer then ⟨q.json.toValue, false⟩ else result asBytes q.json
        | .error .missing => return ⟨.null, false⟩
        | .error .badPath => .error (badPath p)
    | paths =>
      match ← parts j paths with
      | some found => return resultOfText asBytes ('[' :: commas found ++ [']'])
      | none => return ⟨.null, false⟩
where
  parts (j : Json) : List Value → Except String (Option (List (List Char)))
    | [] => .ok (some [])
    | p :: rest =>
      if p.isNull then .ok none
      else
        match rooted? p with
        | none => .error (badPath p)
        | some path => do
          let here ← match lookup j path with
            | .ok q => .ok q.json.write
            | .error .missing => .ok "null".toList
            | .error .badPath => .error (badPath p)
          return (← parts j rest).map (here :: ·)

def arrow (asText : Bool) (v p : Value) : Except String Marked := do
  match ← argument v with
  | none => return ⟨.null, false⟩
  | some (j, _) =>
    if p.isNull then return ⟨.null, false⟩
    match lookup j ((rooted? p).getD (abbreviated p)) with
    | .ok q => return if asText then marked q.json else ⟨q.json.toValue, false⟩
    | .error .missing => return ⟨.null, false⟩
    | .error .badPath => .error (badPath p)

def change (make : Json → Edit) : Json → List Marked → Except String Json
  | j, p :: v :: rest => do
    if p.value.isNull then change make j rest
    else
      match rooted? p.value with
      | none => .error (badPath p.value)
      | some path =>
        let new ← ofMarked v
        match edit (make new) (path.length + 1) j path with
        | .ok (some j) => change make j rest
        | .ok none | .error .missing => change make j rest
        | .error .badPath => .error (badPath p.value)
  | j, _ => .ok j

def changing (name : String) (make : Json → Edit) (args : List Marked) : Except String Marked := do
  if args.length % 2 = 0 then .error ("json_" ++ name ++ "() needs an odd number of arguments")
  match args with
  | v :: rest =>
    match ← argument v.value with
    | none => return ⟨.null, false⟩
    | some (j, _) => return result asBytes (← change make j rest)
  | [] => return ⟨.null, false⟩

def remove (asBytes : Bool) : List Value → Except String Marked
  | [] => .ok ⟨.null, false⟩
  | v :: paths => do
    match ← argument v with
    | none => return ⟨.null, false⟩
    | some (j, _) => go j paths
where
  go : Json → List Value → Except String Marked
    | j, [] => .ok (result asBytes j)
    | j, p :: rest =>
      if p.isNull then .ok ⟨.null, false⟩
      else
        match rooted? p with
        | none => .error (badPath p)
        | some [] => .ok ⟨.null, false⟩
        | some path =>
          match edit .remove (path.length + 1) j path with
          | .ok j' => go (j'.getD .null) rest
          | .error .missing => go j rest
          | .error .badPath => .error (badPath p)

def partFor (path : Option Value) : Except String (Option Json) := do
  match ← argument v with
  | none => return none
  | some (j, _) =>
    match path with
    | none => return some j
    | some p =>
      if p.isNull then return none
      match rooted? p with
      | none => .error (badPath p)
      | some rest =>
        match lookup j rest with
        | .ok q => return some q.json
        | .error .missing => return none
        | .error .badPath => .error (badPath p)

def isValid (senses : Nat) : Value :=
  let has (k : Nat) : Bool := senses / k % 2 = 1
  let asText (v : Value) : Bool :=
    if !has 1 && !has 2 then false
    else
      match read v.octets with
      | .ok (_, isLoose) => has 2 || !isLoose
      | .error _ => false
  match v with
  | .null => .null
  | .blob b =>
    if isBytes b then .ofTruth (some (has 4 || (has 8 && (ofBytes? b).isSome))) else .ofTruth (some (asText v))
  | v => .ofTruth (some (asText v))

def errorPosition : Value :=
  let ofText (v : Value) : Value :=
    match read v.octets with
    | .ok _ => .integer 0
    | .error i => .integer (((v.octets.take i).filter fun b => !Characters.goesOn b).length + 1)
  match v with
  | .null => .null
  | .blob b => if isBytes b then .integer (if (ofBytes? b).isSome then 0 else 1) else ofText v
  | v => ofText v

def apply (name : String) (args : List Marked) : Except String Marked :=
  let asBytes := "jsonb".toList.isPrefixOf name.toList
  let values := args.map (·.value)
  let plain (v : Value) : Except String Marked := .ok ⟨v, false⟩
  let named := if asBytes then "json" ++ String.ofList (name.toList.drop 5) else name
  match named, values with
  | "json", [v] => remove asBytes [v]
  | "json_array", _ => array_ asBytes args
  | "json_object", _ => object_ asBytes args
  | "json_array_length", v :: rest => do
    match ← partFor v rest.head? with
    | some (.array items) => plain (.integer items.length)
    | some _ => plain (.integer 0)
    | none => plain .null
  | "json_extract", v :: p :: rest => extract asBytes v (p :: rest)
  | "->", [v, p] => arrow true v p
  | "->>", [v, p] => arrow false v p
  | "json_insert", _ => changing asBytes "insert" .insert args
  | "json_replace", _ => changing asBytes "replace" .replace args
  | "json_set", _ => changing asBytes "set" .set args
  | "json_remove", _ => remove asBytes values
  | "json_patch", [a, b] => do
    match ← argument a, ← argument b with
    | some (x, _), some (y, _) => return result asBytes (merge (maxDepth + 1) x y)
    | _, _ => plain .null
  | "json_pretty", v :: rest => do
    match ← argument v with
    | some (j, _) =>
      let indent := match rest with
        | p :: _ => if p.isNull then "    ".toList else pathOf p
        | [] => "    ".toList
      plain (.ofLetters (pretty indent 0 j))
    | none => plain .null
  | "json_type", v :: rest => do
    match ← partFor v rest.head? with
    | some j => plain (.ofString j.typeName)
    | none => plain .null
  | "json_quote", _ => do
    match args with
    | [m] => return ⟨.ofLetters (← writeMarked m), true⟩
    | _ => plain .null
  | "json_valid", [v] => plain (isValid v 1)
  | "json_valid", [v, senses] =>
    let n := senses.toInteger
    if n < 1 || 15 < n then .error "FLAGS parameter to json_valid() must be between 1 and 15"
    else plain (isValid v n.toNat)
  | "json_error_position", [v] => plain (errorPosition v)
  | _, _ => plain .null

end FormCompiler.Database.Json
