import FormCompiler.Function.Basic
import FormCompiler.Ty.Read

namespace FormCompiler

namespace Mangle

/-- Letters and digits of ASCII stand for themselves; any other character is its code point in
hexadecimal between underscores. -/
def encodeChar (c : Char) : List Char :=
  if c.isAlphanum then [c] else '_' :: (Text.Numeral.hex c.toNat ++ ['_'])

def encode (name : List Char) : List Char := name.flatMap encodeChar

def typeCodes (types : List Ty) : String :=
  if types.isEmpty then "v" else String.join (types.map Ty.code)

def mangle (name : String) (types : List Ty) : String :=
  let encoded := encode name.toList
  "_Z" ++ Text.Numeral.ofNat encoded.length ++ String.ofList encoded ++ typeCodes types

end Mangle

structure Definition where
  name : String
  function : Function
  body : List Node

namespace Definition

def refuse {α : Type} (c : Complaint) (n : Node) : Except Report α := .error (c.report (some n.token))

def attributeNames : List String := ["inline", "cto", "noserialise"]

def readAttributes : List Node → Except Report (List String)
  | [] => .ok []
  | n :: ns => do
    if !attributeNames.contains n.literal then refuse (.definitionAttribute n.text) n
    let rest ← readAttributes ns
    .ok (n.literal :: rest)

def readParam (n : Node) : Except Report Parameter :=
  match n with
  | .list _ [nameNode, typeNode] => do
    match nameNode.symbol? with
    | none => refuse .parameter n
    | some name =>
      let type ← Ty.read typeNode
      if type.isVoid || type.isVariadic || type.isMarked then
        refuse (.parameterType name type.text) typeNode
      .ok { name, type, token := nameNode.token }
  | _ => refuse .parameter n

def readParams : List Node → Except Report (List Parameter)
  | [] => .ok []
  | n :: ns => do
    if n.symbol? = some "..." then
      if !ns.isEmpty then refuse .variadicLast n
      .ok [{ name := "...", type := .variadic, token := n.token }]
    else
      let p ← readParam n
      let ps ← readParams ns
      .ok (p :: ps)

def readReturnType (n : Node) : Except Report Ty := do
  let type ← Ty.read n
  if type.isVariadic || (type.isMarked && type.isVoid) then refuse (.definitionRetval type.text) n
  .ok type

def internalName (linkage : Linkage) (name : String) (params : List Parameter) : Octets :=
  Octets.ofString (if linkage = .externalC then name else Mangle.mangle name (params.map (·.type)))

def readSignature (name : String) (fn : Node) (linkage : Linkage) (attributes : List String) :
    List Node → Except Report (Function × List Node)
  | returnNode :: .list _ paramNodes :: body => do
    let returnType ← readReturnType returnNode
    let params ← readParams paramNodes
    let function : Function := {
      returnType, params, linkage
      internalName := internalName linkage name params
      alwaysInline := attributes.contains "inline"
      compileTimeOnly := attributes.contains "cto"
      serialise := !attributes.contains "noserialise"
      isDestructor := name == "destroy"
      isSetter := name.startsWith "setf-" }
    .ok (function, body)
  | _ => refuse .definitionForm fn

def readFunction (name : String) (fn : Node) : Except Report (Function × List Node) :=
  match fn.operands with
  | linkageNode :: second :: third :: rest => do
    match Linkage.ofName? linkageNode.literal with
    | none => refuse (.definitionLinkage linkageNode.text) linkageNode
    | some linkage =>
      if second.head? = some "attr" then
        let attributes ← readAttributes second.operands
        readSignature name fn linkage attributes (third :: rest)
      else readSignature name fn linkage [] (second :: third :: rest)
  | _ => refuse .definitionForm fn

def read (n : Node) : Except Report Definition := do
  if n.head? ≠ some "def" then refuse .topLevel n
  match n.operands with
  | [nameNode, fn] =>
    match nameNode.symbol?, fn.head? with
    | some name, some "fn" =>
      let (function, body) ← readFunction name fn
      .ok { name, function := { function with token := nameNode.token }, body }
    | _, _ => refuse .definitionForm n
  | _ => refuse .definitionForm n

end Definition

end FormCompiler
