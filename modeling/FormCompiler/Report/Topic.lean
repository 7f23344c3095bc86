namespace FormCompiler.Report

inductive Kind where
  | typeMismatch
  | arityMismatch
  | undefinedLabel
  | ambiguousOverload
  | undefinedName
  | redefinition
  | malformed
  | storage
  deriving DecidableEq

def Kind.name : Kind → String
  | typeMismatch => "tern.type_mismatch"
  | arityMismatch => "tern.arity_mismatch"
  | undefinedLabel => "tern.undefined_label"
  | ambiguousOverload => "tern.ambiguous_overload"
  | undefinedName => "tern.undefined_name"
  | redefinition => "tern.redefinition"
  | malformed => "tern.syntax"
  | storage => "tern.storage"

/-- A piece of wording: fixed text, or one of the report's arguments, plain or in quotes. -/
inductive Piece where
  | text (s : String)
  | plain (argument : Nat)
  | quoted (argument : Nat)
  deriving DecidableEq

inductive Topic where
  | arity
  | callTypes
  | callVoid
  | coreUnknown
  | definitionAttribute
  | definitionAttributes
  | definitionForm
  | definitionLinkage
  | linkageMismatch
  | parameter
  | parameterType
  | redefined
  | definitionRetval
  | returnOverload
  | symbolInUse
  | topLevel
  | variadicLast
  | dereferenceType
  | formEmpty
  | formHead
  | gotoUndefined
  | integerRange
  | labelName
  | labelRedefined
  | unknownNamespace
  | pointerArity
  | pointerHead
  | pointerOffset
  | pointerPointee
  | returnType
  | returnVoid
  | storage
  | store
  | typeArray
  | typeUnknown
  | undefined
  | variableInit
  | variableName
  | integerMalformed
  | unclosed
  | unopened
  | storeOpen
  | storeSignature
  deriving DecidableEq

/-- What is said about a topic. A report whose predecessor in a list has one of the identifiers in
`knockOns` is probably an effect of it. -/
structure Entry where
  id : String
  kind : Kind
  message : List Piece
  explanation : List Piece
  knockOns : List String := []

namespace Topic

def all : List Topic :=
  [arity, callTypes, callVoid, coreUnknown, definitionAttribute, definitionAttributes, definitionForm,
    definitionLinkage, linkageMismatch, parameter, parameterType, redefined, definitionRetval,
    returnOverload, symbolInUse, topLevel, variadicLast, dereferenceType, formEmpty, formHead,
    gotoUndefined, integerRange, labelName, labelRedefined, unknownNamespace, pointerArity, pointerHead,
    pointerOffset, pointerPointee, returnType, returnVoid, storage, store, typeArray, typeUnknown,
    undefined, variableInit, variableName, integerMalformed, unclosed, unopened, storeOpen,
    storeSignature]

def entry : Topic → Entry
  | arity => {
      id := "comp/arity"
      kind := .arityMismatch
      message := [.quoted 0, .text " expects ", .plain 1, .text " but was given ", .plain 2]
      explanation := [.text "Built-in forms with a fixed number of operands must be given exactly that number."] }
  | callTypes => {
      id := "comp/call/types"
      kind := .typeMismatch
      message := [.text "no overload of ", .quoted 0, .text " accepts arguments of type ", .plain 1]
      explanation := [.text ("A call resolves to the overload whose parameter types are exactly the types of the " ++
        "arguments, in order. A variadic overload also accepts any further arguments after its " ++
        "required ones. None of the overloads of "), .quoted 0, .text " fits."] }
  | callVoid => {
      id := "comp/call/void"
      kind := .typeMismatch
      message := [.text "argument ", .plain 1, .text " of ", .quoted 0, .text " has no value"]
      explanation := [.text ("Forms such as 'do' with nothing in it, 'var', 'goto' and 'return' are of type 'void'. " ++
        "Nothing can be passed that way, not even as one of the extra arguments of a variadic function.")] }
  | coreUnknown => {
      id := "comp/core/unknown"
      kind := .undefinedName
      message := [.text "there is no built-in form called ", .quoted 0]
      explanation := [.text ("Qualifying a name with 'core.' asks for the built-in form of that name, " ++
        "bypassing any functions you may have defined with the same name.")] }
  | definitionAttribute => {
      id := "comp/def/attr"
      kind := .malformed
      message := [.text "unknown function attribute ", .quoted 0]
      explanation := [.text "The attributes a function can have are 'inline', 'cto' and 'noserialise'."] }
  | definitionAttributes => {
      id := "comp/def/attrs"
      kind := .ambiguousOverload
      message := [.quoted 0, .text " redeclared with the same signature but different attributes"]
      explanation := [.text ("Two functions with the same name and signature are the same function, so they must " ++
        "agree about attributes such as 'inline' that can't be used to tell overloads apart.")] }
  | definitionForm => {
      id := "comp/def/form"
      kind := .malformed
      message := [.text "malformed function definition"]
      explanation := [.text ("A function definition looks like " ++
        "'(def name (fn linkage return-type (params ...) body ...))', optionally with '(attr ...)' after " ++
        "the linkage.")] }
  | definitionLinkage => {
      id := "comp/def/linkage"
      kind := .malformed
      message := [.text "unknown linkage ", .quoted 0]
      explanation := [.text "The linkage of a function must be one of 'intern', 'extern' or 'extern-c'."] }
  | linkageMismatch => {
      id := "comp/def/linkage/mismatch"
      kind := .redefinition
      message := [.quoted 0, .text " was declared ", .quoted 1, .text " but is now given as ", .quoted 2]
      explanation := [.text ("The linkage of a function decides the name it has in the object file, so every " ++
        "declaration and the definition of a function must agree on it.")] }
  | parameter => {
      id := "comp/def/param"
      kind := .malformed
      message := [.text "malformed parameter"]
      explanation := [.text "Each parameter is a list of a name and a type, e.g. '(n int32)'."] }
  | parameterType => {
      id := "comp/def/param/type"
      kind := .typeMismatch
      message := [.text "parameter ", .quoted 0, .text " can't be of type ", .quoted 1]
      explanation := [.text ("Parameters need a concrete storage layout, and 'retval' may only be used on a " ++
        "return type.")] }
  | redefined => {
      id := "comp/def/redefined"
      kind := .redefinition
      message := [.quoted 0, .text " already has a body with this signature"]
      explanation := [.text "You can declare a function as often as you like, but you can only define it once."] }
  | definitionRetval => {
      id := "comp/def/retval"
      kind := .typeMismatch
      message := [.text "can't return ", .quoted 0, .text " by way of a caller-supplied slot"]
      explanation := [.text ("A 'retval' return type needs a type with a concrete storage layout to write into.")] }
  | returnOverload => {
      id := "comp/def/return-overload"
      kind := .ambiguousOverload
      message := [.quoted 0, .text " already has an overload taking ", .plain 1, .text ", returning ", .quoted 2]
      explanation := [.text ("Overloads are told apart by their parameter types alone, so two functions with the " ++
        "same name and parameters can't differ only in what they return.")] }
  | symbolInUse => {
      id := "comp/def/symbol"
      kind := .redefinition
      message := [.text "the symbol ", .quoted 1, .text " for ", .quoted 0, .text " is already in use"]
      explanation := [.text ("Every function in the module needs its own symbol. Functions with 'extern-c' " ++
        "linkage aren't mangled, so they can't be overloaded.")] }
  | topLevel => {
      id := "comp/def/top"
      kind := .malformed
      message := [.text "expected a definition at the top level"]
      explanation := [.text "Every top-level form must be a 'def'."] }
  | variadicLast => {
      id := "comp/def/varargs"
      kind := .malformed
      message := [.text "'...' must be the last parameter"]
      explanation := [.text ("The variadic marker says that any further arguments are accepted, so nothing can " ++
        "come after it.")] }
  | dereferenceType => {
      id := "comp/deref/type"
      kind := .typeMismatch
      message := [.text "can't dereference a value of type ", .quoted 0]
      explanation := [.text "Only pointers to types with a concrete storage layout can be dereferenced."] }
  | formEmpty => {
      id := "comp/form/empty"
      kind := .malformed
      message := [.text "empty form"]
      explanation := [.text "A form must start with the name of what it does."] }
  | formHead => {
      id := "comp/form/head"
      kind := .malformed
      message := [.text "the head of a form must be a symbol"]
      explanation := [.text ("Tern looks up the first element of a list to see what to do with the rest of it, so " ++
        "the first element must be a name.")] }
  | gotoUndefined => {
      id := "comp/goto/undefined"
      kind := .undefinedLabel
      message := [.text "'goto' jumps to label ", .quoted 0, .text " which is never defined in ", .quoted 1]
      explanation := [.text ("A 'goto' can jump forward to a label defined later in the same function, " ++
        "but by the end of the function the label must exist.")] }
  | integerRange => {
      id := "comp/int/range"
      kind := .typeMismatch
      message := [.text "integer literal ", .quoted 0, .text " doesn't fit in 'int32'"]
      explanation := [.text "Integer literals are of type 'int32'."] }
  | labelName => {
      id := "comp/label/name"
      kind := .malformed
      message := [.quoted 0, .text " needs a symbol as the name of a label"]
      explanation := [.text "Labels are named by symbols, e.g. '(label done)'."] }
  | labelRedefined => {
      id := "comp/label/redefined"
      kind := .redefinition
      message := [.text "label ", .quoted 0, .text " is already defined in this function"]
      explanation := [.text "Label names must be unique within a function."] }
  | unknownNamespace => {
      id := "comp/namespace"
      kind := .undefinedName
      message := [.text "unknown namespace ", .quoted 0]
      explanation := [.text ("The only namespace the compiler knows about is 'core', where the built-in forms live.")] }
  | pointerArity => {
      id := "comp/ptr/arity"
      kind := .arityMismatch
      message := [.quoted 0, .text " needs a pointer and at least one offset"]
      explanation := [.text "Pointer arithmetic looks like '(p+ ptr 3)' or '(p+ ptr i j k)'."] }
  | pointerHead => {
      id := "comp/ptr/head"
      kind := .typeMismatch
      message := [.text "first operand of ", .quoted 0, .text " is of type ", .quoted 1,
        .text ", which is not a pointer"]
      explanation := [.text ("Pointer arithmetic needs a pointer, or an array, which is treated as a pointer to its " ++
        "first element.")] }
  | pointerOffset => {
      id := "comp/ptr/offset"
      kind := .typeMismatch
      message := [.text "offset ", .plain 1, .text " of ", .quoted 0, .text " is of type ", .quoted 2,
        .text ", which is not an integer type"]
      explanation := [.text ("Pointers are offset by a whole number of elements, so the offsets must be integers.")] }
  | pointerPointee => {
      id := "comp/ptr/pointee"
      kind := .typeMismatch
      message := [.text "can't do arithmetic on ", .quoted 0, .text " because its elements have no size"]
      explanation := [.text ("Pointer arithmetic steps by the size of the thing pointed to, so that thing must have " ++
        "a storage layout.")] }
  | returnType => {
      id := "comp/return/type"
      kind := .typeMismatch
      message := [.text "returning a value of type ", .quoted 0, .text " from a function that returns ", .quoted 1]
      explanation := [.text "The value given to 'return' must be exactly of the function's return type."] }
  | returnVoid => {
      id := "comp/return/void"
      kind := .arityMismatch
      message := [.text "'return' without a value in a function that returns ", .quoted 0]
      explanation := [.text "Only functions returning 'void' can 'return' without a value."] }
  | storage => {
      id := "comp/storage"
      kind := .storage
      message := [.plain 0]
      explanation := [.text ("The compiler needed to put a value somewhere in memory and couldn't work out how big " ++
        "it is.")] }
  | store => {
      id := "comp/store"
      kind := .storage
      message := [.text "couldn't save the metadata of ", .quoted 0, .text ": ", .plain 1]
      explanation := [.text ("The function compiled, but its signature couldn't be written to the metadata store, " ++
        "so other compilation units won't be able to see it.")] }
  | typeArray => {
      id := "comp/type/array"
      kind := .malformed
      message := [.text "bad array size ", .quoted 0]
      explanation := [.text "An array type looks like '(array-of 10 int32)'."] }
  | typeUnknown => {
      id := "comp/type/unknown"
      kind := .undefinedName
      message := [.text "unknown type ", .quoted 0]
      explanation := [.text ("The types are the integer types, 'bool', 'void', and anything made from them with " ++
        "'p', 'array-of' and 'retval'.")] }
  | undefined => {
      id := "comp/undefined"
      kind := .undefinedName
      message := [.quoted 0, .text " is not a variable, function or built-in form"]
      explanation := [.text "The name isn't declared anywhere the compiler can see from here."] }
  | variableInit => {
      id := "comp/var/init"
      kind := .typeMismatch
      message := [.text "initializing variable ", .quoted 0, .text " of type ", .quoted 1,
        .text " with a value of type ", .quoted 2]
      explanation := [.text "The initial value of a variable must be exactly of the variable's type."] }
  | variableName => {
      id := "comp/var/name"
      kind := .malformed
      message := [.text "a variable needs a symbol as its name"]
      explanation := [.text "A local variable is declared like '(var n int32 0)'."] }
  | integerMalformed => {
      id := "lex/int"
      kind := .malformed
      message := [.text "malformed integer literal ", .quoted 0]
      explanation := [.text "Integer literals are decimal, optionally with a leading minus sign."] }
  | unclosed => {
      id := "parse/eof"
      kind := .malformed
      message := [.text "unexpected end of input: unclosed parenthesis"]
      explanation := [.text "Every '(' needs a matching ')'."]
      knockOns := ["lex/int"] }
  | unopened => {
      id := "parse/rparen"
      kind := .malformed
      message := [.text "unexpected ')'"]
      explanation := [.text "There are more closing parentheses than opening ones."] }
  | storeOpen => {
      id := "store/open"
      kind := .storage
      message := [.text "couldn't open the metadata store: ", .plain 0]
      explanation := [.text "Check TERN_DB_DRIVER and TERN_DB_DSN."] }
  | storeSignature => {
      id := "store/signature"
      kind := .storage
      message := [.text "stored signature of ", .quoted 0, .text " can't be read: ", .plain 1]
      explanation := [.text ("A row in the metadata store has a signature that the reader doesn't understand, so " ++
        "the function it describes can't be imported.")] }

def id (t : Topic) : String := t.entry.id

def ofId? (s : String) : Option Topic := all.find? (fun t => t.id == s)

end Topic

end FormCompiler.Report
