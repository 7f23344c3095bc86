import FormCompiler.Report.Basic

namespace FormCompiler

inductive Complaint where
  | arity (form expected : String) (given : Nat)
  | callTypes (name types : String)
  | callVoid (name : String) (position : Nat)
  | coreUnknown (name : String)
  | definitionAttribute (name : String)
  | definitionAttributes (name : String)
  | definitionForm
  | definitionLinkage (linkage : String)
  | linkageMismatch (name declared given : String)
  | parameter
  | parameterType (name type : String)
  | redefined (name : String)
  | definitionRetval (type : String)
  | returnOverload (name parameters returned : String)
  | symbolInUse (name symbol : String)
  | topLevel
  | variadicLast
  | dereferenceType (type : String)
  | formEmpty
  | formHead
  | gotoUndefined (label function : String)
  | integerRange (literal : String)
  | labelName (form : String)
  | labelRedefined (label : String)
  | unknownNamespace (name : String)
  | pointerArity (form : String)
  | pointerHead (form type : String)
  | pointerOffset (form : String) (position : Nat) (type : String)
  | pointerPointee (type : String)
  | returnType (given wanted : String)
  | returnVoid (wanted : String)
  | storage (message : String)
  | store (name message : String)
  | typeArray (size : String)
  | typeUnknown (type : String)
  | undefined (name : String)
  | variableInit (name wanted given : String)
  | variableName
  | integerMalformed (literal : String)
  | unclosed
  | unopened
  | storeOpen (message : String)
  | storeSignature (name message : String)
  deriving DecidableEq

namespace Complaint

open Report (Topic Argument)

def topic : Complaint → Topic
  | arity .. => .arity
  | callTypes .. => .callTypes
  | callVoid .. => .callVoid
  | coreUnknown .. => .coreUnknown
  | definitionAttribute .. => .definitionAttribute
  | definitionAttributes .. => .definitionAttributes
  | definitionForm => .definitionForm
  | definitionLinkage .. => .definitionLinkage
  | linkageMismatch .. => .linkageMismatch
  | parameter => .parameter
  | parameterType .. => .parameterType
  | redefined .. => .redefined
  | definitionRetval .. => .definitionRetval
  | returnOverload .. => .returnOverload
  | symbolInUse .. => .symbolInUse
  | topLevel => .topLevel
  | variadicLast => .variadicLast
  | dereferenceType .. => .dereferenceType
  | formEmpty => .formEmpty
  | formHead => .formHead
  | gotoUndefined .. => .gotoUndefined
  | integerRange .. => .integerRange
  | labelName .. => .labelName
  | labelRedefined .. => .labelRedefined
  | unknownNamespace .. => .unknownNamespace
  | pointerArity .. => .pointerArity
  | pointerHead .. => .pointerHead
  | pointerOffset .. => .pointerOffset
  | pointerPointee .. => .pointerPointee
  | returnType .. => .returnType
  | returnVoid .. => .returnVoid
  | storage .. => .storage
  | store .. => .store
  | typeArray .. => .typeArray
  | typeUnknown .. => .typeUnknown
  | undefined .. => .undefined
  | variableInit .. => .variableInit
  | variableName => .variableName
  | integerMalformed .. => .integerMalformed
  | unclosed => .unclosed
  | unopened => .unopened
  | storeOpen .. => .storeOpen
  | storeSignature .. => .storeSignature

def arguments : Complaint → List Argument
  | arity form expected given => [.text form, .text expected, .number given]
  | callTypes name types => [.text name, .text types]
  | callVoid name position => [.text name, .number position]
  | pointerOffset form position type => [.text form, .number position, .text type]
  | linkageMismatch name declared given => [.text name, .text declared, .text given]
  | returnOverload name parameters returned => [.text name, .text parameters, .text returned]
  | variableInit name wanted given => [.text name, .text wanted, .text given]
  | parameterType a b | symbolInUse a b | gotoUndefined a b | pointerHead a b | returnType a b
  | store a b | storeSignature a b => [.text a, .text b]
  | coreUnknown a | definitionAttribute a | definitionAttributes a | definitionLinkage a | redefined a
  | definitionRetval a | dereferenceType a | integerRange a | labelName a | labelRedefined a
  | unknownNamespace a | pointerArity a | pointerPointee a | returnVoid a | storage a | typeArray a
  | typeUnknown a | undefined a | integerMalformed a | storeOpen a => [.text a]
  | definitionForm | parameter | topLevel | variadicLast | formEmpty | formHead | variableName
  | unclosed | unopened => []

theorem render?_isSome (c : Complaint) : (Report.render? c.arguments c.topic.entry.message).isSome := by
  cases c <;> rfl

def message (c : Complaint) : String :=
  (Report.render? c.arguments c.topic.entry.message).get c.render?_isSome

def report (c : Complaint) (token : Option Token) : Report :=
  ⟨c.topic.id, c.topic.entry.kind, c.message, c.arguments, token⟩

end Complaint

end FormCompiler
