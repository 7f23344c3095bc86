import FormCompiler.IR.Basic
import FormCompiler.IR.Name

namespace FormCompiler.IR

/-- The numbers of a block and of its instructions, for those that have one. -/
structure Numbers where
  block : Option Nat
  insts : Array (Option Nat)

namespace Numbers

def assign : List Bool → Nat → List (Option Nat) × Nat
  | [], n => ([], n)
  | true :: rest, n =>
    let (numbers, next) := assign rest (n + 1)
    (some n :: numbers, next)
  | false :: rest, n =>
    let (numbers, next) := assign rest n
    (none :: numbers, next)

def ofBlocks : List Block → Nat → List Numbers
  | [], _ => []
  | b :: bs, n =>
    let (own, first) := assign [b.name == ""] n
    let (insts, next) := assign (b.insts.toList.map fun i => i.layout != .void) first
    ⟨own.head?.join, insts.toArray⟩ :: ofBlocks bs next

end Numbers

structure Numbered where
  func : Func
  numbers : Array Numbers

def Func.numbered (f : Func) : Numbered := ⟨f, (Numbers.ofBlocks f.blocks.toList 0).toArray⟩

def argsText (texts : List String) (variadic : Bool) : String :=
  "(" ++ ", ".intercalate (texts ++ if variadic then ["..."] else []) ++ ")"

namespace Numbered

def labelText (f : Numbered) (block : Nat) : String :=
  let name := (f.func.blocks[block]?.map (·.name)).getD ""
  if name = "" then Text.Numeral.ofNat ((f.numbers[block]?.bind (·.block)).getD 0) else Name.text name

def placeText (f : Numbered) (place : Place) : String :=
  let number := f.numbers[place.block]?.bind fun n => n.insts[place.index]?.join
  "%" ++ Text.Numeral.ofNat (number.getD 0)

def valueText (f : Numbered) : Value → String
  | .const bits n => Constant.text bits n
  | .param i _ => "%" ++ (f.func.params[i]?.map fun p => Name.text p.name).getD ""
  | .inst place _ => f.placeText place

def typedText (f : Numbered) (v : Value) : String := v.layout.text ++ " " ++ f.valueText v

def termText (f : Numbered) : Term → String
  | .ret none => "ret void"
  | .ret (some v) => "ret " ++ f.typedText v
  | .br target => "br label %" ++ f.labelText target
  | .unreachable => "unreachable"

end Numbered

def globalNames (funcs : List Func) : List String :=
  let numbers := (Numbers.assign (funcs.map fun f => f.name.isEmpty) 0).1
  (funcs.zip numbers).map fun (f, n) => "@" ++ (n.map Text.Numeral.ofNat).getD (Name.symbol f.name)

structure Globals where
  funcs : Array Func
  names : Array String

def Globals.ofFuncs (funcs : Array Func) : Globals := ⟨funcs, (globalNames funcs.toList).toArray⟩

def Func.callType (f : Func) : String :=
  if f.variadic then f.result.text ++ " " ++ argsText (f.params.map (·.layout.text)) true else f.result.text

def Globals.calleeText (g : Globals) (callee : Nat) : String :=
  (g.funcs[callee]?.map Func.callType).getD "" ++ " " ++ g.names[callee]?.getD ""

namespace Numbered

def instText (g : Globals) (f : Numbered) (place : Place) (i : Inst) : String :=
  let made := if i.layout = .void then "" else f.placeText place ++ " = "
  made ++ match i with
  | .alloca l => "alloca " ++ l.text
  | .store value target => "store " ++ f.typedText value ++ ", " ++ f.typedText target
  | .load l source => "load " ++ l.text ++ ", " ++ f.typedText source
  | .offset l base index => "getelementptr " ++ l.text ++ ", " ++ f.typedText base ++ ", " ++ f.typedText index
  | .firstElement l base => "getelementptr " ++ l.text ++ ", " ++ f.typedText base ++ ", i64 0, i64 0"
  | .extend signed value bits =>
    (if signed then "sext " else "zext ") ++ f.typedText value ++ " to " ++ (Layout.int bits).text
  | .sub left right => "sub " ++ f.typedText left ++ ", " ++ f.valueText right
  | .call _ callee args => "call " ++ g.calleeText callee ++ argsText (args.map f.typedText) false

def blockText (g : Globals) (f : Numbered) (block : Nat) (b : Block) : String :=
  let insts := b.insts.toList.zipIdx.map fun (i, n) => "\n\t" ++ f.instText g ⟨block, n⟩ i
  let term := (b.term.map fun t => "\n\t" ++ f.termText t).getD ""
  f.labelText block ++ ":" ++ String.join insts ++ term

end Numbered

namespace Func

def paramText (p : Param) : String := p.layout.text ++ " %" ++ Name.text p.name

def headerText (f : Func) (name : String) : String :=
  (if f.isDeclaration then "declare " else "define ") ++ (if f.internal then "internal " else "") ++
    f.result.text ++ " " ++ name ++ argsText (f.params.map paramText) f.variadic ++
    (if f.alwaysInline then " alwaysinline" else "")

def text (g : Globals) (name : String) (f : Func) : String :=
  if f.isDeclaration then f.headerText name
  else
    let numbered := f.numbered
    let blocks := f.blocks.toList.zipIdx.map fun (b, n) => numbered.blockText g n b
    f.headerText name ++ " \x7b\n" ++ "\n\n".intercalate blocks ++ "\n\x7d"

end Func

def Module.text (m : Module) : String :=
  let g := Globals.ofFuncs m.funcs
  let funcs := (m.funcs.toList.zip g.names.toList).map fun (f, name) => "\n" ++ f.text g name ++ "\n"
  "source_filename = \"" ++ m.source ++ "\"\n" ++ String.join funcs

end FormCompiler.IR
