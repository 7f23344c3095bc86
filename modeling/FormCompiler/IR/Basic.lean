import FormCompiler.Text.Numeral
import FormCompiler.Text.Octets

namespace FormCompiler.IR

inductive Layout where
  | void
  | int (bits : Nat)
  | pointer (pointee : Layout)
  | array (size : Nat) (element : Layout)
  deriving DecidableEq

namespace Layout

def text : Layout → String
  | void => "void"
  | int bits => "i" ++ Text.Numeral.ofNat bits
  | pointer pointee => pointee.text ++ "*"
  | array size element => "[" ++ Text.Numeral.ofNat size ++ " x " ++ element.text ++ "]"

def element : Layout → Layout
  | array _ element => element
  | l => l

end Layout

structure Place where
  block : Nat
  index : Nat
  deriving DecidableEq

inductive Value where
  | const (bits : Nat) (n : Int)
  | param (index : Nat) (layout : Layout)
  | inst (place : Place) (layout : Layout)
  deriving DecidableEq

def Value.layout : Value → Layout
  | const bits _ => .int bits
  | param _ l | inst _ l => l

inductive Inst where
  | alloca (layout : Layout)
  | store (value target : Value)
  | load (layout : Layout) (source : Value)
  | offset (element : Layout) (base index : Value)
  | firstElement (aggregate : Layout) (base : Value)
  | extend (signed : Bool) (value : Value) (bits : Nat)
  | sub (left right : Value)
  | call (result : Layout) (callee : Nat) (args : List Value)
  deriving DecidableEq

def Inst.layout : Inst → Layout
  | alloca l => .pointer l
  | store .. => .void
  | load l _ => l
  | offset l .. => .pointer l
  | firstElement l _ => .pointer l.element
  | extend _ _ bits => .int bits
  | sub left _ => left.layout
  | call l .. => l

inductive Term where
  | ret (value : Option Value)
  | br (target : Nat)
  | unreachable
  deriving DecidableEq

/-- A block without a name has the empty one. A block is open until it has a terminator. -/
structure Block where
  name : String
  insts : Array Inst := #[]
  term : Option Term := none
  deriving DecidableEq

structure Param where
  name : String
  layout : Layout
  deriving DecidableEq

structure Func where
  name : Octets
  result : Layout
  params : List Param
  variadic : Bool := false
  alwaysInline : Bool := false
  internal : Bool := false
  blocks : Array Block := #[]
  deriving DecidableEq

structure Module where
  source : String
  funcs : Array Func := #[]
  deriving DecidableEq

namespace Func

def isDeclaration (f : Func) : Bool := f.blocks.isEmpty

end Func

namespace Constant

/-- How mixed a run of digits is: the share of different digits among as many as there could be. -/
def entropy (base : Nat) (digits : List Char) : Float :=
  digits.eraseDups.length.toFloat / (min digits.length base).toFloat

def patternLimit (digits : Nat) : Float :=
  let length := min digits 16
  let different : Float := if length ≤ 6 then 2 else if length ≤ 10 then 3 else 4
  different / length.toFloat

def preferHex (n : Nat) : Bool :=
  let hex := Text.Numeral.hex n
  let hexEntropy := entropy 16 hex
  let decimalEntropy := entropy 10 (Text.Numeral.digits n)
  hexEntropy ≤ patternLimit hex.length + 0.01 && decimalEntropy ≥ hexEntropy + 0.2

def Valid (bits : Nat) (n : Int) : Prop := bits = 1 → n = 0 ∨ n = 1

instance (bits : Nat) (n : Int) : Decidable (Valid bits n) := inferInstanceAs (Decidable (_ → _))

def invalidMessage (n : Int) : String :=
  "invalid integer value of boolean type; expected 0 or 1, got " ++ Text.Numeral.ofInt n

/-- An integer constant as it is written: in decimal, or in hexadecimal where that shows a pattern. -/
def text (bits : Nat) (n : Int) : String :=
  if bits = 1 ∧ n = 0 then "false"
  else if bits = 1 ∧ n = 1 then "true"
  else if 4096 ≤ n ∧ preferHex n.toNat then "u0x" ++ String.ofList (Text.Numeral.hexUpper n.toNat)
  else Text.Numeral.ofInt n

end Constant

end FormCompiler.IR
