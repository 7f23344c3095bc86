import FormCompiler.IR.Basic

namespace FormCompiler

inductive Base where
  | void
  | bool
  | int8
  | int16
  | int32
  | int64
  | uint8
  | uint16
  | uint32
  | uint64
  | size
  | variadic
  deriving DecidableEq

namespace Base

def name : Base → String
  | void => "void"
  | bool => "bool"
  | int8 => "int8"
  | int16 => "int16"
  | int32 => "int32"
  | int64 => "int64"
  | uint8 => "uint8"
  | uint16 => "uint16"
  | uint32 => "uint32"
  | uint64 => "uint64"
  | size => "size"
  | variadic => "..."

def all : List Base :=
  [void, bool, int8, int16, int32, int64, uint8, uint16, uint32, uint64, size, variadic]

def ofName? (s : String) : Option Base :=
  if s = "int" then some int32 else all.find? (fun b => b.name == s)

def code : Base → Char
  | void => 'v'
  | bool => 'b'
  | int8 => 'a'
  | int16 => 's'
  | int32 => 'i'
  | int64 => 'l'
  | uint8 => 'h'
  | uint16 => 't'
  | uint32 => 'j'
  | uint64 => 'm'
  | size => 'z'
  | variadic => 'e'

def isSigned : Base → Bool
  | int8 | int16 | int32 | int64 => true
  | _ => false

def isIntegral : Base → Bool
  | uint8 | uint16 | uint32 | uint64 | size => true
  | b => b.isSigned

def bits? : Base → Option Nat
  | void | variadic => none
  | bool => some 1
  | int8 | uint8 => some 8
  | int16 | uint16 => some 16
  | int32 | uint32 => some 32
  | int64 | uint64 | size => some 64

end Base

inductive Ty where
  | missing
  | base (b : Base) (marked : Bool)
  | pointer (pointee : Ty) (marked : Bool)
  | array (size : Int) (of : Ty) (marked : Bool)
  deriving DecidableEq

namespace Ty

def of (b : Base) : Ty := base b false
def void : Ty := of .void
def bool : Ty := of .bool
def int32 : Ty := of .int32
def variadic : Ty := of .variadic
def pointerTo (t : Ty) : Ty := pointer t false
def arrayOf (n : Int) (t : Ty) : Ty := array n t false

def isComplete : Ty → Bool
  | missing => false
  | base .. => true
  | pointer t _ | array _ t _ => t.isComplete

def isMarked : Ty → Bool
  | missing => false
  | base _ m | pointer _ m | array _ _ m => m

def withMark (m : Bool) : Ty → Ty
  | missing => missing
  | base b _ => base b m
  | pointer t _ => pointer t m
  | array n t _ => array n t m

def mark (t : Ty) : Ty := t.withMark true

def unmark (t : Ty) : Ty := t.withMark false

def isVoid : Ty → Bool
  | base b _ => b == .void
  | _ => false

def isVariadic : Ty → Bool
  | base b _ => b == .variadic
  | _ => false

def isPointer : Ty → Bool
  | pointer .. => true
  | _ => false

def pointee? : Ty → Option Ty
  | pointer t _ | array _ t _ => some t
  | missing | base .. => none

def isPointerLike (t : Ty) : Bool := t.pointee?.isSome

def isIntegral : Ty → Bool
  | base b _ => b.isIntegral
  | _ => false

def isSigned : Ty → Bool
  | base b _ => b.isSigned
  | _ => false

def decay : Ty → Ty
  | array _ t _ => pointerTo t
  | t => t

def text : Ty → String
  | missing => "<nil>"
  | base b m => mark m b.name
  | pointer t m => mark m ("(p " ++ t.text ++ ")")
  | array n t m => mark m ("(array-of " ++ Text.Numeral.ofInt n ++ " " ++ t.text ++ ")")
where
  mark (m : Bool) (s : String) : String := if m then "(retval " ++ s ++ ")" else s

def describeAll (ts : List Ty) : String := "(" ++ " ".intercalate (ts.map text) ++ ")"

def code : Ty → String
  | missing => ""
  | base b _ => b.code.toString
  | pointer t _ => "P" ++ t.code
  | array n t _ => "A" ++ Text.Numeral.ofInt n ++ "_" ++ t.code

/-- The storage layout of a type, or the innermost part of it that has none. A pointer to void is laid
out as a pointer to bytes, and an array has a size of 64 bits without a sign. -/
def layout : Ty → Except Ty IR.Layout
  | missing => .error missing
  | t@(base b _) =>
    match b.bits? with
    | some bits => .ok (.int bits)
    | none => .error t
  | pointer (base .void _) _ => .ok (.pointer (.int 8))
  | pointer t _ => t.layout.map .pointer
  | array n t _ => t.layout.map (.array (n % (Text.Numeral.capacity 64 : Int)).toNat)

def returnLayout (t : Ty) : Except Ty IR.Layout :=
  if t.isMarked || t.isVoid then .ok .void else t.layout

def constantBits (t : Ty) : Nat :=
  match t.layout with
  | .ok (.int bits) => bits
  | _ => 32

def unsizedMessage (t : Ty) : String :=
  "type " ++ t.text ++ " cannot be resolved to a concrete storage layout"

end Ty

end FormCompiler
