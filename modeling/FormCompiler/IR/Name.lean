import FormCompiler.Text.Numeral
import FormCompiler.Text.Octets

namespace FormCompiler.IR.Name

def isPlain (c : Char) : Bool := c.isAlphanum || c == '$' || c == '.' || c == '_' || c == '-'

def escapeByte (b : UInt8) : List Char :=
  if 0x20 ≤ b ∧ b ≤ 0x7E ∧ b ≠ 0x22 ∧ b ≠ 0x5C then [Char.ofNat b.toNat]
  else '\\' :: (Text.Numeral.byteHex b).map Char.toUpper

def quote (s : String) : String := "\"" ++ s ++ "\""

def escape (s : Octets) : String :=
  if s.letters.all isPlain then s.text
  else quote (String.ofList (s.flatMap escapeByte))

/-- A name as it is written. One that reads as a number without a sign, of 64 bits at most, is quoted,
because a number without quotes is what a thing without a name is called. -/
def symbol (s : Octets) : String :=
  if (Text.Numeral.readUnsigned? 64 s.text).isSome then quote s.text else escape s

def text (s : String) : String := symbol (Octets.ofString s)

/-- A name as it is compared and shown: one that reads as an integer of 64 bits is that integer, in
quotes, and without a name there is a number instead. -/
def shown (name : Octets) (number : Nat) : Octets :=
  if name.isEmpty then Octets.ofString (Text.Numeral.ofNat number)
  else
    match Text.Numeral.read? 64 name.text with
    | some n => Octets.ofString (quote (Text.Numeral.ofInt n))
    | none => name

end FormCompiler.IR.Name
