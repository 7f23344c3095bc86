namespace FormCompiler.Text.Numeral

def digits (n : Nat) : List Char := Nat.toDigits 10 n

def ofNat (n : Nat) : String := String.ofList (digits n)

def ofInt : Int → String
  | .ofNat n => ofNat n
  | .negSucc n => "-" ++ ofNat (n + 1)

def magnitude? (cs : List Char) : Option Nat :=
  if cs.isEmpty || !cs.all Char.isDigit then none else some (Nat.ofDigitChars 10 cs 0)

def signed? : List Char → Option Int
  | '-' :: cs => (magnitude? cs).map (fun n => -(n : Int))
  | '+' :: cs => (magnitude? cs).map Int.ofNat
  | cs => (magnitude? cs).map Int.ofNat

def capacity (bits : Nat) : Nat := Nat.pow 2 bits

def Fits (bits : Nat) (n : Int) : Prop := -(capacity (bits - 1) : Int) ≤ n ∧ n < (capacity (bits - 1) : Int)

instance (bits : Nat) (n : Int) : Decidable (Fits bits n) := inferInstanceAs (Decidable (_ ∧ _))

def read? (bits : Nat) (s : String) : Option Int :=
  (signed? s.toList).filter (fun n => decide (Fits bits n))

def readUnsigned? (bits : Nat) (s : String) : Option Nat :=
  (magnitude? s.toList).filter (fun n => decide (n < capacity bits))

def hex (n : Nat) : List Char := Nat.toDigits 16 n

def hexUpper (n : Nat) : List Char := (hex n).map Char.toUpper

def byteHex (b : UInt8) : List Char := [Nat.digitChar (b.toNat / 16), Nat.digitChar (b.toNat % 16)]

end FormCompiler.Text.Numeral
