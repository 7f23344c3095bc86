import FormCompiler.Text.Numeral

namespace FormCompiler.Database.Word

def isHex (c : Char) : Bool := c.isDigit || ('a' ≤ c && c ≤ 'f') || ('A' ≤ c && c ≤ 'F')

def lower (s : String) : String := String.ofList (s.toList.map Char.toLower)

def hexValue (cs : List Char) : Nat :=
  cs.foldl (fun n c => 16 * n + (if c.isDigit then c.toNat - 48 else c.toLower.toNat - 87)) 0

def hex32 (cs : List Char) : Int :=
  let digits := (cs.dropWhile (· == '0')).takeWhile isHex
  if digits.length ≤ 8 && hexValue digits < Text.Numeral.capacity 31 then hexValue digits else 0

def decimal32 (negative : Bool) (cs : List Char) : Int :=
  let digits := (cs.dropWhile (· == '0')).takeWhile Char.isDigit
  let n : Int := Nat.ofDigitChars 10 digits 0
  let n := if negative then -n else n
  if digits.length ≤ 10 && decide (Text.Numeral.Fits 32 n) then n else 0

def integer32 (s : String) : Int :=
  match s.toList with
  | '-' :: cs => decimal32 true cs
  | '+' :: cs => decimal32 false cs
  | '0' :: x :: h :: cs => if (x = 'x' || x = 'X') && isHex h then hex32 (h :: cs) else decimal32 false (x :: h :: cs)
  | cs => decimal32 false cs

def integer64? (s : String) : Option Int :=
  match s.toList with
  | '0' :: 'x' :: cs | '0' :: 'X' :: cs =>
    if cs.all isHex && (cs.dropWhile (· == '0')).length ≤ 16 then
      some (Int.bmod (hexValue cs) (Text.Numeral.capacity 64))
    else none
  | cs =>
    let isSpace (c : Char) : Bool := c = ' ' || (9 ≤ c.toNat && c.toNat ≤ 13)
    let trimmed := ((cs.dropWhile isSpace).reverse.dropWhile isSpace).reverse
    Text.Numeral.read? 64 (String.ofList trimmed)

def isTrue (s : String) : Bool :=
  match s.toList with
  | c :: _ => if c.isDigit then integer32 s % 256 != 0 else ["on", "yes", "true"].contains (lower s)
  | [] => false

def isCount (digits : String) : Bool :=
  match digits.toList with
  | '0' :: x :: h :: rest =>
    if (x == 'x' || x == 'X') && isHex h then
      let hex := ((h :: rest).dropWhile (· == '0')).takeWhile isHex
      hex.length ≤ 8 && decide (hexValue hex < Text.Numeral.capacity 31)
    else isDecimal digits.toList
  | cs => isDecimal cs
where
  isDecimal (cs : List Char) : Bool :=
    let number := (cs.dropWhile (· == '0')).takeWhile Char.isDigit
    cs.head?.any Char.isDigit && number.length ≤ 10
      && decide (Nat.ofDigitChars 10 number 0 < Text.Numeral.capacity 31)

end FormCompiler.Database.Word
