import FormCompiler.Database.Function.Json.Read
import FormCompiler.Database.Function.Format

namespace FormCompiler.Database.Json

def hexDigit (n : Nat) : Char := ((Text.Numeral.hex n).getLast?).getD '0'

def control (c : Char) : List Char :=
  match c.toNat with
  | 8 => ['\\', 'b']
  | 9 => ['\\', 't']
  | 10 => ['\\', 'n']
  | 12 => ['\\', 'f']
  | 13 => ['\\', 'r']
  | n => ['\\', 'u', '0', '0', hexDigit (n / 16), hexDigit (n % 16)]

variable (letters : List Char)

def quoted : List Char :=
  '"' :: (letters.flatMap fun c =>
    if c == '"' || c == '\\' then ['\\', c] else if c.toNat < 32 then control c else [c]) ++ ['"']

def strict : List Char → List Char
  | '\\' :: '\'' :: rest => '\'' :: strict rest
  | '\\' :: 'v' :: rest => "\\u000b".toList ++ strict rest
  | '\\' :: 'x' :: a :: b :: rest => "\\u00".toList ++ a :: b :: strict rest
  | '\\' :: '0' :: rest => "\\u0000".toList ++ strict rest
  | '\\' :: '\r' :: '\n' :: rest => strict rest
  | '\\' :: '\r' :: rest => strict rest
  | '\\' :: '\n' :: rest => strict rest
  | '\\' :: c :: rest => if c.toNat == 0xE2 then strict (rest.drop 2) else '\\' :: c :: strict rest
  | c :: rest => (if c == '"' then ['\\', '"'] else if c.toNat < 32 then control c else [c]) ++ strict rest
  | [] => []
termination_by s => s.length
decreasing_by all_goals simp only [List.length_cons, List.length_drop]; omega

def Text.write (t : Json.Text) : List Char :=
  match t.style with
  | .plain | .escaped => '"' :: t.letters ++ ['"']
  | .loose => '"' :: strict t.letters ++ ['"']
  | .raw => quoted t.letters

def hexNumber? (digits : List Char) : Option Nat :=
  let n := digits.foldl (fun n c => 16 * n + ((Octets.hexValue? c.toUInt8).map (·.toNat)).getD 0) 0
  if n < Nat.pow 2 64 then some n else none

def decimal : List Char :=
  let (sign, rest) := match letters with
    | '-' :: rest => (['-'], rest)
    | '+' :: rest => ([], rest)
    | rest => ([], rest)
  sign ++ match hexNumber? (rest.drop 2) with
    | some n => Text.Numeral.digits n
    | none => "9.0e999".toList

def full : List Char :=
  let (sign, rest) := match letters with
    | '-' :: rest => (['-'], rest)
    | rest => ([], rest)
  let rec go : List Char → List Char
    | [] => []
    | '.' :: more => '.' :: (if more.head?.any Char.isDigit then go more else '0' :: go more)
    | c :: more => c :: go more
  sign ++ (if rest.head? == some '.' then ['0'] else []) ++ go rest

def writeNumber (isReal isLoose : Bool) (letters : List Char) : List Char :=
  if !isLoose then letters else if isReal then full letters else decimal letters

mutual

def write : Json → List Char
  | null => "null".toList
  | yes => "true".toList
  | no => "false".toList
  | number isReal isLoose letters => writeNumber isReal isLoose letters
  | text t => t.write
  | array items => '[' :: writeItems items
  | object members => '\x7b' :: writeMembers members

def writeItems : List Json → List Char
  | [] => [']']
  | [j] => write j ++ [']']
  | j :: rest => write j ++ ',' :: writeItems rest

def writeMembers : List (Json.Text × Json) → List Char
  | [] => ['\x7d']
  | [(t, j)] => t.write ++ ':' :: write j ++ ['\x7d']
  | (t, j) :: rest => t.write ++ ':' :: write j ++ ',' :: writeMembers rest

end

mutual

def pretty (indent : List Char) (depth : Nat) : Json → List Char
  | array (j :: rest) => ['[', '\n'] ++ prettyItems indent (depth + 1) (j :: rest) ++ margin indent depth ++ [']']
  | object (m :: rest) =>
    ['\x7b', '\n'] ++ prettyMembers indent (depth + 1) (m :: rest) ++ margin indent depth ++ ['\x7d']
  | j => write j

def prettyItems (indent : List Char) (depth : Nat) : List Json → List Char
  | [] => []
  | [j] => margin indent depth ++ pretty indent depth j ++ ['\n']
  | j :: rest => margin indent depth ++ pretty indent depth j ++ [',', '\n'] ++ prettyItems indent depth rest

def prettyMembers (indent : List Char) (depth : Nat) : List (Json.Text × Json) → List Char
  | [] => []
  | [(t, j)] => margin indent depth ++ t.write ++ [':', ' '] ++ pretty indent depth j ++ ['\n']
  | (t, j) :: rest =>
    margin indent depth ++ t.write ++ [':', ' '] ++ pretty indent depth j ++ [',', '\n'] ++
      prettyMembers indent depth rest

def margin (indent : List Char) (depth : Nat) : List Char := (List.replicate depth indent).flatten

end

def hexOf (digits : List Char) : Nat := (hexNumber? digits).getD 0

def lineBreak? : List Char → Option (List Char)
  | '\\' :: '\n' :: rest => some rest
  | '\\' :: '\r' :: '\n' :: rest => some rest
  | '\\' :: '\r' :: rest => some rest
  | '\\' :: a :: b :: c :: rest =>
    if a.toNat == 0xE2 && b.toNat == 0x80 && (c.toNat == 0xA8 || c.toNat == 0xA9) then some rest else none
  | _ => none

def unescape : Nat → List Char → List Char
  | 0, _ => []
  | _, [] => []
  | fuel + 1, '\\' :: rest =>
    let code (c : Nat) : List Char := Octets.letters (Characters.ofCode c)
    match lineBreak? ('\\' :: rest) with
    | some more => unescape fuel more
    | none =>
      match rest with
      | 'u' :: a :: b :: c :: d :: more =>
        let v := hexOf [a, b, c, d]
        match more with
        | '\\' :: 'u' :: e :: f :: g :: h :: more' =>
          let low := hexOf [e, f, g, h]
          if v / 1024 == 54 && low / 1024 == 55 then
            code (v % 1024 * 1024 + low % 1024 + 0x10000) ++ unescape fuel more'
          else code v ++ unescape fuel more
        | more => code v ++ unescape fuel more
      | 'x' :: a :: b :: more => code (hexOf [a, b]) ++ unescape fuel more
      | 'b' :: more => '\x08' :: unescape fuel more
      | 'f' :: more => '\x0c' :: unescape fuel more
      | 'n' :: more => '\n' :: unescape fuel more
      | 'r' :: more => '\r' :: unescape fuel more
      | 't' :: more => '\t' :: unescape fuel more
      | 'v' :: more => '\x0b' :: unescape fuel more
      | '0' :: more => '\x00' :: unescape fuel more
      | c :: more => if ['\'', '"', '/', '\\'].contains c then c :: unescape fuel more else unescape fuel more
      | [] => []
  | fuel + 1, c :: rest => c :: unescape fuel rest

def Text.meaning (t : Json.Text) : List Char :=
  match t.style with
  | .plain | .raw => t.letters
  | .escaped | .loose => unescape (t.letters.length + 1) t.letters

def integerValue : Value :=
  let (isNegative, digits) := match letters with
    | '-' :: rest => (true, rest)
    | rest => (false, rest)
  let asReal : Value := ((Decimal.read? letters).map fun d => Value.real d.toReal).getD .null
  match digits with
  | '0' :: x :: hex =>
    if x == 'x' || x == 'X' then
      match hexNumber? hex with
      | some n =>
        if n < Nat.pow 2 63 then .integer (if isNegative then -(n : Int) else n)
        else .real (if isNegative then -(n.toUInt64.toFloat) else n.toUInt64.toFloat)
      | none => asReal
    else asReal
  | ds =>
    let n : Int := Nat.ofDigitChars 10 ds 0
    let n := if isNegative then -n else n
    if decide (Text.Numeral.Fits 64 n) then .integer n else asReal

def toValue : Json → Value
  | null => .null
  | yes => .integer 1
  | no => .integer 0
  | number false _ letters => integerValue letters
  | number true _ letters => ((Decimal.read? letters).map fun d => Value.real d.toReal).getD .null
  | text t => .ofLetters t.meaning
  | j => .ofLetters j.write

end FormCompiler.Database.Json
