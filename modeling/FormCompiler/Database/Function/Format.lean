import FormCompiler.Database.Function.Text

namespace FormCompiler.Database.Format

open Characters

structure Spec where
  isLeft : Bool := false
  sign : Option Char := none
  isAlternate : Bool := false
  isExact : Bool := false
  fillsZeros : Bool := false
  groups : Bool := false
  width : Nat := 0
  precision : Option Nat := none

def grouped (ds : List Char) : List Char :=
  let rec go : Nat → List Char → List Char
    | _, [] => []
    | k, d :: rest => if k % 3 = 0 && k != 0 then d :: ',' :: go (k - 1) rest else d :: go (k - 1) rest
  go (ds.length - 1) ds

def padded (n : Nat) (ds : List Char) : List Char := List.replicate (n - ds.length) '0' ++ ds

def ending (n : Nat) : List Char :=
  if 4 ≤ n % 10 || n / 10 % 10 = 1 then ['t', 'h']
  else ((["th", "st", "nd", "rd"]).getD (n % 10) "th").toList

variable (s : Spec)

def integer (base : Nat) (isUpper : Bool) (lead suffix : List Char) (sign : Option Char) (n : Nat) : List Char :=
  let wanted := s.precision.getD 0
  let width := s.width - (if sign.isSome then 1 else 0)
  let wanted := if s.fillsZeros && (s.precision.isNone || wanted < width) then width else wanted
  let ds := (Nat.toDigits base n).map fun c => if isUpper then c.toUpper else c
  let ds := padded wanted (ds ++ suffix)
  let ds := if s.groups && base = 10 && suffix.isEmpty then grouped ds else ds
  let ds := sign.toList ++ ds
  if s.isAlternate && n != 0 then lead ++ ds else ds

inductive RealForm where
  | fixed
  | exponent
  | general
  deriving DecidableEq

def wholeDigits (groups : Bool) (digits : List Char) (place : Int) : List Char :=
  if place < 0 then ['0']
  else
    let whole := digits.take (place.toNat + 1)
    let ds := whole ++ List.replicate (place.toNat + 1 - whole.length) '0'
    if groups then groupedWhole ds else ds
where
  groupedWhole (ds : List Char) : List Char := grouped ds

def withoutZeros (keepsPlace : Bool) (s : List Char) : List Char :=
  let s := (s.reverse.dropWhile (· == '0'))
  match s with
  | '.' :: rest => if keepsPlace then ('0' :: s).reverse else rest.reverse
  | s => s.reverse

def real (form : RealForm) (letter : Char) (x : Float) : List Char :=
  let precision := s.precision.getD 6
  let precision := if form = .general && precision = 0 then 1 else precision
  let by_ : Int := match form with
    | .fixed => -(precision : Int)
    | .general => precision
    | .exponent => precision + 1
  if x.isNaN then (if s.fillsZeros then "null" else "NaN").toList
  else if x.isInf && !s.fillsZeros then
    (if x < 0 then ['-'] else s.sign.toList) ++ "Inf".toList
  else
    let d : Real.Digits := if x.isInf then { isNegative := x < 0, digits := ['9'], point := 1000 }
      else Real.Digits.ofReal x by_ (if s.isExact then 26 else 16)
    let hidesSign := s.isAlternate && s.sign.isNone && form = .fixed && d.point ≤ by_
    let sign := if d.isNegative then (if hidesSign then none else some '-') else s.sign
    let place := d.point - 1
    let (form, precision, trims) : RealForm × Int × Bool := match form with
      | .general =>
        let most : Int := precision - 1
        if place < -4 || most < place then (.exponent, most, !s.isAlternate) else (.fixed, most - place, !s.isAlternate)
      | form => (form, precision, s.isExact)
    let shownPlace := if form = .exponent then 0 else place
    let hasPoint := 0 < precision || s.isAlternate || s.isExact
    let whole := wholeDigits s.groups d.digits shownPlace
    let zeros := if shownPlace < 0 then min (-shownPlace - 1).toNat precision.toNat else 0
    let rest := d.digits.drop (if shownPlace < 0 then 0 else shownPlace.toNat + 1)
    let count := precision.toNat - zeros
    let places := List.replicate zeros '0' ++ rest.take count ++ List.replicate (count - rest.length) '0'
    let number := whole ++ (if hasPoint then '.' :: places else places)
    let number := if trims && hasPoint then withoutZeros s.isExact number else number
    let number := if form = .exponent then number ++ Real.exponentText letter place else number
    let shown := sign.toList ++ number
    if s.fillsZeros && !s.isLeft && shown.length < s.width then sign.toList ++
      padded (s.width - sign.toList.length) number
    else shown

def justified (o : Octets) : Octets :=
  let width := if s.isExact then s.width + (if s.width = 0 then 0 else (o.filter goesOn).length) else s.width
  let blanks := List.replicate (width - o.length) 32
  if s.isLeft then o ++ blanks else blanks ++ o

def cutText (o : Octets) : Octets :=
  let o := untilNul o
  match s.precision with
  | none => o
  | some n => if s.isExact then ((split o).take n).flatten else o.take n

def quoted (quote : UInt8) (encloses : Bool) : Option Octets → Octets
  | none => cutText s (Octets.ofString (if encloses then "NULL" else "(NULL)"))
  | some o =>
    let inner := (cutText s o).flatMap fun b => if b = quote then [b, b] else [b]
    if encloses then [quote] ++ inner ++ [quote] else inner

structure Arguments where
  rest : List Value

namespace Arguments

def next (a : Arguments) : Option Value × Arguments := (a.rest.head?, ⟨a.rest.tail⟩)

def count (a : Arguments) : Int × Arguments :=
  let (v, a) := a.next
  (Function.short ((v.map Value.toInteger).getD 0), a)

end Arguments

def number (ds : List Char) : Nat := ds.foldl (fun n c => (10 * n + (c.toNat - 48)) % 0x100000000) 0 % 0x80000000

def readSpec : Nat → Spec → Arguments → List Char → Spec × Arguments × List Char
  | 0, s, a, cs => (s, a, cs)
  | fuel + 1, s, a, cs =>
    match cs with
    | '-' :: rest => readSpec fuel { s with isLeft := true } a rest
    | '+' :: rest => readSpec fuel { s with sign := some '+' } a rest
    | ' ' :: rest => readSpec fuel { s with sign := some ' ' } a rest
    | '#' :: rest => readSpec fuel { s with isAlternate := true } a rest
    | '!' :: rest => readSpec fuel { s with isExact := true } a rest
    | '0' :: rest => readSpec fuel { s with fillsZeros := true } a rest
    | ',' :: rest => readSpec fuel { s with groups := true } a rest
    | 'l' :: 'l' :: rest => (s, a, rest)
    | 'l' :: rest => (s, a, rest)
    | '*' :: rest =>
      let (n, a) := a.count
      let s := { s with width := if n < -2147483647 then 0 else n.natAbs, isLeft := s.isLeft || n < 0 }
      if rest.head? == some '.' || rest.head? == some 'l' then readSpec fuel s a rest else (s, a, rest)
    | '.' :: '*' :: rest =>
      let (n, a) := a.count
      let s := { s with precision := if n < -2147483647 then none else some n.natAbs }
      if rest.head? == some 'l' then readSpec fuel s a rest else (s, a, rest)
    | '.' :: rest =>
      let ds := rest.takeWhile Char.isDigit
      let s := { s with precision := some (number ds) }
      let rest := rest.drop ds.length
      if rest.head? == some 'l' then readSpec fuel s a rest else (s, a, rest)
    | c :: rest =>
      if c.isDigit then
        let ds := (c :: rest).takeWhile Char.isDigit
        let s := { s with width := number ds }
        let rest := (c :: rest).drop ds.length
        if rest.head? == some '.' || rest.head? == some 'l' then readSpec fuel s a rest else (s, a, rest)
      else (s, a, cs)
    | [] => (s, a, [])

def signedInteger (suffix : Nat → List Char) (groups : Bool) (n : Int) : List Char :=
  integer { s with groups } 10 false [] (suffix n.natAbs) (if n < 0 then some '-' else s.sign) n.natAbs

def convert (letter : Char) (a : Arguments) : Option (Octets × Arguments) :=
  let letters (cs : List Char) : Octets := Octets.ofLetters cs
  let (v, rest) := a.next
  let n : Int := (v.map Value.toInteger).getD 0
  let bits := Bytes.unsigned 64 n
  let x : Float := (v.map Value.toReal).getD 0
  let text : Option Octets := v.bind fun v => if v.isNull then none else some (untilNul v.octets)
  let plain (cs : List Char) : Option (Octets × Arguments) :=
    some (justified { s with isExact := false } (letters cs), rest)
  match letter with
  | 'd' | 'i' => plain (signedInteger s (fun _ => []) s.groups n)
  | 'r' => plain (signedInteger s ending false n)
  | 'u' => plain (integer s 10 false [] [] none bits)
  | 'x' | 'p' => plain (integer { s with groups := false } 16 false ['0', 'x'] [] none bits)
  | 'X' => plain (integer { s with groups := false } 16 true ['0', 'X'] [] none bits)
  | 'o' => plain (integer { s with groups := false } 8 false ['0'] [] none bits)
  | 'f' => plain (real s .fixed 'e' x)
  | 'e' | 'E' => plain (real s .exponent letter x)
  | 'g' => plain (real s .general 'e' x)
  | 'G' => plain (real s .general 'E' x)
  | 's' | 'z' => some (justified s (cutText s (text.getD [])), rest)
  | 'q' => some (justified s (quoted s 39 false text), rest)
  | 'Q' => some (justified s (quoted s 39 true text), rest)
  | 'w' => some (justified s (quoted s 34 false text), rest)
  | 'c' =>
    let first : Octets := match text with
      | some (b :: more) => b :: (if 0xC0 ≤ b.toNat then (more.takeWhile goesOn).take 3 else [])
      | _ => [0]
    let count := max 1 (s.precision.getD 1)
    let width := (s.width - (count - 1)) + first.length - 1
    let blanks := List.replicate (width - first.length) 32
    let shown := (List.replicate count first).flatten
    some (if s.isLeft then shown ++ blanks else blanks ++ shown, rest)
  | '%' => some (justified { s with isExact := false } [37], a)
  | 'n' => some ([], a)
  | _ => none

def show_ : Nat → List Char → Arguments → Octets
  | 0, _, _ => []
  | fuel + 1, cs, a =>
    match cs with
    | [] => []
    | '%' :: [] => [37]
    | '%' :: rest =>
      let (s, a, rest) := readSpec (rest.length + 1) {} a rest
      match rest with
      | [] => []
      | letter :: rest =>
        match convert s letter a with
        | some (shown, a) => shown ++ show_ fuel rest a
        | none => []
    | c :: rest => c.toUInt8 :: show_ fuel rest a

def apply (format : Octets) (values : List Value) : Value :=
  let cs := Octets.letters (untilNul format)
  if cs.isEmpty then .null else .ofOctets (show_ (cs.length + 1) cs ⟨values⟩)

def exact (x : Float) : List Char :=
  let s : Spec := { isExact := true, fillsZeros := true }
  let short := real { s with precision := some 15 } .general 'e' x
  let back := (Decimal.read? short).elim 0 Decimal.toReal
  if back == x then short else real { s with precision := some 20 } .exponent 'e' x

def quote : Value → Octets
  | .null => Octets.ofString "NULL"
  | .integer n => Octets.ofString (Text.Numeral.ofInt n)
  | .real x => Octets.ofLetters (exact x)
  | .text s => Function.quoteText s.toList
  | .blob b => Octets.ofLetters ('X' :: '\'' :: Function.hex b ++ ['\''])

end FormCompiler.Database.Format
