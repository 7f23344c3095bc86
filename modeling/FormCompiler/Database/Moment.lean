import FormCompiler.Text.Numeral

namespace FormCompiler.Database

structure Moment where
  year : Nat
  month : Nat := 1
  day : Nat := 1
  hour : Nat := 0
  minute : Nat := 0
  second : Nat := 0
  nanosecond : Nat := 0
  offset : Int := 0
  deriving DecidableEq, Repr

namespace Moment

def isLeapYear (year : Nat) : Bool := year % 4 == 0 && (year % 100 != 0 || year % 400 == 0)

def daysIn (month year : Nat) : Nat :=
  if month = 2 then (if isLeapYear year then 29 else 28)
  else if [4, 6, 9, 11].contains month then 30
  else 31

def isValid (m : Moment) : Bool :=
  1 ≤ m.month && m.month ≤ 12 && 1 ≤ m.day && m.day ≤ daysIn m.month m.year
    && m.hour < 24 && m.minute < 60 && m.second < 60

inductive Part where
  | year
  | month
  | day
  | hour
  | minute
  | second
  | fraction
  | distance
  | distanceWithColon
  | zone
  | sign (c : Char)
  deriving DecidableEq

def date : List Part := [.year, .sign '-', .month, .sign '-', .day]

def clock : List Part := [.hour, .sign ':', .minute, .sign ':', .second, .fraction]

def forms : List (List Part) :=
  [date ++ [Part.sign ' '] ++ clock ++ [Part.distanceWithColon],
    date ++ [Part.sign 'T'] ++ clock ++ [Part.distanceWithColon],
    date ++ [Part.sign ' '] ++ clock,
    date ++ [Part.sign 'T'] ++ clock,
    date ++ [Part.sign ' ', Part.hour, Part.sign ':', Part.minute],
    date ++ [Part.sign 'T', Part.hour, Part.sign ':', Part.minute],
    date]

def withZone : List Part :=
  date ++ [Part.sign ' '] ++ clock ++ [Part.sign ' ', Part.distance, Part.sign ' ', Part.zone]

def digits? (n : Nat) (s : List Char) : Option (Nat × List Char) :=
  let found := s.take n
  if found.length == n && found.all Char.isDigit then some (Nat.ofDigitChars 10 found 0, s.drop n) else none

def shortNumber? (s : List Char) : Option (Nat × List Char) := digits? 2 s <|> digits? 1 s

def fraction? : List Char → Option (Nat × List Char)
  | c :: d :: rest =>
    if (c == '.' || c == ',') && d.isDigit then
      let all := (d :: rest).takeWhile Char.isDigit
      let first := all.take 9
      some (Nat.ofDigitChars 10 first 0 * Nat.pow 10 (9 - first.length), (d :: rest).drop all.length)
    else none
  | _ => none

def distance? (hasColon : Bool) : List Char → Option (Int × List Char)
  | [] => none
  | sign :: rest => do
    let (h, rest) ← digits? 2 rest
    let rest ← if hasColon then (match rest with
      | ':' :: more => some more
      | _ => none) else some rest
    let (m, rest) ← digits? 2 rest
    let n : Int := h * 60 + m
    if h ≤ 24 && m ≤ 60 then
      match sign with
      | '+' => some (n, rest)
      | '-' => some (-n, rest)
      | _ => none
    else none

def zoneLength (s : List Char) : Option Nat :=
  let capitals := (s.takeWhile Char.isUpper).length
  let offset (s : List Char) : Nat :=
    match s with
    | sign :: rest =>
      let ds := rest.takeWhile Char.isDigit
      if (sign == '+' || sign == '-') && !ds.isEmpty && decide (Nat.ofDigitChars 10 ds 0 < 24) then 1 + ds.length else 0
    | [] => 0
  if s.length < 3 then none
  else if s.take 4 == "ChST".toList || s.take 4 == "MeST".toList then some 4
  else if s.take 3 == "GMT".toList then some (3 + offset (s.drop 3))
  else if s.head? == some '+' || s.head? == some '-' then (if offset s = 0 then none else some (offset s))
  else
    match capitals with
    | 3 => some 3
    | 4 => if s[3]? == some 'T' || s.take 4 == "WITA".toList then some 4 else none
    | 5 => if s[4]? == some 'T' then some 5 else none
    | _ => none

def readPart (p : Part) (m : Moment) (s : List Char) : Option (Moment × List Char) :=
  match p with
  | .year => (digits? 4 s).map fun (n, r) => ({ m with year := n }, r)
  | .month => (digits? 2 s).map fun (n, r) => ({ m with month := n }, r)
  | .day => (digits? 2 s).map fun (n, r) => ({ m with day := n }, r)
  | .hour => (shortNumber? s).map fun (n, r) => ({ m with hour := n }, r)
  | .minute => (digits? 2 s).map fun (n, r) => ({ m with minute := n }, r)
  | .second => (digits? 2 s).map fun (n, r) => ({ m with second := n }, r)
  | .fraction => some ((fraction? s).elim (m, s) fun (n, r) => ({ m with nanosecond := n }, r))
  | .distance => (distance? false s).map fun (n, r) => ({ m with offset := n }, r)
  | .distanceWithColon => (distance? true s).map fun (n, r) => ({ m with offset := n }, r)
  | .zone =>
    if s.take 3 == "UTC".toList then some ({ m with offset := 0 }, s.drop 3)
    else (zoneLength s).map fun n => (m, s.drop n)
  | .sign ' ' => if s.head?.any (· != ' ') then none else some (m, s.dropWhile (· == ' '))
  | .sign c => if s.head? == some c then some (m, s.drop 1) else none

def readForm (parts : List Part) (s : List Char) : Option Moment := do
  let (m, rest) ← parts.foldlM (fun ((m, s) : Moment × List Char) p => readPart p m s) (({ year := 0 } : Moment), s)
  if rest.isEmpty && m.isValid then some m else none

def textBefore (part : List Char) (s : List Char) : List Char :=
  match (List.range s.length).find? fun i => part.isPrefixOf (s.drop i) with
  | some 0 | none => s
  | some i => s.take i

def trimmed (s : List Char) : List Char :=
  ((s.dropWhile Char.isWhitespace).reverse.dropWhile Char.isWhitespace).reverse

def read? (text : String) : Option Moment :=
  let s := text.toList
  let plain := if s.getLast? == some 'Z' then s.dropLast else s
  readForm withZone (trimmed (textBefore ['m', '='] s)) <|> forms.findSome? fun f => readForm f plain

def padded (width n : Nat) : String :=
  let ds := Text.Numeral.digits n
  String.ofList (List.replicate (width - ds.length) '0' ++ ds)

def places (n : Nat) : String :=
  if n = 0 then "" else "." ++ String.ofList ((padded 9 n).toList.reverse.dropWhile (· == '0')).reverse

def distance (n : Int) : String :=
  if n = 0 then "Z"
  else (if n < 0 then "-" else "+") ++ padded 2 (n.natAbs / 60) ++ ":" ++ padded 2 (n.natAbs % 60)

def show_ (m : Moment) : String :=
  padded 4 m.year ++ "-" ++ padded 2 m.month ++ "-" ++ padded 2 m.day ++ "T" ++ padded 2 m.hour ++ ":" ++
    padded 2 m.minute ++ ":" ++ padded 2 m.second ++ places m.nanosecond ++ distance m.offset

end Moment

end FormCompiler.Database
