import FormCompiler.Database.Function.Format

namespace FormCompiler.Database.Calendar

structure Moment where
  distance : Option Int := none
  date : Option (Int × Int × Int) := none
  clock : Option (Int × Int × Float) := none
  zone : Int := 0
  raw : Option Float := none
  excess : Int := 0
  showsPlaces : Bool := false
  isWrong : Bool := false

def dayLength : Int := 86400000

def lastMoment : Int := 464269060799999

def epoch : Int := 210866760000000

def present : Int := 212602104000000

variable (p : Moment) (s : List Char)

namespace Moment

def daysOf (year month day : Int) : Int :=
  let (y, m) := if month ≤ 2 then (year - 1, month + 12) else (year, month)
  let a := Int.tdiv (y + 4800) 100
  let b := 38 - a + Int.tdiv a 4
  let x1 := Int.tdiv (36525 * (y + 4716)) 100
  let x2 := Int.tdiv (306001 * (m + 1)) 10000
  (2 * (x1 + x2 + day + b) - 3049) * 43200000

def milliseconds (s : Float) : Int := Real.truncate (s * 1000 + 0.5)

def withDistance : Moment :=
  if p.distance.isSome then p
  else
    let (y, m, d) := p.date.getD (2000, 1, 1)
    if y < -4713 || 9999 < y || p.raw.isSome then { isWrong := true }
    else
      let start := daysOf y m d
      match p.clock with
      | none => { p with distance := some start }
      | some (h, min, s) =>
        let all := start + h * 3600000 + min * 60000 + milliseconds s
        if p.zone = 0 then { p with distance := some all }
        else { p with distance := some (all - p.zone * 60000), date := none, clock := none, zone := 0 }

def isInRange (n : Int) : Bool := 0 ≤ n && n ≤ lastMoment

def dateOf (n : Int) : Int × Int × Int :=
  let z := Int.tdiv (n + 43200000) dayLength
  let alpha := Int.tdiv (4 * z + 128179) 146097 - 52
  let a := z + 1 + alpha - Int.tdiv (alpha + 100) 4 + 25
  let b := a + 1524
  let c := Int.tdiv (20 * b - 2442) 7305
  let d := Int.tdiv (36525 * (c % 32768)) 100
  let e := Int.tdiv ((b - d) * 10000) 306001
  let x := Int.tdiv (306001 * e) 10000
  let month := if e < 14 then e - 1 else e - 13
  (if 2 < month then c - 4716 else c - 4715, month, b - d - x)

def withDate : Moment :=
  if p.date.isSome then p
  else
    match p.distance with
    | none => { p with date := some (2000, 1, 1) }
    | some n => if isInRange n then { p with date := some (dateOf n) } else { isWrong := true }

def withClock : Moment :=
  if p.clock.isSome then p
  else
    let p := p.withDistance
    let ms := Int.tmod ((p.distance.getD 0) + 43200000) dayLength
    let minutes := Int.tdiv ms 60000
    { p with
      clock := some (Int.tdiv minutes 60, Int.tmod minutes 60, Real.ofInt (Int.tmod ms 60000) / 1000)
      raw := none }

def withAll : Moment := p.withDate.withClock

def bare : Moment := { p with date := none, clock := none, zone := 0 }

def excessOf (y m d : Int) : Int :=
  if d ≤ 28 || [1, 3, 5, 7, 8, 10, 12].contains m then 0
  else if m != 2 then (if d = 31 then 1 else 0)
  else if y % 4 != 0 || (y % 100 = 0 && y % 400 != 0) then d - 28
  else d - 29

def year : Int := (p.date.getD (2000, 1, 1)).1
def month : Int := (p.date.getD (2000, 1, 1)).2.1
def day : Int := (p.date.getD (2000, 1, 1)).2.2
def hour : Int := (p.clock.getD (0, 0, 0)).1
def minute : Int := (p.clock.getD (0, 0, 0)).2.1
def second : Float := (p.clock.getD (0, 0, 0)).2.2

end Moment

def digits? (count : Nat) (least most : Nat) (s : List Char) : Option (Int × List Char) :=
  let ds := s.take count
  if ds.length == count && ds.all Char.isDigit then
    let n := Nat.ofDigitChars 10 ds 0
    if least ≤ n && n ≤ most then some (n, s.drop count) else none
  else none

def sign? (c : Char) : List Char → Option (List Char)
  | d :: rest => if c == d then some rest else none
  | [] => none

def hoursAndMinutes? (most : Nat) (s : List Char) : Option (Int × Int × List Char) := do
  let (h, s) ← digits? 2 0 most s
  let (m, s) ← digits? 2 0 59 (← sign? ':' s)
  return (h, m, s)

def skipBlanks : List Char := s.dropWhile Decimal.isBlank

def readZone : Option Int :=
  let isEnd (s : List Char) : Bool := (skipBlanks s).isEmpty
  match skipBlanks s with
  | [] => some 0
  | c :: rest =>
    if c == 'Z' || c == 'z' then (if isEnd rest then some 0 else none)
    else if c == '-' || c == '+' then do
      let (h, m, rest) ← hoursAndMinutes? 14 rest
      if isEnd rest then some (if c == '-' then -(h * 60 + m) else h * 60 + m) else none
    else none

def readPlaces : Float × List Char :=
  match s with
  | '.' :: rest =>
    let ds := rest.takeWhile Char.isDigit
    if ds.isEmpty then (0, s)
    else
      let (n, scale) := ds.foldl (fun ((n, scale) : Float × Float) c =>
        (n * 10 + (c.toNat - 48).toUInt64.toFloat, scale * 10)) ((0 : Float), (1 : Float))
      let x := n / scale
      (if 0.999 < x then 0.999 else x, rest.drop ds.length)
  | s => (0, s)

def readClock : Option Moment := do
  let (h, m, s) ← hoursAndMinutes? 24 s
  let (seconds, s) ← match s with
    | ':' :: rest => do
      let (n, rest) ← digits? 2 0 59 rest
      let (places, rest) := readPlaces rest
      some (Real.ofInt n + places, rest)
    | s => some (0, s)
  let zone ← readZone s
  return { clock := some (h, m, seconds), zone }

def readDate : Option Moment := do
  let (isNegative, s) := match s with
    | '-' :: rest => (true, rest)
    | s => (false, s)
  let (y, s) ← digits? 4 0 14712 s
  let (m, s) ← digits? 2 1 12 (← sign? '-' s)
  let (d, s) ← digits? 2 1 31 (← sign? '-' s)
  let s := s.dropWhile fun c => Decimal.isBlank c || c == 'T'
  let time ← match readClock s with
    | some t => some t
    | none => if s.isEmpty then some {} else none
  let y := if isNegative then -y else y
  let p : Moment := { time with date := some (y, m, d), excess := Moment.excessOf y m d }
  return if p.zone = 0 then p else p.withDistance

def ofNumber (x : Float) : Moment :=
  if 0 ≤ x && x < 5373484.5 then { raw := some x, distance := some (Real.truncate (x * 86400000 + 0.5)) }
  else { raw := some x }

def number? : Option Float :=
  match Decimal.read? s with
  | some d => if d.isAll then some d.toReal else none
  | none => none

def lowered : String := String.ofList (s.map Char.toLower)

def read : Option Moment :=
  readDate s <|> readClock s <|>
    (if lowered s == "now" then some { distance := some present } else none) <|>
    ((number? s).map ofNumber) <|>
    (if lowered s == "subsec" || lowered s == "subsecond" then
      some { distance := some present, showsPlaces := true } else none)

def units : List (String × Float × Float) :=
  [("second", 4.6427e+14, 1), ("minute", 7.7379e+12, 60), ("hour", 1.2897e+11, 3600), ("day", 5373485, 86400),
    ("month", 176546, 2592000), ("year", 14713, 31536000)]

def addMonths (years months : Int) : Moment :=
  let p := p.withAll
  let m := p.month + months
  let x := if 0 < m then Int.tdiv (m - 1) 12 else Int.tdiv (m - 12) 12
  let y := p.year + years + x
  let m := m - x * 12
  { p with date := some (y, m, p.day), distance := none, excess := Moment.excessOf y m p.day }

def addUnits (x : Float) (name : String) : Option Moment :=
  match units.find? fun u => u.1 == name && -u.2.1 < x && x < u.2.1 with
  | none => none
  | some (unit, _, seconds) =>
    let p := { p.withDistance with excess := 0 }
    let whole := Real.truncate x
    let (p, rest) :=
      if unit == "month" then (addMonths p 0 whole, x - Real.ofInt whole)
      else if unit == "year" then (addMonths p whole 0, x - Real.ofInt whole)
      else (p, x)
    let p := p.withDistance
    let more := Real.truncate (rest * 1000 * seconds + (if x < 0 then -0.5 else 0.5))
    some { p with distance := p.distance.map (· + more) }.bare

def addClock (isNegative : Bool) (s : List Char) : Option Moment := do
  let t ← readClock s
  let n := ((t.withDistance).distance.getD 0) - 43200000
  let n := Int.tmod n dayLength
  let p := p.withDistance
  return { p with distance := p.distance.map (· + (if isNegative then -n else n)) }.bare

def numberLength : Nat :=
  let rec go : Nat → List Char → Nat
    | n, [] => n
    | n, c :: rest =>
      if c == ':' || Decimal.isBlank c then n
      else if c == '-' && ((n = 5 && ((s.drop 1).take 4).all Char.isDigit) ||
        (n = 6 && ((s.drop 1).take 5).all Char.isDigit
          && (Nat.ofDigitChars 10 ((s.drop 1).take 5) 0) ≤ 14712)) then n
      else go (n + 1) rest
  go 1 (s.drop 1)

def addText : Option Moment := do
  let n := numberLength s
  let sign := s.head?.getD '+'
  let x ← number? (s.take n)
  let isNegative := sign == '-'
  match s.drop n with
  | '-' :: rest =>
    if sign != '+' && sign != '-' then none
    let years : Int := Nat.ofDigitChars 10 ((s.take n).drop 1) 0
    let (m, rest) ← digits? 2 0 11 rest
    let (d, rest) ← digits? 2 0 30 (← sign? '-' rest)
    let p := (if isNegative then addMonths p (-years) (-m) else addMonths p years m).withDistance
    let p := { p with
      distance := p.distance.map (· + (if isNegative then -d else d) * dayLength)
      date := none
      clock := none }
    match rest with
    | [] => some p
    | c :: rest =>
      if Decimal.isBlank c && (hoursAndMinutes? 24 rest).isSome then addClock p isNegative rest else none
  | ':' :: _ => addClock p isNegative (if sign.isDigit then s else s.drop 1)
  | rest =>
    let name := (skipBlanks rest).map Char.toLower
    if name.length < 3 || 10 < name.length then none
    addUnits p x (String.ofList (if name.getLast? == some 's' then name.dropLast else name))

def ofSeconds (x : Float) : Float := x * 1000 + 210866760000000.0

def modify (isFirst : Bool) (s : List Char) : Option Moment :=
  let word := lowered s
  match word with
  | "auto" =>
    if !isFirst then none
    else
      match p.raw, p.distance with
      | some x, none =>
        if -210866760000 ≤ x && x ≤ 253402300799 then
          some { p.bare with distance := some (Real.truncate (ofSeconds x + 0.5)), raw := none }
        else some p
      | _, _ => some { p with raw := none }
  | "ceiling" => some { p.withDistance.bare with excess := 0 }
  | "floor" =>
    let p := p.withDistance
    some { p with distance := p.distance.map (· - p.excess * dayLength) }.bare
  | "julianday" => if isFirst && p.distance.isSome && p.raw.isSome then some { p with raw := none } else none
  | "localtime" => some p
  | "utc" => some p
  | "unixepoch" =>
    match p.raw with
    | some x =>
      let r := ofSeconds x
      if isFirst && 0 ≤ r && r < 464269060800000.0 then
        some { p.bare with distance := some (Real.truncate (r + 0.5)), raw := none }
      else none
    | none => none
  | "subsec" | "subsecond" => some { p with showsPlaces := true }
  | _ =>
    if "weekday ".toList.isPrefixOf word.toList then do
      let x ← number? (s.drop 8)
      let n := Real.truncate x
      if x < 0 || 7 ≤ x || Real.ofInt n != x then none
      let q := { p.withAll with zone := 0, distance := none }.withDistance
      let d := q.distance.getD 0
      let z := Int.tmod (Int.tdiv (d + 129600000) dayLength) 7
      let z := if n < z then z - 7 else z
      some { q with distance := some (d + (n - z) * dayLength) }.bare
    else if "start of ".toList.isPrefixOf word.toList then
      if p.distance.isNone && p.date.isNone && p.clock.isNone then none
      else
        let p := { p.withDate with clock := some (0, 0, 0), raw := none, zone := 0, distance := none }
        match word.toList.drop 9 |> String.ofList with
        | "month" => some { p with date := some (p.year, p.month, 1) }
        | "year" => some { p with date := some (p.year, 1, 1) }
        | "day" => some p
        | _ => none
    else if s.head?.any fun c => c == '+' || c == '-' || c.isDigit then addText p s
    else none

def ofArguments (args : List Value) : Option Moment := do
  let letters (v : Value) : List Char := (Characters.untilNul v.octets).letters
  let first ← match args.head? with
    | none => some { distance := some present }
    | some .null => none
    | some (.integer n) => some (ofNumber (Real.ofInt n))
    | some (.real x) => some (ofNumber x)
    | some v => read (letters v)
  let p ← (args.drop 1).zipIdx.foldlM (fun (p : Moment) (v, i) =>
    if v.isNull then none else modify p (i = 0) (letters v)) first
  let p := p.withDistance
  if p.isWrong || !(p.distance.any Moment.isInRange) then none
  return if args.length = 1 && 28 < p.day && p.date.isSome then { p with date := none } else p

def padded (width : Nat) (n : Int) : List Char :=
  let ds := Format.padded (if n < 0 then width - 1 else width) (Text.Numeral.digits n.natAbs)
  if n < 0 then '-' :: ds else ds

def spaced (n : Int) : List Char :=
  let ds := Text.Numeral.digits n.natAbs
  List.replicate (2 - ds.length) ' ' ++ ds

def wholeSecond : Int := Real.truncate p.second

def seconds : List Char :=
  if p.showsPlaces then
    let ms := Real.truncate (1000 * p.second + 0.5)
    padded 2 (ms / 1000) ++ '.' :: padded 3 (ms % 1000)
  else padded 2 (wholeSecond p)

def showDate : List Char :=
  let y := Format.padded 4 (Text.Numeral.digits (p.year.natAbs % 10000))
  (if p.year < 0 then '-' :: y else y) ++ '-' :: padded 2 p.month ++ '-' :: padded 2 p.day

def showClock : List Char := padded 2 p.hour ++ ':' :: padded 2 p.minute ++ ':' :: seconds p

def dayOfYear : Int :=
  let start := ({ p with date := some (p.year, 1, 1), distance := none } : Moment).withDistance
  Int.tdiv (p.distance.getD 0 - start.distance.getD 0 + 43200000) dayLength

def afterMonday : Int := Int.tmod (Int.tdiv (p.distance.getD 0 + 43200000) dayLength) 7

def afterSunday : Int := Int.tmod (Int.tdiv (p.distance.getD 0 + 129600000) dayLength) 7

def thursday : Moment :=
  { p with distance := p.distance.map (· + (3 - afterMonday p) * dayLength), date := none }.withDate

def epochSeconds : Int := Int.tdiv (p.distance.getD 0) 1000 - 210866760000

def epochPlaces : Float := Real.ofInt (p.distance.getD 0 - epoch) / 1000

def part (letter : Char) : Option (List Char) :=
  let hour12 := if p.hour = 0 then 12 else if 12 < p.hour then p.hour - 12 else p.hour
  match letter with
  | 'd' => some (padded 2 p.day)
  | 'e' => some (spaced p.day)
  | 'f' => some (Format.real { fillsZeros := true, width := 6, precision := some 3 } .fixed 'e' p.second)
  | 'F' => some (padded 4 p.year ++ '-' :: padded 2 p.month ++ '-' :: padded 2 p.day)
  | 'G' => some (padded 4 (thursday p).year)
  | 'g' => some (padded 2 (Int.tmod (thursday p).year 100))
  | 'H' => some (padded 2 p.hour)
  | 'k' => some (spaced p.hour)
  | 'I' => some (padded 2 hour12)
  | 'l' => some (spaced hour12)
  | 'j' => some (padded 3 (dayOfYear p + 1))
  | 'J' => some (Format.real { precision := some 16 } .general 'e' (Real.ofInt (p.distance.getD 0) / 86400000))
  | 'm' => some (padded 2 p.month)
  | 'M' => some (padded 2 p.minute)
  | 'p' => some (if 12 ≤ p.hour then ['P', 'M'] else ['A', 'M'])
  | 'P' => some (if 12 ≤ p.hour then ['p', 'm'] else ['a', 'm'])
  | 'R' => some (padded 2 p.hour ++ ':' :: padded 2 p.minute)
  | 's' =>
    some (if p.showsPlaces then Format.real { precision := some 3 } .fixed 'e' (epochPlaces p)
      else (Text.Numeral.ofInt (epochSeconds p)).toList)
  | 'S' => some (padded 2 (wholeSecond p))
  | 'T' => some (padded 2 p.hour ++ ':' :: padded 2 p.minute ++ ':' :: padded 2 (wholeSecond p))
  | 'u' => some (Text.Numeral.digits (if afterSunday p = 0 then 7 else (afterSunday p).toNat))
  | 'w' => some (Text.Numeral.digits (afterSunday p).toNat)
  | 'U' => some (padded 2 (Int.tdiv (dayOfYear p - afterSunday p + 7) 7))
  | 'V' => some (padded 2 (Int.tdiv (dayOfYear (thursday p)) 7 + 1))
  | 'W' => some (padded 2 (Int.tdiv (dayOfYear p - afterMonday p + 7) 7))
  | 'Y' => some (padded 4 p.year)
  | '%' => some ['%']
  | _ => none

def format (p : Moment) : List Char → Option (List Char)
  | [] => some []
  | '%' :: rest =>
    match rest with
    | [] => none
    | letter :: rest => do return (← part p letter) ++ (← format p rest)
  | c :: rest => (format p rest).map (c :: ·)

def approach (goal step : Int) : Nat → Moment → Int → Int → Moment × Int × Int
  | 0, q, y, m => (q, y, m)
  | fuel + 1, q, y, m =>
    let d := q.distance.getD 0
    if (if step < 0 then goal < d else d < goal) then
      let (y, m) := if m = 0 then (y - 1, 11) else (y, m - 1)
      let month := q.month + step
      let date := if month < 1 then (q.year - 1, 12, q.day) else if 12 < month then (q.year + 1, 1, q.day)
        else (q.year, month, q.day)
      approach goal step fuel ({ q with date := some date, distance := none } : Moment).withDistance y m
    else (q, y, m)

def difference (a b : Moment) : List Char :=
  let p := a.withAll
  let q := b.withAll
  let d := p.distance.getD 0
  let isNegative := d < q.distance.getD 0
  let years := if isNegative then q.year - p.year else p.year - q.year
  let months := if isNegative then q.month - p.month else p.month - q.month
  let q := if years = 0 then q else ({ q with date := some (p.year, q.month, q.day), distance := none } :
    Moment).withDistance
  let (years, months) := if months < 0 then (years - 1, months + 12) else (years, months)
  let q := if months = 0 then q else ({ q with date := some (q.year, p.month, q.day), distance := none } :
    Moment).withDistance
  let (q, years, months) := approach d (if isNegative then 1 else -1) 1000 q years months
  let rest := if isNegative then q.distance.getD 0 - d else d - q.distance.getD 0
  let r := ({ distance := some (rest + 148699540800000) } : Moment).withAll
  (if isNegative then '-' else '+') :: padded 4 years ++ '-' :: padded 2 months ++ '-' :: padded 2 (r.day - 1) ++ ' ' ::
    padded 2 r.hour ++ ':' :: padded 2 r.minute ++ ':' ::
    Format.real { fillsZeros := true, width := 6, precision := some 3 } .fixed 'e' r.second

def apply (name : String) (args : List Value) : Value :=
  let with_ (args : List Value) (f : Moment → Value) : Value :=
    ((ofArguments args).map (fun p => f p.withAll)).getD .null
  match name with
  | "julianday" => with_ args fun p => .real (Real.ofInt (p.distance.getD 0) / 86400000)
  | "unixepoch" => with_ args fun p => if p.showsPlaces then .real (epochPlaces p) else .integer (epochSeconds p)
  | "date" => with_ args fun p => .ofLetters (showDate p)
  | "time" => with_ args fun p => .ofLetters (showClock p)
  | "datetime" => with_ args fun p => .ofLetters (showDate p ++ ' ' :: showClock p)
  | "strftime" =>
    match args with
    | f :: rest =>
      if f.isNull then .null
      else with_ rest fun p => ((format p (Characters.untilNul f.octets).letters).map Value.ofLetters).getD .null
    | [] => .null
  | "timediff" =>
    match args with
    | [a, b] =>
      match ofArguments [a], ofArguments [b] with
      | some p, some q => .ofLetters (difference p q)
      | _, _ => .null
    | _ => .null
  | "current_date" => with_ [] fun p => .ofLetters (showDate p)
  | "current_time" => with_ [] fun p => .ofLetters (showClock p)
  | "current_timestamp" => with_ [] fun p => .ofLetters (showDate p ++ ' ' :: showClock p)
  | _ => .null

end FormCompiler.Database.Calendar
