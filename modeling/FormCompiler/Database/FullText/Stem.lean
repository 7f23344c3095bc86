import FormCompiler.Text.Octets

namespace FormCompiler.Database.FullText.Stem

def isVowel (b : UInt8) (withY : Bool) : Bool := [97, 101, 105, 111, 117].contains b.toNat || (withY && b == 121)

def consonants (word : Octets) (afterConsonant : Bool) : List Bool :=
  match word with
  | [] => []
  | b :: rest =>
    let is := !isVowel b afterConsonant
    is :: consonants rest is

variable (word : Octets)

def measure : Nat :=
  let cs := consonants word false
  ((cs.zip (cs.drop 1)).filter fun (a, b) => !a && b).length

def hasVowel : Bool := word.zipIdx.any fun (b, i) => isVowel b (0 < i)

def endsShort : Bool :=
  match word.getLast? with
  | none => false
  | some last => !([119, 120, 121].contains last.toNat)
      && (match (consonants word false).reverse with
        | true :: false :: true :: _ => true
        | _ => false)

def before? (ending : String) (word : Octets) : Option Octets :=
  let e := Octets.ofString ending
  if e.length < word.length && word.drop (word.length - e.length) == e then
    some (word.take (word.length - e.length)) else none

def replaceEnding (endings : List (String × String)) (least : Nat) (word : Octets) : Octets :=
  match endings.findSome? fun (e, r) => (before? e word).map (·, r) with
  | some (stem, r) => if least ≤ measure stem then stem ++ Octets.ofString r else word
  | none => word

def singular : Octets :=
  match before? "s" word with
  | none => word
  | some stem =>
    if (before? "sses" word).isSome || (before? "ies" word).isSome then word.take (word.length - 2)
    else if stem.getLast? == some 115 then word
    else stem

def mended : Octets :=
  let endsIn (ending : String) : Bool := (before? ending word).isSome
  if endsIn "at" || endsIn "bl" || endsIn "iz" then word ++ [101]
  else
    match word.reverse with
    | a :: b :: _ =>
      if a == b && !isVowel a false && !([108, 115, 122].contains a.toNat) then word.dropLast
      else if measure word = 1 && endsShort word then word ++ [101]
      else word
    | _ => word

def verb : Octets :=
  match before? "eed" word, before? "ed" word, before? "ing" word with
  | some stem, _, _ => if 0 < measure stem then stem ++ [101, 101] else word
  | none, some stem, _ => if hasVowel stem then mended stem else word
  | none, none, some stem => if hasVowel stem then mended stem else word
  | none, none, none => word

def second : List (String × String) :=
  [("ational", "ate"), ("tional", "tion"), ("enci", "ence"), ("anci", "ance"), ("izer", "ize"), ("logi", "log"),
   ("bli", "ble"), ("alli", "al"), ("entli", "ent"), ("eli", "e"), ("ousli", "ous"), ("ization", "ize"),
   ("ation", "ate"), ("ator", "ate"), ("alism", "al"), ("iveness", "ive"), ("fulness", "ful"), ("ousness", "ous"),
   ("aliti", "al"), ("iviti", "ive"), ("biliti", "ble")]

def third : List (String × String) :=
  [("ical", "ic"), ("ness", ""), ("icate", "ic"), ("iciti", "ic"), ("ful", ""), ("ative", ""), ("alize", "al")]

def fourth : List String :=
  ["al", "ance", "ence", "er", "ic", "able", "ible", "ant", "ement", "ment", "ent", "ion", "ou", "ism",
   "ate", "iti", "ous", "ive", "ize"]

def shorter : Octets :=
  match fourth.findSome? fun e => (before? e word).map (·, e) with
  | none => word
  | some (stem, e) =>
    let fits := 1 < measure stem && (e != "ion" || stem.getLast? == some 115 || stem.getLast? == some 116)
    if fits then stem else word

def trimmed : Octets :=
  let word := match before? "e" word with
    | some stem => if 1 < measure stem || (measure stem = 1 && !endsShort stem) then stem else word
    | none => word
  match before? "ll" word with
  | some _ => if 1 < measure word.dropLast then word.dropLast else word
  | none => word

def of : Octets :=
  if word.length < 3 || 64 < word.length then word
  else
    let word := verb (singular word)
    let word := match word.getLast? with
      | some 121 => if hasVowel word.dropLast then word.dropLast ++ [105] else word
      | _ => word
    trimmed (shorter (replaceEnding third 1 (replaceEnding second 1 word)))

end FormCompiler.Database.FullText.Stem
