import FormCompiler.Database.FullText.Stem
import FormCompiler.Database.Value.Characters

namespace FormCompiler.Database.FullText

structure Token where
  text : Octets
  start : Nat
  stop : Nat

inductive Tokenizer where
  | words (removesMarks : Bool) (extra separators : List Nat)
  | plain (extra separators : List Nat)
  | stems (inner : Tokenizer)
  | runs (keepsCase : Bool)

def unmarkedLetters : String :=
  "aaaaaaccccccccdd..eeeeeeeeeegggggggghh..iiiiiiiii...jjkk.llllll" ++
    "....nnnnnn...oooooo..rrrrrrsssssssstttt..uuuuuuuuuuuuwwyyyzzzzzzs"

def unmarkedLatin : String := "aaaaaa.ceeeeiiii.nooooo..uuuuy..aaaaaa.ceeeeiiii.nooooo..uuuuy.y"

def lowerCode (c : Nat) : Nat :=
  if 65 ≤ c && c ≤ 90 then c + 32
  else if 192 ≤ c && c ≤ 222 && c != 215 then c + 32
  else if 256 ≤ c && c ≤ 311 && c != 304 then c / 2 * 2 + 1
  else if 313 ≤ c && c ≤ 328 then (c + 1) / 2 * 2
  else if 330 ≤ c && c ≤ 375 then c / 2 * 2 + 1
  else if c = 376 then 255
  else if 377 ≤ c && c ≤ 382 then (c + 1) / 2 * 2
  else if 913 ≤ c && c ≤ 939 && c != 930 then c + 32
  else if c = 962 then 963
  else if 1040 ≤ c && c ≤ 1071 then c + 32
  else if 1024 ≤ c && c ≤ 1039 then c + 80
  else c

def foldCode (removesMarks : Bool) (c : Nat) : Nat :=
  let bare (letters : String) (i : Nat) : Nat :=
    match letters.toList[i]? with
    | some '.' | none => lowerCode c
    | some l => l.toNat
  if !removesMarks then lowerCode c
  else if 192 ≤ c && c ≤ 255 then bare unmarkedLatin (c - 192)
  else if 256 ≤ c && c ≤ 383 then bare unmarkedLetters (c - 256)
  else lowerCode c

def isMark (c : Nat) : Bool := 768 ≤ c && c ≤ 817

def isWordCode (c : Nat) : Bool :=
  if c < 128 then (48 ≤ c && c ≤ 57) || (65 ≤ c && c ≤ 90) || (97 ≤ c && c ≤ 122)
  else if c < 192 then [170, 178, 179, 181, 185, 186, 188, 189, 190].contains c
  else if c < 0x2000 then c != 215 && c != 247 && !(0x2C2 ≤ c && c ≤ 0x2C5) && !(768 ≤ c && c ≤ 879)
  else if c < 0x2C00 then (0x2070 ≤ c && c ≤ 0x209C && !(0x207A ≤ c && c ≤ 0x207E) && !(0x208A ≤ c && c ≤ 0x208F))
    || (0x2150 ≤ c && c ≤ 0x2189) || (0x2460 ≤ c && c ≤ 0x249B)
  else if 0x3000 ≤ c && c ≤ 0x3020 then 0x3005 ≤ c && c ≤ 0x3007
  else if 0xFF00 ≤ c && c ≤ 0xFFEF then (0xFF10 ≤ c && c ≤ 0xFF19) || (0xFF21 ≤ c && c ≤ 0xFF3A) || 0xFF41 ≤ c
  else !(0xFE00 ≤ c && c ≤ 0xFE6F) && !(0x1F000 ≤ c && c ≤ 0x1FAFF) && c < 0xE0000

def placed (s : Octets) : List (Octets × Nat × Nat) :=
  ((Characters.split s).foldl (fun (found : List (Octets × Nat × Nat) × Nat) c =>
    ((c, found.2, found.2 + c.length) :: found.1, found.2 + c.length)) ([], 0)).1.reverse

def wordsOf (starts continues : Nat → Bool) (fold : Octets → Octets) (s : Octets) : List Token :=
  let close (current : Option Token) (done : List Token) : List Token := current.elim done (· :: done)
  let (current, done) := (placed s).foldl (fun (state : Option Token × List Token) (c, start, stop) =>
    let (current, done) := state
    let code := Characters.code c
    match current with
    | none => if starts code then (some ⟨fold c, start, stop⟩, done) else (none, done)
    | some t => if continues code then (some { t with text := t.text ++ fold c, stop }, done)
      else (none, t :: done)) (none, [])
  (close current done).reverse

def runsOf (fold : Octets → Octets) : List (Octets × Nat × Nat) → List Token
  | (a, start, _) :: (b, i, j) :: (c, k, stop) :: rest =>
    ⟨fold a ++ fold b ++ fold c, start, stop⟩ :: runsOf fold ((b, i, j) :: (c, k, stop) :: rest)
  | _ => []

def Tokenizer.tokens : Tokenizer → Octets → List Token
  | .words removesMarks extra separators, s =>
    let is (c : Nat) : Bool := (isWordCode c || extra.contains c) && !separators.contains c
    let fold (c : Octets) : Octets :=
      let code := Characters.code c
      if isMark code && removesMarks then []
      else if code < 128 then Characters.ofCode (lowerCode code)
      else Characters.ofCode (foldCode removesMarks code)
    wordsOf is (fun c => is c || isMark c) fold s
  | .plain extra separators, s =>
    let is (c : Nat) : Bool := (128 ≤ c || isWordCode c || extra.contains c) && !separators.contains c
    wordsOf is is (·.map Characters.lower) s
  | .stems inner, s => (inner.tokens s).map fun t => { t with text := Stem.of t.text }
  | .runs keepsCase, s =>
    runsOf (fun c => if keepsCase then c else Characters.ofCode (lowerCode (Characters.code c))) (placed s)

end FormCompiler.Database.FullText
