import FormCompiler.Database.Lexeme
import FormCompiler.Database.Statement.Basic

namespace FormCompiler.Database

inductive Begun where
  | nothing
  | table (d : TableDefinition)
  | trigger (d : TriggerDefinition)
  | alteration (table : FullName) (position : Nat) (steps : List TableStep)
  deriving Inhabited

structure Mistake where
  message : String
  position : Nat
  deriving Inhabited

namespace Reader

structure State where
  rest : List Lexeme
  position : Nat := 0
  stop : Nat := 0
  source : Array Char := #[]
  parameters : Array String := #[]
  begun : Begun := .nothing

end Reader

abbrev Reader := EStateM Mistake Reader.State

namespace Reader

def fail {α : Type} : Reader α := do
  let s ← get
  throw ⟨Lexeme.complaint s.rest, s.position⟩

def reject {α : Type} (message : String) : Reader α := do
  throw ⟨message, (← get).position⟩

def peek : Reader (Option Lexeme) := return (← get).rest.head?

def skip : Reader Unit :=
  modify fun s =>
    match s.rest with
    | [] => s
    | l :: rest => { s with rest, position := s.position + 1, stop := l.start + l.chars.length }

def look (p : Lexeme → Bool) : Reader Bool := return (← peek).any p

def lookWord (w : String) : Reader Bool := look (·.isWord w)

def lookSign (s : String) : Reader Bool := look (·.isSign s)

def take? (p : Lexeme → Bool) : Reader (Option Lexeme) := do
  match ← peek with
  | some l =>
    if p l then
      skip
      return some l
    else return none
  | none => return none

def take (p : Lexeme → Bool) : Reader Lexeme := do
  match ← take? p with
  | some l => return l
  | none => fail

def word? (w : String) : Reader Bool := return (← take? (·.isWord w)).isSome

def sign? (s : String) : Reader Bool := return (← take? (·.isSign s)).isSome

def word (w : String) : Reader Unit := discard (take (·.isWord w))

def sign (s : String) : Reader Unit := discard (take (·.isSign s))

def oneOf? (words : List String) : Reader (Option String) := do
  return (← take? fun l => l.word?.any words.contains).bind Lexeme.word?

def isEquals (l : Lexeme) : Bool := l.isSign "=" || l.isSign "=="

def ofLexeme (l : Lexeme) : Name := ⟨l.name, l.text, l.octets⟩

def name : Reader Name := return ofLexeme (← take fun l => l.isName || l.kind = .string)

def plainName : Reader Name := return ofLexeme (← take Lexeme.isPlainName)

def fullName : Reader FullName := do
  let first ← name
  if ← sign? "." then return ⟨some first, ← name⟩ else return ⟨none, first⟩

def budget : Reader Nat := return (← get).rest.length + 1

def parameter (text : String) : Reader Nat := do
  let known := (← get).parameters
  if text == "?" then
    modify fun s => { s with parameters := s.parameters.push "" }
    return known.size + 1
  let chars := text.toList
  if chars.head? == some '?' then
    let n := Nat.ofDigitChars 10 (chars.drop 1) 0
    if n = 0 || 32766 < n then reject "variable number must be between ?1 and ?32766"
    let padded := known ++ Array.replicate (n - known.size) ""
    modify fun s => { s with parameters := padded.setIfInBounds (n - 1) text }
    return n
  match known.findIdx? (· == text) with
  | some i => return i + 1
  | none =>
    modify fun s => { s with parameters := s.parameters.push text }
    return known.size + 1

def more {α : Type} (item : Reader α) : Nat → Array α → Reader (Array α)
  | 0, items => return items
  | fuel + 1, items => do
    if ← sign? "," then more item fuel (items.push (← item)) else return items

def separated {α : Type} (item : Reader α) : Reader (List α) := do
  let first ← item
  return (← more item (← budget) #[first]).toList

def many {α : Type} (item : Reader (Option α)) : Nat → Array α → Reader (Array α)
  | 0, items => return items
  | fuel + 1, items => do
    match ← item with
    | some a => many item fuel (items.push a)
    | none => return items

def repeated {α : Type} (item : Reader (Option α)) : Reader (List α) := return (← many item (← budget) #[]).toList

def parenthesized {α : Type} (inner : Reader α) : Reader α := do
  sign "("
  let a ← inner
  sign ")"
  return a

def names : Reader (List Name) := parenthesized (separated name)

def start : Reader Nat := do
  let s ← get
  return s.rest.head?.elim s.source.size (·.start)

def octetsFrom (i : Nat) : Reader Octets := do
  let s ← get
  return Octets.ofLetters (s.source.extract i s.stop).toList

def textFrom (i : Nat) : Reader String := return (← octetsFrom i).text

def octetsToEnd (i : Nat) : Reader Octets := do
  let s ← get
  return Octets.ofLetters (s.source.extract i (s.rest.head?.elim s.source.size (·.start))).toList

def signed : Reader String := do
  let sign ← take? fun l => l.isSign "+" || l.isSign "-"
  let number ← take fun l => l.kind = .integer || l.kind = .float
  return (if sign.any (·.isSign "-") then "-" else "") ++ number.text

def type : Reader String := do
  let i ← start
  let words ← repeated (take? Lexeme.isPlainName)
  if words.isEmpty then return ""
  if ← sign? "(" then
    let _ ← signed
    if ← sign? "," then
      let _ ← signed
    sign ")"
  textFrom i

def resolution : Reader Conflict := do
  match ← oneOf? ["rollback", "abort", "fail", "ignore", "replace"] with
  | some "rollback" => return .rollback
  | some "abort" => return .abort
  | some "fail" => return .fail
  | some "ignore" => return .ignore
  | some _ => return .replace
  | none => fail

def onConflict : Reader (Option Conflict) := do
  if ← word? "on" then
    word "conflict"
    return some (← resolution)
  else return none

def orConflict : Reader (Option Conflict) := do if ← word? "or" then return some (← resolution) else return none

end Reader

end FormCompiler.Database
