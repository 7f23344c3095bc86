import FormCompiler.Database.Value.Characters

namespace FormCompiler.Database.Pattern

structure Signs where
  many : Option Nat
  one : Option Nat
  hasSets : Bool
  foldsCase : Bool

def like : Signs := ⟨some '%'.toNat, some '_'.toNat, false, true⟩

def glob : Signs := ⟨some '*'.toNat, some '?'.toNat, true, false⟩

def members (c : Nat) (found : Bool) (before : Option Nat) : List Nat → Option (Bool × List Nat)
  | [] => none
  | 93 :: rest => some (found, rest)
  | 45 :: d :: rest =>
    match before with
    | some b =>
      if d = 93 then members c (found || c == 45) (some 45) (d :: rest)
      else members c (found || (b ≤ c && c ≤ d)) none rest
    | none => members c (found || c == 45) (some 45) (d :: rest)
  | d :: rest => members c (found || c == d) (some d) rest

def set (c : Nat) (pattern : List Nat) : Option (Bool × List Nat) :=
  let (inverts, rest) := match pattern with
    | 94 :: rest => (true, rest)
    | rest => (false, rest)
  let (found, rest) := match rest with
    | 93 :: rest => (c == 93, rest)
    | rest => (false, rest)
  (members c found none rest).map fun (found, rest) => (found != inverts, rest)

def lower (c : Nat) : Nat := if 65 ≤ c && c ≤ 90 then c + 32 else c

def fits (signs : Signs) (escape : Option Nat) : Nat → List Nat → List Nat → Bool
  | 0, _, _ => false
  | _ + 1, [], text => text.isEmpty
  | fuel + 1, p :: pattern, text =>
    if signs.many == some p then
      fits signs escape fuel pattern text ||
        match text with
        | _ :: rest => fits signs escape fuel (p :: pattern) rest
        | [] => false
    else if escape == some p then
      match pattern, text with
      | q :: pattern, c :: text => same q c && fits signs escape fuel pattern text
      | _, _ => false
    else if signs.hasSets && p == 91 then
      match text with
      | [] => false
      | c :: rest =>
        match set c pattern with
        | some (found, pattern) => found && fits signs escape fuel pattern rest
        | none => false
    else
      match text with
      | [] => false
      | c :: rest => (same p c || signs.one == some p) && fits signs escape fuel pattern rest
where
  same (a b : Nat) : Bool := a == b || (signs.foldsCase && lower a == lower b)

def isLike (signs : Signs) (pattern text : Octets) (escape : Option Nat) : Bool :=
  let signs := { signs with
    many := if escape == signs.many then none else signs.many
    one := if escape == signs.one then none else signs.one }
  let pattern := (Characters.codes (Characters.untilNul pattern))
  let text := (Characters.codes (Characters.untilNul text))
  fits signs escape (pattern.length + text.length + 1) pattern text

end FormCompiler.Database.Pattern
