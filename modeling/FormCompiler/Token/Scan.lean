import FormCompiler.Report.Complaint

namespace FormCompiler

structure Position where
  line : Nat := 1
  column : Nat := 0
  deriving DecidableEq

def Position.after (p : Position) (c : Char) : Position :=
  if c = '\n' then ⟨p.line + 1, 0⟩ else ⟨p.line, p.column + 1⟩

structure Cursor where
  rest : List Char
  position : Position := {}
  deriving DecidableEq

namespace Cursor

def ofString (s : String) : Cursor := { rest := s.toList }

def current (c : Cursor) : Char := c.rest.headD '\x00'

def next (c : Cursor) : Cursor :=
  match c.rest with
  | [] => c
  | x :: xs => ⟨xs, c.position.after x⟩

def span (p : Char → Bool) (c : Cursor) : List Char × Cursor :=
  let run := c.rest.takeWhile p
  (run, ⟨c.rest.dropWhile p, run.foldl Position.after c.position⟩)

def walk (c : Cursor) : Nat → List Cursor
  | 0 => [c]
  | n + 1 => c :: c.next.walk n

theorem length_rest_span (p : Char → Bool) (c : Cursor) : (c.span p).2.rest.length ≤ c.rest.length :=
  (List.dropWhile_sublist p).length_le

end Cursor

namespace Token

def isGap (c : Char) : Bool := c == ' ' || c == '\t' || c == '\n' || c == '\r'

def isSymbolChar (c : Char) : Bool := !isGap c && c != '(' && c != ')' && c != ';' && c != '\x00'

def isCommentChar (c : Char) : Bool := c != '\n' && c != '\x00'

def looksNumeric : List Char → Bool
  | '-' :: c :: _ => c.isDigit
  | c :: _ => c.isDigit
  | [] => false

def ofText (source : String) (p : Position) (kind : Kind) (literal : String) : Token :=
  ⟨kind, literal, p.line, p.column, p.column + literal.length, source⟩

structure Scanned where
  token : Token
  report : Option Report := none
  next : Cursor

def scanRun (source : String) (p : Position) (run : List Char) (next : Cursor) : Scanned :=
  let literal := String.ofList run
  if looksNumeric run then
    match Text.Numeral.read? 64 literal with
    | some _ => { token := ofText source p .integer literal, next }
    | none =>
      let complaint := Complaint.integerMalformed literal
      let token := ofText source p .illegal complaint.topic.id
      { token, report := some (complaint.report (some token)), next }
  else { token := ofText source p .symbol literal, next }

def scanHere (source : String) (c : Cursor) : Scanned :=
  match c.rest with
  | [] => { token := ofText source c.position .endOfInput "", next := c }
  | x :: _ =>
    if x = '\x00' then { token := ofText source c.position .endOfInput "", next := c }
    else if x = '(' then { token := ofText source c.position .opening "(", next := c.next }
    else if x = ')' then { token := ofText source c.position .closing ")", next := c.next }
    else if x = ';' then
      let (text, next) := c.next.span isCommentChar
      { token := ofText source c.position .comment (String.ofList text), next }
    else
      let (run, next) := c.next.span isSymbolChar
      scanRun source c.position (x :: run) next

def scanNext (source : String) (c : Cursor) : Scanned := scanHere source (c.span isGap).2

theorem scanRun_next (source : String) (p : Position) (run : List Char) (next : Cursor) :
    (scanRun source p run next).next = next := by
  unfold scanRun
  dsimp only
  split <;> (try split) <;> rfl

theorem length_rest_scanHere {source : String} {c : Cursor}
    (h : (scanHere source c).token.kind ≠ .endOfInput) :
    (scanHere source c).next.rest.length < c.rest.length := by
  unfold scanHere at h ⊢
  split at h
  · simp [ofText] at h
  · rename_i x xs rest
    have next : c.next.rest.length < c.rest.length := by simp [Cursor.next, rest]
    have beyond (p : Char → Bool) := Nat.lt_of_le_of_lt (Cursor.length_rest_span p c.next) next
    simp only [rest]
    split
    · simp_all [ofText]
    · split
      · simpa only [rest] using next
      · split
        · simpa only [rest] using next
        · split
          · simpa only [rest] using beyond isCommentChar
          · simpa only [rest, scanRun_next] using beyond isSymbolChar

theorem length_rest_scanNext {source : String} {c : Cursor}
    (h : (scanNext source c).token.kind ≠ .endOfInput) :
    (scanNext source c).next.rest.length < c.rest.length :=
  Nat.lt_of_lt_of_le (length_rest_scanHere h) (Cursor.length_rest_span _ _)

def scanFrom (source : String) (c : Cursor) : List Scanned :=
  let s := scanNext source c
  if s.token.kind = .endOfInput then [s] else s :: scanFrom source s.next
termination_by c.rest.length
decreasing_by exact length_rest_scanNext (by assumption)

def scan (source input : String) : List Scanned := scanFrom source (.ofString input)

end Token

end FormCompiler
