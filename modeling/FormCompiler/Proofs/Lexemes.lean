import FormCompiler.Token.Scan

namespace FormCompiler

open Text.Numeral (Fits)

variable {text run past : List Char} {c : Char}

namespace Text.Numeral

theorem signed?_of_isDigit {cs : List Char} (digit : c.isDigit = true) :
    signed? (c :: cs) = (magnitude? (c :: cs)).map Int.ofNat := by
  unfold signed?
  split
  · rename_i same
    obtain ⟨rfl, -⟩ := List.cons.inj same
    exact absurd digit (by decide)
  · rename_i same
    obtain ⟨rfl, -⟩ := List.cons.inj same
    exact absurd digit (by decide)
  · rfl

end Text.Numeral

/-- The position behind some text: a line for each line break in it, and a column for each character since the last. -/
def Position.behind (past : List Char) : Position :=
  ⟨past.count '\n' + 1, (past.reverse.takeWhile (· != '\n')).length⟩

namespace Position

theorem after_behind (past : List Char) (c : Char) : (behind past).after c = behind (past ++ [c]) := by
  by_cases newline : c = '\n'
  · subst newline
    simp [after, behind]
  · simp [after, behind, newline]

theorem foldl_after_behind (past text : List Char) : text.foldl after (behind past) = behind (past ++ text) := by
  induction text generalizing past with
  | nil => rw [List.append_nil, List.foldl_nil]
  | cons c text ih => rw [List.foldl_cons, after_behind, ih, List.append_assoc, List.singleton_append]

end Position

namespace Token

/-- Digits with at most a minus sign before them, whose value is an integer of 64 bits. -/
def IsInteger (run : List Char) : Prop :=
  ∃ digits : List Char, digits ≠ [] ∧ (∀ c ∈ digits, c.isDigit = true) ∧
    (run = digits ∧ Fits 64 (Nat.ofDigitChars 10 digits 0) ∨
      run = '-' :: digits ∧ Fits 64 (-(Nat.ofDigitChars 10 digits 0 : Int)))

def StartsAsInteger (run : List Char) : Prop :=
  ∃ c rest, c.isDigit = true ∧ (run = c :: rest ∨ run = '-' :: c :: rest)

def Stops (rest : List Char) : Prop := ∀ c ∈ rest.head?, isSymbolChar c = false

structure IsRun (run rest : List Char) : Prop where
  filled : run ≠ []
  chars : ∀ c ∈ run, isSymbolChar c = true
  stops : Stops rest

structure StartsBehind (t : Token) (past : List Char) : Prop where
  line : t.line = 1 + past.count '\n'
  start : t.start = (past.reverse.takeWhile (· != '\n')).length

structure Spans (t : Token) (kind : Kind) (text : List Char) : Prop where
  kind : t.kind = kind
  literal : t.literal.toList = text
  stop : t.stop = t.start + text.length

inductive Scanned.From (s : Scanned) (rest : List Char) : List Char → Prop
  | opening (token : s.token.Spans .opening ['(']) (silent : s.report = none) : From s rest ['(']
  | closing (token : s.token.Spans .closing [')']) (silent : s.report = none) : From s rest [')']
  | comment {chars : List Char} (kind : s.token.kind = .comment) (literal : s.token.literal.toList = chars)
    (inside : '\n' ∉ chars) (stops : ∀ c ∈ rest.head?, c = '\n') (silent : s.report = none) : From s rest (';' :: chars)
  | symbol {run : List Char} (isRun : IsRun run rest) (other : ¬StartsAsInteger run) (token : s.token.Spans .symbol run)
    (silent : s.report = none) : From s rest run
  | integer {run : List Char} (isRun : IsRun run rest) (value : IsInteger run) (token : s.token.Spans .integer run)
    (silent : s.report = none) : From s rest run
  | illegal {run : List Char} (isRun : IsRun run rest) (starts : StartsAsInteger run) (none : ¬IsInteger run)
    (kind : s.token.kind = .illegal) {r : Report} (told : s.report = some r) (id : r.id = "lex/int")
    (at_ : r.token = some s.token) : From s rest run

/-- How a text that stands behind `past` is cut: gaps and the texts of tokens take turns, and the end of the input comes
last. -/
inductive Cuts : List Char → List Char → List Scanned → Prop
  | ended {past gap : List Char} {s : Scanned} (blank : ∀ c ∈ gap, isGap c = true)
    (starts : s.token.StartsBehind (past ++ gap)) (token : s.token.Spans .endOfInput []) (silent : s.report = none) :
    Cuts past gap [s]
  | token {past gap text rest : List Char} {s : Scanned} {ss : List Scanned} (blank : ∀ c ∈ gap, isGap c = true)
    (starts : s.token.StartsBehind (past ++ gap)) (from_ : s.From rest text)
    (others : Cuts (past ++ gap ++ text) rest ss) : Cuts past (gap ++ text ++ rest) (s :: ss)

def visible (text : List Char) : List Char := text.takeWhile (· != '\x00')

theorem visible_span {p : Char → Bool} (ends : p '\x00' = false) (text : List Char) :
    visible text = text.takeWhile p ++ visible (text.dropWhile p) := by
  have shown : ∀ c ∈ text.takeWhile p, (c != '\x00') = true := by
    intro c inside
    have passes := List.all_eq_true.mp List.all_takeWhile c inside
    refine bne_iff_ne.mpr ?_
    rintro rfl
    rw [ends] at passes
    cases passes
  rw [visible, visible, ← List.takeWhile_append_of_pos shown, List.takeWhile_append_dropWhile]

theorem head?_visible (head : c ∈ (visible text).head?) : c ∈ text.head? ∧ c ≠ '\x00' := by
  cases text with
  | nil => cases head
  | cons d rest =>
    by_cases nul : d = '\x00'
    · simp [visible, nul] at head
    · simp only [visible, bne_iff_ne.mpr nul, List.takeWhile_cons_of_pos, List.head?_cons] at head ⊢
      cases head
      exact ⟨rfl, nul⟩

theorem head?_visible_dropWhile {p : Char → Bool} (head : c ∈ (visible (text.dropWhile p)).head?) :
    p c = false ∧ c ≠ '\x00' := by
  obtain ⟨head, shown⟩ := head?_visible head
  have first := List.head?_dropWhile_not p text
  rw [Option.mem_def.mp head] at first
  exact ⟨first, shown⟩

theorem startsAsInteger_iff (run : List Char) : StartsAsInteger run ↔ looksNumeric run = true := by
  unfold looksNumeric
  split
  · rename_i c rest
    constructor
    · rintro ⟨d, others, digit, same | same⟩
      · cases same
        cases digit
      · cases same
        exact digit
    · intro digit
      exact ⟨c, rest, digit, .inr rfl⟩
  · rename_i c rest other
    constructor
    · rintro ⟨d, others, digit, same | same⟩
      · cases same
        exact digit
      · cases same
        exact (other d others rfl rfl).elim
    · intro digit
      exact ⟨c, rest, digit, .inl rfl⟩
  · simp [StartsAsInteger]

theorem magnitude?_eq_some_iff {digits : List Char} {n : Nat} : Text.Numeral.magnitude? digits = some n ↔
    (digits ≠ [] ∧ ∀ c ∈ digits, c.isDigit = true) ∧ Nat.ofDigitChars 10 digits 0 = n := by
  simp [Text.Numeral.magnitude?, and_assoc]

theorem isInteger_iff (starts : StartsAsInteger run) :
    IsInteger run ↔ (Text.Numeral.read? 64 (String.ofList run)).isSome = true := by
  have read : (Text.Numeral.read? 64 (String.ofList run)).isSome = true ↔
      ∃ n, Text.Numeral.signed? run = some n ∧ Fits 64 n := by
    rw [Text.Numeral.read?, String.toList_ofList]
    cases Text.Numeral.signed? run <;> simp
  rw [read]
  obtain ⟨c, rest, digit, rfl | rfl⟩ := starts
  · rw [Text.Numeral.signed?_of_isDigit digit]
    simp only [Option.map_eq_some_iff, magnitude?_eq_some_iff]
    constructor
    · rintro ⟨digits, filled, all, ⟨rfl, fits⟩ | ⟨same, -⟩⟩
      · exact ⟨_, ⟨_, ⟨⟨filled, all⟩, rfl⟩, rfl⟩, fits⟩
      · cases same
        cases digit
    · rintro ⟨-, ⟨n, ⟨⟨filled, all⟩, rfl⟩, rfl⟩, fits⟩
      exact ⟨c :: rest, filled, all, .inl ⟨rfl, fits⟩⟩
  · have negated : Text.Numeral.signed? ('-' :: c :: rest) =
        (Text.Numeral.magnitude? (c :: rest)).map fun k : Nat => -(k : Int) := by
      rw [Text.Numeral.signed?]
      cases Text.Numeral.magnitude? (c :: rest) <;> rfl
    rw [negated]
    simp only [Option.map_eq_some_iff, magnitude?_eq_some_iff]
    constructor
    · rintro ⟨digits, filled, all, ⟨rfl, -⟩ | ⟨same, fits⟩⟩
      · cases all '-' List.mem_cons_self
      · cases same
        exact ⟨_, ⟨_, ⟨⟨filled, all⟩, rfl⟩, rfl⟩, fits⟩
    · rintro ⟨-, ⟨n, ⟨⟨filled, all⟩, rfl⟩, rfl⟩, fits⟩
      exact ⟨c :: rest, filled, all, .inr ⟨rfl, fits⟩⟩

theorem IsInteger.startsAsInteger (h : IsInteger run) : StartsAsInteger run := by
  obtain ⟨digits, filled, all, written⟩ := h
  obtain ⟨c, rest, rfl⟩ := List.exists_cons_of_ne_nil filled
  refine ⟨c, rest, all c List.mem_cons_self, ?_⟩
  rcases written with ⟨same, -⟩ | ⟨same, -⟩
  · exact .inl same
  · exact .inr same

variable (source : String)

theorem spans_ofText (p : Position) (kind : Kind) (text : List Char) :
    (ofText source p kind (String.ofList text)).Spans kind text :=
  ⟨rfl, String.toList_ofList, by simp [ofText]⟩

theorem startsBehind_ofText (past : List Char) (kind : Kind) (literal : String) :
    (ofText source (.behind past) kind literal).StartsBehind past :=
  ⟨by simp [ofText, Position.behind, Int.add_comm], rfl⟩

theorem startsBehind_scanRun (past run : List Char) (next : Cursor) :
    (scanRun source (.behind past) run next).token.StartsBehind past := by
  unfold scanRun
  dsimp only
  split
  · split <;> exact startsBehind_ofText ..
  · exact startsBehind_ofText ..

theorem from_scanRun (p : Position) {rest : List Char} (isRun : IsRun run rest) (next : Cursor) :
    (scanRun source p run next).From rest run := by
  have starts := startsAsInteger_iff run
  unfold scanRun
  dsimp only
  cases numeric : looksNumeric run with
  | false =>
    have other : ¬StartsAsInteger run := by simp [starts, numeric]
    exact .symbol isRun other (spans_ofText ..) rfl
  | true =>
    have value := isInteger_iff (starts.mpr numeric)
    simp only [if_true]
    split
    · rename_i n read
      exact .integer isRun (value.mpr (by simp [read])) (spans_ofText ..) rfl
    · rename_i read
      exact .illegal isRun (starts.mpr numeric) (by simp [value, read]) rfl rfl rfl rfl

/-- The token at a cursor starts there. It is the end of the input, or is scanned from the text between the cursor and
the one that scanning goes on from. -/
theorem from_scanHere {c : Cursor} (here : c.position = .behind past) (solid : ∀ x ∈ c.rest.head?, isGap x = false) :
    (scanHere source c).token.StartsBehind past ∧
      ((scanHere source c).token.Spans .endOfInput [] ∧ (scanHere source c).report = none ∧ visible c.rest = [] ∨
        ∃ text, visible c.rest = text ++ visible (scanHere source c).next.rest ∧
          (scanHere source c).next.position = .behind (past ++ text) ∧
          (scanHere source c).From (visible (scanHere source c).next.rest) text) := by
  have starts := startsBehind_ofText source past
  cases text : c.rest with
  | nil =>
    simp only [scanHere, text, here]
    exact ⟨starts _ _, .inl ⟨spans_ofText source _ _ [], trivial, rfl⟩⟩
  | cons x rest =>
    have next : c.next = ⟨rest, .behind (past ++ [x])⟩ := by
      simp only [Cursor.next, text, here, Position.after_behind]
    have shown (plain : x ≠ '\x00') : visible (x :: rest) = x :: visible rest := by simp [visible, plain]
    simp only [scanHere, text, next, here]
    split
    · rename_i nul
      exact ⟨starts _ _, .inl ⟨spans_ofText source _ _ [], rfl, by simp [visible, nul]⟩⟩
    rename_i plain
    rw [shown plain]
    split
    · rename_i left
      subst left
      exact ⟨starts _ _, .inr ⟨['('], rfl, rfl, .opening (spans_ofText source _ _ ['(']) rfl⟩⟩
    rename_i left
    split
    · rename_i right
      subst right
      exact ⟨starts _ _, .inr ⟨[')'], rfl, rfl, .closing (spans_ofText source _ _ [')']) rfl⟩⟩
    rename_i right
    split
    · rename_i semicolon
      subst semicolon
      let chars := rest.takeWhile isCommentChar
      have within : '\n' ∉ chars := fun inside => by cases List.all_eq_true.mp List.all_takeWhile _ inside
      refine ⟨starts _ _, .inr ⟨';' :: chars, ?_, ?_, .comment rfl String.toList_ofList within ?_ rfl⟩⟩
      · exact congrArg _ (visible_span rfl rest)
      · simp only [Cursor.span, Position.foldl_after_behind, List.append_assoc, List.singleton_append, chars]
      · intro d head
        obtain ⟨stops, plain⟩ := head?_visible_dropWhile head
        simpa [isCommentChar, plain] using stops
    rename_i other
    have first : isSymbolChar x = true := by
      simp [isSymbolChar, solid x (by rw [text]; rfl), left, right, other, plain]
    have isRun : IsRun (x :: rest.takeWhile isSymbolChar) (visible (rest.dropWhile isSymbolChar)) := by
      refine ⟨List.cons_ne_nil _ _, List.forall_mem_cons.mpr ⟨first, ?_⟩, fun d head => ?_⟩
      · exact List.all_eq_true.mp List.all_takeWhile
      · exact (head?_visible_dropWhile head).1
    refine ⟨?_, .inr ⟨x :: rest.takeWhile isSymbolChar, ?_, ?_, ?_⟩⟩
    · exact startsBehind_scanRun ..
    · rw [scanRun_next]
      exact congrArg _ (visible_span rfl rest)
    · rw [scanRun_next]
      simp only [Cursor.span, Position.foldl_after_behind, List.append_assoc, List.singleton_append]
    · rw [scanRun_next]
      exact from_scanRun source _ isRun _

theorem Scanned.From.kind_ne {s : Scanned} {rest : List Char} (h : s.From rest text) :
    s.token.kind ≠ .endOfInput := by
  cases h with
  | opening token | closing token | symbol _ _ token | integer _ _ token => simp [token.kind]
  | comment kind | illegal _ _ _ kind => simp [kind]

theorem from_scanNext {c : Cursor} (here : c.position = .behind past) :
    ∃ gap : List Char, (∀ x ∈ gap, isGap x = true) ∧ (scanNext source c).token.StartsBehind (past ++ gap) ∧
      ((scanNext source c).token.Spans .endOfInput [] ∧ (scanNext source c).report = none ∧ visible c.rest = gap ∨
        ∃ text, visible c.rest = gap ++ text ++ visible (scanNext source c).next.rest ∧
          (scanNext source c).next.position = .behind (past ++ gap ++ text) ∧
          (scanNext source c).From (visible (scanNext source c).next.rest) text) := by
  have moved : (c.span isGap).2.position = .behind (past ++ c.rest.takeWhile isGap) := by
    simp only [Cursor.span, here, Position.foldl_after_behind]
  have solid : ∀ x ∈ (c.span isGap).2.rest.head?, isGap x = false := by
    intro x head
    have first := List.head?_dropWhile_not isGap c.rest
    change (c.rest.dropWhile isGap).head? = some x at head
    rwa [head] at first
  obtain ⟨starts, outcome⟩ := from_scanHere source moved solid
  refine ⟨c.rest.takeWhile isGap, List.all_eq_true.mp List.all_takeWhile, starts, ?_⟩
  have whole : visible c.rest = c.rest.takeWhile isGap ++ visible (c.span isGap).2.rest := visible_span rfl c.rest
  rcases outcome with ⟨token, silent, none⟩ | ⟨text, split, position, scanned⟩
  · exact .inl ⟨token, silent, by rw [whole, none, List.append_nil]⟩
  · exact .inr ⟨text, by rw [whole, split, List.append_assoc]; rfl, position, scanned⟩

theorem cuts_scanFrom (c : Cursor) :
    ∀ past, c.position = .behind past → Cuts past (visible c.rest) (scanFrom source c) := by
  fun_induction scanFrom source c with
  | case1 c s ended =>
    intro past here
    obtain ⟨gap, blank, starts, ⟨token, silent, all⟩ | ⟨text, -, -, scanned⟩⟩ := from_scanNext source here
    · rw [all]
      exact .ended blank starts token silent
    · exact (scanned.kind_ne ended).elim
  | case2 c s more ih =>
    intro past here
    obtain ⟨gap, blank, starts, ⟨token, -, -⟩ | ⟨text, split, position, scanned⟩⟩ := from_scanNext source here
    · exact (more token.kind).elim
    · rw [split]
      exact .token blank starts scanned (ih _ position)

theorem Cuts.exists_tokens {ss : List Scanned} (h : Cuts past text ss) :
    ∃ (tokens : List Scanned) (e : Scanned), ss = tokens ++ [e] ∧ e.token.kind = .endOfInput ∧ e.report = none ∧
      ∀ s ∈ tokens, ∃ rest text, s.From rest text := by
  induction h with
  | @ended _ _ s _ _ token silent => exact ⟨[], s, rfl, token.kind, silent, by simp⟩
  | @token _ _ text rest s ss _ _ scanned _ ih =>
    obtain ⟨tokens, e, rfl, ended, silent, each⟩ := ih
    exact ⟨s :: tokens, e, rfl, ended, silent, List.forall_mem_cons.mpr ⟨⟨rest, text, scanned⟩, each⟩⟩

theorem exists_scan (source input : String) :
    ∃ (ss : List Scanned) (e : Scanned), scan source input = ss ++ [e] ∧ e.token.kind = .endOfInput ∧ e.report = none ∧
      ∀ s ∈ ss, ∃ rest text, s.From rest text :=
  (cuts_scanFrom source (.ofString input) [] rfl).exists_tokens

/-- A text can be put back together from its tokens and nothing but gaps between them, each token at the line and the
column that it names. -/
theorem scan_cuts_text (source input : String) :
    Cuts [] (input.toList.takeWhile (· != '\x00')) (scan source input) :=
  cuts_scanFrom source (.ofString input) [] rfl

end Token

end FormCompiler
