import FormCompiler.Proofs.Lexemes
import FormCompiler.Proofs.Reports
import FormCompiler.Store.Basic

namespace FormCompiler

variable {t : Token} {rest : List Char} {n m : Node} {c : Char} {source : String} {p : Parameter}

namespace Token

def bare (t : Token) : Token := ⟨t.kind, t.literal, 0, 0, 0, ""⟩

/-- An atom as it is scanned: a run of symbol characters, which is an integer if it looks like one. -/
structure Legible (t : Token) : Prop where
  filled : t.literal.toList ≠ []
  chars : ∀ c ∈ t.literal.toList, isSymbolChar c = true
  kind : t.kind = if looksNumeric t.literal.toList then .integer else .symbol
  value : looksNumeric t.literal.toList = true → (Text.Numeral.read? 64 t.literal).isSome

theorem Legible.isAtom (legible : t.Legible) : t.kind = .integer ∨ t.kind = .symbol := by
  rw [legible.kind]
  split
  · exact .inl rfl
  · exact .inr rfl

theorem isGap_of_isSymbolChar (h : isSymbolChar c = true) : isGap c = false := by
  simp only [isSymbolChar, Bool.and_eq_true, Bool.not_eq_true'] at h
  exact h.1.1.1.1

theorem scanNext_of_head {c : Cursor} {x : Char} {xs : List Char} (rest : c.rest = x :: xs) (solid : isGap x = false)
    (source : String) : scanNext source c = scanHere source c := by
  obtain ⟨_, p⟩ := c
  subst rest
  have stays : (Cursor.span isGap ⟨x :: xs, p⟩).2 = ⟨x :: xs, p⟩ := by simp [Cursor.span, solid]
  rw [scanNext, stays]

theorem scanFrom_of_next {c : Cursor} (more : (scanNext source c).token.kind ≠ .endOfInput) :
    scanFrom source c = scanNext source c :: scanFrom source (scanNext source c).next := by
  rw [scanFrom]
  simp only [more, if_false]

theorem scanFrom_nil (source : String) (p : Position) :
    scanFrom source ⟨[], p⟩ = [{ token := ofText source p .endOfInput "", next := ⟨[], p⟩ }] := by
  rw [scanFrom]
  rfl

theorem scanFrom_gap (source : String) (rest : List Char) (p : Position) :
    scanFrom source ⟨' ' :: rest, p⟩ = scanFrom source ⟨rest, p.after ' '⟩ := by
  have skipped : scanNext source ⟨' ' :: rest, p⟩ = scanNext source ⟨rest, p.after ' '⟩ := rfl
  rw [scanFrom.eq_def source ⟨' ' :: rest, p⟩, scanFrom.eq_def source ⟨rest, p.after ' '⟩, skipped]

theorem span_append {run : List Char} (chars : ∀ c ∈ run, isSymbolChar c = true) (stops : Stops rest) (p : Position) :
    ∃ q, Cursor.span isSymbolChar ⟨run ++ rest, p⟩ = (run, ⟨rest, q⟩) := by
  have none : rest.takeWhile isSymbolChar = [] ∧ rest.dropWhile isSymbolChar = rest := by
    cases rest with
    | nil => exact ⟨rfl, rfl⟩
    | cons c cs => simp [stops c rfl]
  refine ⟨run.foldl Position.after p, ?_⟩
  rw [Cursor.span, List.takeWhile_append_of_pos chars, List.dropWhile_append_of_pos chars, none.1, none.2,
    List.append_nil]

theorem scanHere_atom (legible : t.Legible) (source : String) (stops : Stops rest) (p : Position) :
    ∃ s q, s.token.bare = t.bare ∧ s.report = none ∧ s.next = ⟨rest, q⟩ ∧
      scanHere source ⟨t.literal.toList ++ rest, p⟩ = s := by
  obtain ⟨x, xs, literal⟩ := List.exists_cons_of_ne_nil legible.filled
  have chars := legible.chars
  rw [literal] at chars
  obtain ⟨q, span⟩ := span_append (fun c inside => chars c (List.mem_cons_of_mem _ inside)) stops (p.after x)
  have plain := chars x List.mem_cons_self
  simp only [isSymbolChar, Bool.and_eq_true, bne_iff_ne, ne_eq] at plain
  obtain ⟨⟨⟨⟨-, left⟩, right⟩, comment⟩, nul⟩ := plain
  have run : scanHere source ⟨t.literal.toList ++ rest, p⟩ = scanRun source p t.literal.toList ⟨rest, q⟩ := by
    simp only [literal, List.cons_append, scanHere, left, right, comment, nul, if_false, Cursor.next, span]
  rw [run]
  have kind := legible.kind
  have text : String.ofList t.literal.toList = t.literal := String.ofList_toList
  simp only [scanRun, text]
  cases numeric : looksNumeric t.literal.toList with
  | false =>
    simp only [numeric, Bool.false_eq_true, if_false] at kind ⊢
    exact ⟨_, q, by rw [bare, bare, kind]; rfl, rfl, rfl, rfl⟩
  | true =>
    obtain ⟨n, value⟩ := Option.isSome_iff_exists.mp (legible.value numeric)
    simp only [numeric, if_true, value] at kind ⊢
    exact ⟨_, q, by rw [bare, bare, kind]; rfl, rfl, rfl, rfl⟩

theorem scanNext_atom (legible : t.Legible) (source : String) (rest : List Char) (p : Position) :
    scanNext source ⟨t.literal.toList ++ rest, p⟩ = scanHere source ⟨t.literal.toList ++ rest, p⟩ := by
  obtain ⟨x, xs, literal⟩ := List.exists_cons_of_ne_nil legible.filled
  have plain : isSymbolChar x = true := legible.chars x (literal ▸ List.mem_cons_self)
  exact scanNext_of_head (by rw [literal]; rfl) (isGap_of_isSymbolChar plain) source

def Scannable (t : Token) : Prop := t.Legible ∨ t.kind ∈ [.illegal, .endOfInput, .comment, .opening, .closing]

theorem Scanned.From.scannable {s : Scanned} {text : List Char} (h : s.From rest text) : s.token.Scannable := by
  cases h with
  | opening token | closing token => exact .inr (by simp [token.kind])
  | comment kind | illegal _ _ _ kind => exact .inr (by simp [kind])
  | symbol isRun other token =>
    obtain ⟨kind, rfl, -⟩ := token
    rw [startsAsInteger_iff, Bool.not_eq_true] at other
    exact .inl ⟨isRun.filled, isRun.chars, by simp [kind, other], by simp [other]⟩
  | integer isRun value token =>
    obtain ⟨kind, rfl, -⟩ := token
    have starts := value.startsAsInteger
    have read := (isInteger_iff starts).mp value
    rw [String.ofList_toList] at read
    exact .inl ⟨isRun.filled, isRun.chars, by simp [kind, (startsAsInteger_iff _).mp starts], fun _ => read⟩

theorem scannable_scan {input : String} {s : Scanned} (inside : s ∈ scan source input) : s.token.Scannable := by
  obtain ⟨ss, e, scanned, ended, -, each⟩ := exists_scan source input
  rw [scanned] at inside
  rcases List.mem_append.mp inside with before | last
  · obtain ⟨rest, text, written⟩ := each s before
    exact written.scannable
  · rw [List.mem_singleton.mp last]
    exact .inr (by simp [ended])

end Token

namespace Node

mutual
def bare : Node → Node
  | atom t => atom t.bare
  | list _ items => list ⟨.opening, "(", 0, 0, 0, ""⟩ (bareItems items)

def bareItems : List Node → List Node
  | [] => []
  | n :: ns => n.bare :: bareItems ns
end

theorem bareItems_eq_map (ns : List Node) : bareItems ns = ns.map bare := by
  induction ns with
  | nil => rfl
  | cons n ns ih => rw [bareItems, ih, List.map_cons]

inductive Legible : Node → Prop
  | atom {t : Token} (legible : t.Legible) : Legible (atom t)
  | list {paren : Token} {items : List Node} (legible : ∀ n ∈ items, Legible n) : Legible (list paren items)

@[simp] theorem Reader.place_afterIllegal (r : Reader) (n : Node) : (r.place n).afterIllegal = r.afterIllegal := by
  unfold Reader.place
  split <;> rfl

theorem Reader.foldl_place_afterIllegal (ms : List Node) (r : Reader) :
    (ms.foldl Reader.place r).afterIllegal = r.afterIllegal := by
  induction ms generalizing r with
  | nil => rfl
  | cons m ms ih => rw [List.foldl_cons, ih, place_afterIllegal]

theorem Reader.foldl_place_pending (ms : List Node) (r : Reader) (u : Unclosed) (us : List Unclosed) :
    ms.foldl Reader.place { r with pending := u :: us } =
      { r with pending := { u with items := u.items ++ ms } :: us } := by
  induction ms generalizing u with
  | nil => rw [List.append_nil]; rfl
  | cons m ms ih =>
    have placed : Reader.place { r with pending := u :: us } m =
        { r with pending := { u with items := u.items ++ [m] } :: us } := rfl
    rw [List.foldl_cons, placed, ih, List.append_assoc, List.singleton_append]

/-- Scanning passes over a piece of text that starts at `p`, to what follows it at `q`. It reports nothing,
and a reader that takes in the tokens changes as `change` says. -/
def Scans (source : String) (piece rest : List Char) (p q : Position) (change : Reader → Reader) : Prop :=
  ∃ S : List Token.Scanned, Token.scanFrom source ⟨piece ++ rest, p⟩ = S ++ Token.scanFrom source ⟨rest, q⟩ ∧
    (∀ s ∈ S, s.report = none) ∧
    ∀ r : Reader, r.afterIllegal = false → (S.map (·.token)).foldl Reader.step r = change r

namespace Scans

variable {source : String} {p q : Position}

theorem refl (rest : List Char) : Scans source [] rest p p id :=
  ⟨[], rfl, List.forall_mem_nil _, fun _ _ => rfl⟩

theorem append {a b : List Char} {m : Position} {f g : Reader → Reader} (first : Scans source a (b ++ rest) p m f)
    (keeps : ∀ r : Reader, r.afterIllegal = false → (f r).afterIllegal = false) (second : Scans source b rest m q g) :
    Scans source (a ++ b) rest p q (fun r => g (f r)) := by
  obtain ⟨S, scanS, silentS, readS⟩ := first
  obtain ⟨T, scanT, silentT, readT⟩ := second
  refine ⟨S ++ T, ?_, ?_, ?_⟩
  · rw [List.append_assoc, scanS, scanT, List.append_assoc]
  · intro s inside
    rcases List.mem_append.mp inside with inS | inT
    · exact silentS s inS
    · exact silentT s inT
  · intro r legal
    rw [List.map_append, List.foldl_append, readS r legal, readT (f r) (keeps r legal)]

theorem of_scanned {piece : List Char} {s : Token.Scanned} (scanned : Token.scanNext source ⟨piece ++ rest, p⟩ = s)
    (more : s.token.kind ≠ .endOfInput) (silent : s.report = none) (next : s.next = ⟨rest, q⟩) :
    Scans source piece rest p q (·.step s.token) := by
  have scan := Token.scanFrom_of_next (by rw [scanned]; exact more : (Token.scanNext source _).token.kind ≠ _)
  rw [scanned, next] at scan
  exact ⟨[s], scan, fun t one => List.mem_singleton.mp one ▸ silent, fun _ _ => rfl⟩

theorem gap (rest : List Char) : Scans source [' '] rest p (p.after ' ') id :=
  ⟨[], Token.scanFrom_gap source rest p, List.forall_mem_nil _, fun _ _ => rfl⟩

theorem opening (rest : List Char) : Scans source ['('] rest p (p.after '(')
    (fun r => { r with pending := ⟨.ofText source p .opening "(", []⟩ :: r.pending, afterIllegal := false }) :=
  of_scanned rfl nofun rfl rfl

theorem closing (rest : List Char) : Scans source [')'] rest p (p.after ')')
    (·.step (.ofText source p .closing ")")) :=
  of_scanned rfl nofun rfl rfl

theorem atom (legible : t.Legible) (stops : Token.Stops rest) :
    ∃ m q, m.bare = (Node.atom t).bare ∧ Scans source t.literal.toList rest p q (·.place m) := by
  obtain ⟨s, q, same, silent, next, scanned⟩ := Token.scanHere_atom legible source stops p
  have kind : s.token.bare.kind = .integer ∨ s.token.bare.kind = .symbol := by
    rw [same]
    exact legible.isAtom
  change s.token.kind = .integer ∨ s.token.kind = .symbol at kind
  refine ⟨.atom s.token, q, congrArg Node.atom same, ?_⟩
  have more : s.token.kind ≠ .endOfInput := by
    rcases kind with integer | symbol
    · simp [integer]
    · simp [symbol]
  obtain ⟨S, scan, silents, readS⟩ :=
    of_scanned ((Token.scanNext_atom legible source rest p).trans scanned) more silent next
  refine ⟨S, scan, silents, ?_⟩
  intro r legal
  have clear : { r with afterIllegal := false } = r := by rw [← legal]
  have step : r.step s.token = { r with afterIllegal := false }.place (.atom s.token) := by
    rcases kind with integer | symbol
    · simp only [Reader.step, integer]
    · simp only [Reader.step, symbol]
  rw [clear] at step
  exact (readS r legal).trans step

end Scans

theorem stops_of_not_isSymbolChar (h : Token.isSymbolChar c = false) (rest : List Char) :
    Token.Stops (c :: rest) := by
  intro d head
  cases head
  exact h

theorem exists_scans_textItems (ns : List Node)
    (each : ∀ n ∈ ns, ∀ (rest : List Char) (p : Position), Token.Stops rest → ∃ m q, m.bare = n.bare ∧
      Scans source n.text.toList rest p q (·.place m))
    (stops : Token.Stops rest) (p : Position) :
    ∃ (ms : List Node) (q : Position), ms.map bare = ns.map bare ∧
      Scans source (textItems ns).toList rest p q (fun r => ms.foldl Reader.place r) := by
  match ns with
  | [] => exact ⟨[], p, rfl, .refl rest⟩
  | [n] =>
    obtain ⟨m, q, same, scans⟩ := each n List.mem_cons_self rest p stops
    exact ⟨[m], q, by simp [same], scans⟩
  | n :: k :: ns =>
    obtain ⟨m, q, same, scans⟩ := each n List.mem_cons_self (' ' :: ((textItems (k :: ns)).toList ++ rest)) p
      (stops_of_not_isSymbolChar rfl _)
    obtain ⟨ms, q', same', scans'⟩ := exists_scans_textItems (k :: ns)
      (fun n inside => each n (List.mem_cons_of_mem _ inside)) stops (q.after ' ')
    refine ⟨m :: ms, q', by simp [same, same'], ?_⟩
    have behind := (Scans.gap _).append (fun _ legal => legal) scans'
    have whole := scans.append (fun r legal => by simpa using legal) behind
    simpa [textItems, List.append_assoc] using whole

theorem Legible.exists_scans (legible : n.Legible) (source : String) (rest : List Char) (p : Position)
    (stops : Token.Stops rest) : ∃ m q, m.bare = n.bare ∧ Scans source n.text.toList rest p q (·.place m) := by
  induction legible generalizing rest p with
  | atom legible => exact Scans.atom legible stops
  | @list paren items _ ih =>
    obtain ⟨ms, q, same, scans⟩ := exists_scans_textItems items ih
      (stops_of_not_isSymbolChar rfl rest : Token.Stops (')' :: rest)) (p.after '(')
    refine ⟨.list (.ofText source p .opening "(") ms, q.after ')', ?_, ?_⟩
    · rw [bare, bare, bareItems_eq_map, bareItems_eq_map, same]
    have inner := scans.append (fun r legal => by rwa [Reader.foldl_place_afterIllegal]) (.closing rest)
    obtain ⟨S, scan, silent, readS⟩ := (Scans.opening _).append (fun _ _ => rfl) inner
    refine ⟨S, by simpa [text] using scan, silent, ?_⟩
    intro r legal
    have clear : { r with afterIllegal := false } = r := by rw [← legal]
    rw [readS r legal]
    show ((ms.foldl Reader.place { { r with afterIllegal := false } with
      pending := ⟨.ofText source p .opening "(", []⟩ :: r.pending })).step _ = _
    rw [clear, Reader.foldl_place_pending, List.nil_append]
    show Reader.place { { r with afterIllegal := false } with pending := r.pending } _ = _
    rw [clear]

theorem Legible.exists_readOne (legible : n.Legible) (source : String) :
    ∃ m, readOne source n.text = .ok m ∧ m.bare = n.bare := by
  obtain ⟨m, q, same, S, scan, silent, readS⟩ := legible.exists_scans source [] {} (by intro c none; cases none)
  rw [List.append_nil, Token.scanFrom_nil] at scan
  have scanned : Token.scan source n.text = S ++ [_] := scan
  have placed : Reader.run ((Token.scan source n.text).map (·.token)) = Reader.place {} m := by
    rw [scanned, Reader.run, List.map_append, List.foldl_append, readS {} rfl]
    rfl
  have unreported : (Token.scan source n.text).filterMap (·.report) = [] := by
    rw [scanned, List.filterMap_append, List.filterMap_eq_nil_iff.mpr silent]
    rfl
  refine ⟨m, ?_, same⟩
  simp only [readOne, Node.read, placed, unreported]
  rfl

namespace Reader

structure Legible (r : Reader) : Prop where
  nodes : ∀ n ∈ r.nodes, n.Legible
  pending : ∀ u ∈ r.pending, ∀ n ∈ u.items, n.Legible

variable {r : Reader}

theorem Legible.afterIllegal (legible : r.Legible) (b : Bool) : Legible { r with afterIllegal := b } :=
  ⟨legible.nodes, legible.pending⟩

theorem Legible.place (legible : r.Legible) (fits : n.Legible) : (r.place n).Legible := by
  have grown {ns : List Node} (all : ∀ m ∈ ns, m.Legible) : ∀ m ∈ ns ++ [n], m.Legible := by
    intro m inside
    rcases List.mem_append.mp inside with old | new
    · exact all m old
    · rw [List.mem_singleton.mp new]
      exact fits
  unfold Reader.place
  split
  · exact ⟨grown legible.nodes, legible.pending⟩
  · rename_i u us pending
    have all := legible.pending
    rw [pending] at all
    refine ⟨legible.nodes, ?_⟩
    intro v inside
    rcases List.mem_cons.mp inside with same | inside
    · rw [same]
      exact grown (all u List.mem_cons_self)
    · exact all v (List.mem_cons_of_mem _ inside)

theorem Legible.step (legible : r.Legible) (scannable : t.Scannable) : (r.step t).Legible := by
  unfold Reader.step
  split
  · exact legible
  · exact legible
  · exact legible.afterIllegal true
  · refine ⟨legible.nodes, ?_⟩
    intro u inside
    rcases List.mem_cons.mp inside with same | inside
    · rw [same]
      exact List.forall_mem_nil _
    · exact legible.pending u inside
  · split
    · exact ⟨legible.nodes, legible.pending⟩
    · rename_i u us pending
      have all := legible.pending
      rw [pending] at all
      apply Legible.place
      · exact ⟨legible.nodes, fun v inside => all v (List.mem_cons_of_mem _ inside)⟩
      · exact .list (all u List.mem_cons_self)
  · rename_i comment ended illegal opening closing
    apply (legible.afterIllegal false).place
    rcases scannable with atom | other
    · exact .atom atom
    · simp only [List.mem_cons, List.not_mem_nil, or_false] at other
      rcases other with kind | kind | kind | kind | kind
      · exact (illegal kind).elim
      · exact (ended kind).elim
      · exact (comment kind).elim
      · exact (opening kind).elim
      · exact (closing kind).elim

end Reader

theorem legible_of_mem_read {input : String} (inside : n ∈ (Node.read source input).nodes) : n.Legible := by
  have run (tokens : List Token) (all : ∀ t ∈ tokens, t.Scannable) (r : Reader) (legible : r.Legible) :
      (tokens.foldl Reader.step r).Legible := by
    induction tokens generalizing r with
    | nil => exact legible
    | cons t ts ih =>
      exact ih (fun t inside => all t (List.mem_cons_of_mem _ inside)) _ (legible.step (all t List.mem_cons_self))
  refine (run _ ?_ {} ⟨?_, ?_⟩).nodes n inside
  · intro t inside
    obtain ⟨s, scanned, rfl⟩ := List.mem_map.mp inside
    exact Token.scannable_scan scanned
  · exact List.forall_mem_nil _
  · exact List.forall_mem_nil _

/-- Each node that is read from any text is read back from its own text. -/
theorem text_reads_back {source input : String} {n : Node} (inside : n ∈ (read source input).nodes) (source' : String) :
    ∃ m, readOne source' n.text = .ok m ∧ m.bare = n.bare :=
  (legible_of_mem_read inside).exists_readOne source'

/-- A node between what is not legal, what closes nothing and what is never closed. -/
theorem text_reads_back_between_reports : ∃ n ∈ (read "a" ") 7z (f -05 (a.b () -);c\n) (g").nodes,
    n.text = "(f -05 (a.b () -))" ∧ (read "a" ") 7z (f -05 (a.b () -);c\n) (g").reports.length = 3 ∧
    ∃ m, readOne "b" "(f -05 (a.b () -))" = .ok m ∧ m.bare = n.bare := by
  have texts : (read "a" ") 7z (f -05 (a.b () -);c\n) (g").nodes.map text = ["(f -05 (a.b () -))"] := by decide +kernel
  obtain ⟨n, nodes, text⟩ := List.map_eq_singleton_iff.mp texts
  have inside : n ∈ (read "a" ") 7z (f -05 (a.b () -);c\n) (g").nodes := nodes ▸ List.mem_singleton_self n
  exact ⟨n, inside, text, by decide +kernel, text ▸ text_reads_back inside "b"⟩

end Node

namespace Text.Numeral

theorem isDigit_of_mem_digits {n : Nat} (inside : c ∈ digits n) : c.isDigit = true :=
  Nat.isDigit_of_mem_toDigits (by decide) (by decide) inside

theorem magnitude?_digits (n : Nat) : magnitude? (digits n) = some n := by
  have digit : (digits n).all Char.isDigit = true :=
    List.all_eq_true.mpr fun _ inside => isDigit_of_mem_digits inside
  have filled : (digits n).isEmpty = false := List.isEmpty_eq_false_iff.mpr Nat.toDigits_ne_nil
  rw [magnitude?, filled, digit]
  exact congrArg some Nat.ofDigitChars_ten_toDigits

theorem exists_digits (n : Nat) : ∃ c cs, digits n = c :: cs ∧ c.isDigit = true := by
  obtain ⟨c, cs, split⟩ := List.exists_cons_of_ne_nil (Nat.toDigits_ne_nil (n := n) (b := 10))
  have first : c ∈ digits n := by
    rw [digits, split]
    exact List.mem_cons_self
  exact ⟨c, cs, split, isDigit_of_mem_digits first⟩

theorem signed?_digits (n : Nat) : signed? (digits n) = some (n : Int) := by
  obtain ⟨c, cs, split, digit⟩ := exists_digits n
  rw [split, signed?_of_isDigit digit, ← split, magnitude?_digits]
  rfl

theorem read?_ofNat {bits n : Nat} (fits : Fits bits n) : read? bits (ofNat n) = some (n : Int) := by
  rw [read?, ofNat, String.toList_ofList, signed?_digits]
  simp [fits]

end Text.Numeral

theorem Token.isSymbolChar_of_isDigit (digit : c.isDigit = true) : isSymbolChar c = true := by
  have other {d : Char} (plain : d.isDigit = false) : c ≠ d := by
    intro same
    rw [same, plain] at digit
    cases digit
  simp [isSymbolChar, isGap, other (d := ' ') rfl, other (d := '\t') rfl, other (d := '\n') rfl,
    other (d := '\r') rfl, other (d := '(') rfl, other (d := ')') rfl, other (d := ';') rfl,
    other (d := '\x00') rfl]

theorem Token.looksNumeric_of_isDigit {cs : List Char} (digit : c.isDigit = true) :
    looksNumeric (c :: cs) = true := by
  unfold looksNumeric
  split
  · rename_i same
    obtain ⟨rfl, -⟩ := List.cons.inj same
    exact absurd digit (by decide)
  · rename_i same
    obtain ⟨rfl, -⟩ := List.cons.inj same
    exact digit
  · rename_i same
    cases same

theorem Token.Legible.of_bare {s : Token} (legible : t.Legible) (same : s.bare = t.bare) : s.Legible := by
  obtain ⟨kind, literal⟩ : s.kind = t.kind ∧ s.literal = t.literal := by
    simp only [bare, Token.mk.injEq] at same
    exact ⟨same.1, same.2.1⟩
  obtain ⟨filled, chars, kinds, value⟩ := legible
  rw [← literal] at filled chars kinds value
  exact ⟨filled, chars, kind.trans kinds, value⟩

namespace Node

def word (s : String) : Node := .atom (.synthetic s "")

def numeral (n : Int) : Node := .atom ⟨.integer, Text.Numeral.ofInt n, 0, 0, 0, ""⟩

def form (items : List Node) : Node := .list ⟨.opening, "(", 0, 0, 0, ""⟩ items

theorem legible_word {s : String}
    (plain : (!s.toList.isEmpty && s.toList.all Token.isSymbolChar && !Token.looksNumeric s.toList) = true) :
    (word s).Legible := by
  simp only [Bool.and_eq_true, Bool.not_eq_true', List.isEmpty_eq_false_iff, List.all_eq_true] at plain
  obtain ⟨⟨filled, chars⟩, other⟩ := plain
  have kind : Token.Kind.symbol = if Token.looksNumeric s.toList then .integer else .symbol := by
    rw [other]
    rfl
  refine .atom ⟨filled, chars, kind, ?_⟩
  intro numeric
  exact absurd (numeric.symm.trans other) (by decide)

theorem legible_numeral {n : Int} (positive : 0 < n) (fits : Text.Numeral.Fits 64 n) : (numeral n).Legible := by
  obtain ⟨k, rfl⟩ := Int.eq_ofNat_of_zero_le (Int.le_of_lt positive)
  obtain ⟨c, cs, split, digit⟩ := Text.Numeral.exists_digits k
  have letters : (Text.Numeral.ofNat k).toList = Text.Numeral.digits k := String.toList_ofList
  have numeric : Token.looksNumeric (Text.Numeral.digits k) = true := by
    rw [split]
    exact Token.looksNumeric_of_isDigit digit
  have value : (Text.Numeral.read? 64 (Text.Numeral.ofNat k)).isSome := by
    rw [Text.Numeral.read?_ofNat fits]
    rfl
  refine .atom ⟨?_, ?_, ?_, fun _ => value⟩
  · show (Text.Numeral.ofNat k).toList ≠ []
    rw [letters, split]
    exact List.cons_ne_nil _ _
  · show ∀ d ∈ (Text.Numeral.ofNat k).toList, _
    rw [letters]
    exact fun d inside => Token.isSymbolChar_of_isDigit (Text.Numeral.isDigit_of_mem_digits inside)
  · show Token.Kind.integer = if Token.looksNumeric (Text.Numeral.ofNat k).toList then _ else _
    rw [letters, if_pos numeric]

theorem legible_form {items : List Node} (each : ∀ n ∈ items, n.Legible) : (form items).Legible := .list each

section Bare

variable {m : Node}

theorem atom_of_bare (same : m.bare = (atom t).bare) : ∃ s, m = atom s ∧ s.bare = t.bare := by
  cases m with
  | atom s => exact ⟨s, rfl, Node.atom.inj same⟩
  | list paren items => cases same

theorem form_of_bare {items : List Node} (same : m.bare = (form items).bare) :
    ∃ paren ms, m = list paren ms ∧ ms.map bare = items.map bare := by
  cases m with
  | atom s => cases same
  | list paren ms =>
    refine ⟨paren, ms, rfl, ?_⟩
    rw [← bareItems_eq_map, ← bareItems_eq_map]
    exact (Node.list.inj same).2

theorem pair_of_bare {a b : Node} (same : m.bare = (form [a, b]).bare) :
    ∃ paren x y, m = list paren [x, y] ∧ x.bare = a.bare ∧ y.bare = b.bare := by
  obtain ⟨paren, ms, rfl, items⟩ := form_of_bare same
  obtain ⟨x, ms, rfl, first, items⟩ := List.map_eq_cons_iff.mp items
  obtain ⟨y, ms, rfl, second, items⟩ := List.map_eq_cons_iff.mp items
  obtain rfl := List.map_eq_nil_iff.mp items
  exact ⟨paren, x, y, rfl, first, second⟩

theorem triple_of_bare {a b c : Node} (same : m.bare = (form [a, b, c]).bare) :
    ∃ paren x y z, m = list paren [x, y, z] ∧ x.bare = a.bare ∧ y.bare = b.bare ∧ z.bare = c.bare := by
  obtain ⟨paren, ms, rfl, items⟩ := form_of_bare same
  obtain ⟨x, ms, rfl, first, items⟩ := List.map_eq_cons_iff.mp items
  obtain ⟨y, ms, rfl, second, items⟩ := List.map_eq_cons_iff.mp items
  obtain ⟨z, ms, rfl, third, items⟩ := List.map_eq_cons_iff.mp items
  obtain rfl := List.map_eq_nil_iff.mp items
  exact ⟨paren, x, y, z, rfl, first, second, third⟩

theorem symbol?_of_bare_word {s : String} (same : m.bare = (word s).bare) : m.symbol? = some s := by
  obtain ⟨t, rfl, tokens⟩ := atom_of_bare same
  have literal := congrArg Token.literal tokens
  have kind := congrArg Token.kind tokens
  change t.kind = .symbol at kind
  change t.literal = s at literal
  rw [symbol?, if_pos kind, literal]

theorem literal_of_bare_numeral {n : Int} (same : m.bare = (numeral n).bare) :
    m.literal = Text.Numeral.ofInt n := by
  obtain ⟨t, rfl, tokens⟩ := atom_of_bare same
  exact congrArg Token.literal tokens

end Bare

theorem textItems_eq_intercalate (ns : List Node) : textItems ns = " ".intercalate (ns.map text) := by
  match ns with
  | [] => rfl
  | [n] => rw [textItems, List.map_singleton, String.intercalate_singleton]
  | n :: m :: ns =>
    rw [textItems, textItems_eq_intercalate (m :: ns)]
    exact String.intercalate_cons_cons.symm

theorem text_form_word (s : String) (items : List Node) :
    (form (word s :: items)).text = "(" ++ " ".intercalate (s :: items.map text) ++ ")" := by
  rw [form, text, textItems_eq_intercalate]
  rfl

end Node

namespace Base

theorem ofName?_name (b : Base) : ofName? b.name = some b := by cases b <;> decide

theorem legible (b : Base) : (Node.word b.name).Legible := by
  cases b <;> exact Node.legible_word (by decide)

end Base

namespace Ty

/-- A type that can be written: no part of it is left out, and every size is one that can be read. -/
def Written : Ty → Prop
  | missing => False
  | base .. => True
  | pointer t _ => t.Written
  | array n t _ => 0 < n ∧ Text.Numeral.Fits 64 n ∧ t.Written

def enclose (marked : Bool) (n : Node) : Node := if marked then .form [.word "retval", n] else n

def toNode : Ty → Node
  | missing => .word "<nil>"
  | base b m => enclose m (.word b.name)
  | pointer t m => enclose m (.form [.word "p", t.toNode])
  | array n t m => enclose m (.form [.word "array-of", .numeral n, t.toNode])

theorem text_enclose (marked : Bool) (n : Node) : (enclose marked n).text = text.mark marked n.text := by
  cases marked with
  | false => rfl
  | true => exact Node.text_form_word "retval" [n]

theorem text_toNode (t : Ty) : t.toNode.text = t.text := by
  induction t with
  | missing => rfl
  | base b m => rw [toNode, text_enclose]; rfl
  | pointer t m ih =>
    rw [toNode, text_enclose, text, ← ih]
    exact congrArg _ (Node.text_form_word "p" [t.toNode])
  | array n t m ih =>
    rw [toNode, text_enclose, text, ← ih]
    exact congrArg _ (Node.text_form_word "array-of" [.numeral n, t.toNode])

theorem legible_enclose {marked : Bool} (legible : n.Legible) : (enclose marked n).Legible := by
  cases marked with
  | false => exact legible
  | true =>
    apply Node.legible_form
    intro m inside
    simp only [List.mem_cons, List.not_mem_nil, or_false] at inside
    rcases inside with rfl | rfl
    · exact Node.legible_word (by decide)
    · exact legible

theorem Written.legible {t : Ty} (written : t.Written) : t.toNode.Legible := by
  induction t with
  | missing => cases written
  | base b m => exact legible_enclose (b.legible)
  | pointer t m ih =>
    apply legible_enclose
    apply Node.legible_form
    intro n inside
    simp only [List.mem_cons, List.not_mem_nil, or_false] at inside
    rcases inside with rfl | rfl
    · exact Node.legible_word (by decide)
    · exact ih written
  | array k t m ih =>
    obtain ⟨positive, fits, written⟩ := written
    apply legible_enclose
    apply Node.legible_form
    intro n inside
    simp only [List.mem_cons, List.not_mem_nil, or_false] at inside
    rcases inside with rfl | rfl | rfl
    · exact Node.legible_word (by decide)
    · exact Node.legible_numeral positive fits
    · exact ih written

theorem read_base {s : Token} {b : Base} (symbol : (Node.atom s).symbol? = some b.name) :
    read (.atom s) = .ok (.of b) := by
  rw [read, symbol, Option.bind_some, Base.ofName?_name]

theorem read_array {paren : Token} {head size x : Node} (symbol : head.symbol? = some "array-of") {n : Int} {t : Ty}
    (sized : readSize size = .ok n) (of : read x = .ok t) : read (.list paren [head, size, x]) = .ok (arrayOf n t) := by
  simp only [read, symbol, sized, of]
  rfl

theorem read_pair {paren : Token} {head x : Node} {t : Ty} (inner : read x = .ok t) :
    (head.symbol? = some "p" → read (.list paren [head, x]) = .ok (pointerTo t)) ∧
      (head.symbol? = some "retval" → read (.list paren [head, x]) = .ok t.mark) := by
  constructor
  · intro symbol
    simp only [read, symbol, inner]
    rfl
  · intro symbol
    simp only [read, symbol, inner]
    rfl

theorem read_enclose {t : Ty} (inner : ∀ m : Node, m.bare = n.bare → read m = .ok t) (plain : t.withMark false = t)
    {marked : Bool} (same : m.bare = (enclose marked n).bare) : read m = .ok (t.withMark marked) := by
  cases marked with
  | false => rw [plain, inner m same]
  | true =>
    obtain ⟨paren, head, x, rfl, first, second⟩ := Node.pair_of_bare same
    exact (read_pair (inner x second)).2 (Node.symbol?_of_bare_word first)

theorem readSize_of_bare {n : Int} (positive : 0 < n) (fits : Text.Numeral.Fits 64 n)
    (same : m.bare = (Node.numeral n).bare) : readSize m = .ok n := by
  obtain ⟨k, rfl⟩ := Int.eq_ofNat_of_zero_le (Int.le_of_lt positive)
  have value : Text.Numeral.read? 64 m.literal = some (k : Int) := by
    rw [Node.literal_of_bare_numeral same]
    exact Text.Numeral.read?_ofNat fits
  simp only [readSize, value, positive, if_true]

theorem Written.read {t : Ty} (written : t.Written) (same : m.bare = t.toNode.bare) : Ty.read m = .ok t := by
  induction t generalizing m with
  | missing => cases written
  | base b marked =>
    refine read_enclose (t := .of b) (n := .word b.name) ?_ rfl same
    intro m same
    obtain ⟨s, rfl, -⟩ := Node.atom_of_bare same
    exact read_base (Node.symbol?_of_bare_word same)
  | pointer t marked ih =>
    refine read_enclose (t := pointerTo t) ?_ rfl same
    intro m same
    obtain ⟨paren, head, x, rfl, first, second⟩ := Node.pair_of_bare same
    exact (read_pair (ih written second)).1 (Node.symbol?_of_bare_word first)
  | array n t marked ih =>
    obtain ⟨positive, fits, written⟩ := written
    refine read_enclose (t := arrayOf n t) ?_ rfl same
    intro m same
    obtain ⟨paren, head, size, x, rfl, first, second, third⟩ := Node.triple_of_bare same
    exact read_array (Node.symbol?_of_bare_word first) (readSize_of_bare positive fits second) (ih written third)

theorem Written.mark {t : Ty} (written : t.Written) : t.mark.Written := by
  cases t with
  | missing => cases written
  | base | pointer | array => exact written

theorem ends_readSize_written (n : Node) :
    Ends (readSize n) (fun k => 0 < k ∧ Text.Numeral.Fits 64 k) fun _ => True := by
  unfold readSize
  split
  · rename_i size value
    refine .ite (fun positive => ?_) fun _ => trivial
    have fits := (Option.filter_eq_some_iff.mp value).2
    exact ⟨positive, of_decide_eq_true fits⟩
  · trivial

theorem ends_read_written (n : Node) : Ends (Ty.read n) Written fun _ => True := by
  fun_induction Ty.read n with
  | case1 => trivial
  | case3 _ _ _ _ ih => exact ih.map fun t written => written
  | case4 _ _ _ _ ih => exact ih.map fun t written => written.mark
  | case6 _ _ size _ _ ih =>
    exact .bind (ends_readSize_written size) fun k sized => ih.bind fun t written => ⟨sized.1, sized.2, written⟩
  | case2 | case5 | case7 | case8 => trivial

end Ty

namespace Parameter

structure Written (p : Parameter) : Prop where
  name : (Node.word p.name).Legible
  type : p.type.Written
  plain : (p.type.isVoid || p.type.isVariadic || p.type.isMarked) = false

inductive Listed : List Parameter → Prop
  | nil : Listed []
  | marker (token : Option Token) : Listed [⟨"...", .variadic, token⟩]
  | cons {p : Parameter} {ps : List Parameter} (written : p.Written) (others : Listed ps) : Listed (p :: ps)

def toNode (p : Parameter) : Node :=
  if p.type.isVariadic then .word "..." else .form [.word p.name, p.type.toNode]

theorem text_toNode (p : Parameter) : p.toNode.text = Record.paramText p := by
  unfold toNode Record.paramText
  split
  · rfl
  · rw [Node.text_form_word, List.map_singleton, Ty.text_toNode, String.intercalate_cons_cons,
      String.intercalate_singleton]
    simp [String.append_assoc]

theorem Written.isVariadic (written : p.Written) : p.type.isVariadic = false := by
  have plain := written.plain
  simp only [Bool.or_eq_false_iff] at plain
  exact plain.1.2

theorem Written.toNode_eq (written : p.Written) : p.toNode = .form [.word p.name, p.type.toNode] := by
  rw [toNode, written.isVariadic]
  rfl

theorem Listed.legible {ps : List Parameter} (listed : Listed ps) : ∀ n ∈ ps.map toNode, n.Legible := by
  induction listed with
  | nil => exact List.forall_mem_nil _
  | marker =>
    intro n inside
    rw [List.mem_singleton.mp inside]
    exact Node.legible_word (by decide)
  | @cons p ps written _ ih =>
    intro n inside
    rcases List.mem_cons.mp inside with first | later
    · rw [first, written.toNode_eq]
      apply Node.legible_form
      intro m inside
      simp only [List.mem_cons, List.not_mem_nil, or_false] at inside
      rcases inside with rfl | rfl
      · exact written.name
      · exact written.type.legible
    · exact ih n later

theorem Written.readParam (written : p.Written) (same : m.bare = p.toNode.bare) :
    ∃ q, Definition.readParam m = .ok q ∧ q.name = p.name ∧ q.type = p.type ∧ m.isList = true := by
  rw [written.toNode_eq] at same
  obtain ⟨paren, head, x, rfl, first, second⟩ := Node.pair_of_bare same
  refine ⟨⟨p.name, p.type, some head.token⟩, ?_, rfl, rfl, rfl⟩
  simp only [Definition.readParam, Node.symbol?_of_bare_word first, written.type.read second]
  show (if (p.type.isVoid || p.type.isVariadic || p.type.isMarked) = true then _ else _) = _
  rw [written.plain]
  rfl

theorem Listed.readParams {ps : List Parameter} (listed : Listed ps) {ms : List Node}
    (same : ms.map Node.bare = (ps.map toNode).map Node.bare) :
    ∃ qs, Definition.readParams ms = .ok qs ∧ qs.map (·.name) = ps.map (·.name) ∧
      qs.map (·.type) = ps.map (·.type) := by
  induction listed generalizing ms with
  | nil =>
    obtain rfl : ms = [] := List.map_eq_nil_iff.mp same
    exact ⟨[], rfl, rfl, rfl⟩
  | marker =>
    obtain ⟨m, ms, rfl, first, rest⟩ := List.map_eq_cons_iff.mp same
    obtain rfl := List.map_eq_nil_iff.mp rest
    refine ⟨[⟨"...", .variadic, some m.token⟩], ?_, rfl, rfl⟩
    simp only [Definition.readParams, Node.symbol?_of_bare_word (s := "...") first, if_true]
    rfl
  | @cons p ps written _ ih =>
    obtain ⟨m, ms, rfl, first, others⟩ := List.map_eq_cons_iff.mp same
    obtain ⟨q, readFirst, name, type, isList⟩ := written.readParam first
    obtain ⟨qs, readOthers, names, types⟩ := ih others
    have unmarked : m.symbol? ≠ some "..." := by
      cases m with
      | atom => cases isList
      | list => simp [Node.symbol?]
    refine ⟨q :: qs, ?_, ?_, ?_⟩
    · simp only [Definition.readParams, if_neg unmarked, readFirst, readOthers]
      rfl
    · rw [List.map_cons, List.map_cons, name, names]
    · rw [List.map_cons, List.map_cons, type, types]

theorem written_of_readParam (legible : n.Legible) : Ends (Definition.readParam n) Written fun _ => True := by
  unfold Definition.readParam
  split
  · rename_i paren nameNode typeNode
    split
    · trivial
    · rename_i name symbol
      refine (Ty.ends_read_written typeNode).bind fun type written => ?_
      refine .ite (fun _ => trivial) fun plain => ⟨?_, written, (Bool.not_eq_true _).mp plain⟩
      cases legible with
      | list each =>
        have atom := each nameNode List.mem_cons_self
        cases atom with
        | list => cases symbol
        | @atom t legible =>
          simp only [Node.symbol?] at symbol
          split at symbol
          · rename_i kind
            cases symbol
            exact .atom (legible.of_bare (by simp [Token.bare, Token.synthetic, kind]))
          · cases symbol
  · trivial

theorem ends_readParams_listed {ns : List Node} (legible : ∀ n ∈ ns, n.Legible) :
    Ends (Definition.readParams ns) Listed fun _ => True := by
  induction ns with
  | nil => exact .nil
  | cons n ns ih =>
    refine .ite (fun _ => .ite (fun _ => trivial) fun _ => .marker _) fun _ => ?_
    refine (written_of_readParam (legible n List.mem_cons_self)).bind fun p written => ?_
    exact (ih fun m inside => legible m (List.mem_cons_of_mem _ inside)).bind fun ps listed => .cons written listed

end Parameter

end FormCompiler
