import FormCompiler.Console.Interactive
import FormCompiler.Proofs.Parentheses

namespace FormCompiler

/-- How many parentheses a text opens, less those that it closes. A comment reaches to the end of its line. -/
def depthFrom (commented : Bool) : List Char → Int
  | [] => 0
  | c :: cs =>
    if c = '\n' then depthFrom false cs
    else if commented || c = ';' then depthFrom true cs
    else if c = '(' then 1 + depthFrom false cs
    else if c = ')' then -1 + depthFrom false cs
    else depthFrom false cs

section Lines

variable {line rest : List Char} (inside : '\n' ∉ line) (stops : ∀ c ∈ rest.head?, c = '\n')
include inside stops

theorem depthFrom_comment : depthFrom true (line ++ rest) = depthFrom false rest := by
  induction line with
  | nil =>
    cases rest with
    | nil => rfl
    | cons c cs =>
      obtain rfl := stops c rfl
      rfl
  | cons c line ih =>
    obtain ⟨first, others⟩ := not_or.mp (mt List.mem_cons.mpr inside)
    rw [List.cons_append, depthFrom, if_neg (Ne.symm first)]
    exact ih others

theorem depthFrom_line : depthFrom false (line ++ rest) = parenDepthOf line + depthFrom false rest := by
  induction line with
  | nil => exact (Int.zero_add _).symm
  | cons c line ih =>
    obtain ⟨first, others⟩ := not_or.mp (mt List.mem_cons.mpr inside)
    rw [List.cons_append, depthFrom, if_neg (Ne.symm first), parenDepthOf, ih others]
    by_cases comment : c = ';'
    · simp [comment, depthFrom_comment others stops]
    · simp only [comment, decide_false, Bool.or_self, Bool.false_eq_true, if_false]
      split
      · omega
      · split
        · omega
        · rfl

end Lines

theorem foldl_parenDepth (lines : List String) (plain : ∀ line ∈ lines, '\n' ∉ line.toList) (d : Int) :
    lines.foldl (fun d line => d + parenDepth line) d = d + depthFrom false ("\n".intercalate lines).toList := by
  induction lines generalizing d with
  | nil => exact (Int.add_zero d).symm
  | cons line lines ih =>
    obtain ⟨first, others⟩ := List.forall_mem_cons.mp plain
    rw [List.foldl_cons, ih others]
    cases lines with
    | nil =>
      have alone : depthFrom false (line.toList ++ []) = _ := depthFrom_line first (by simp)
      rw [String.intercalate_singleton, ← List.append_nil line.toList, alone]
      exact Int.add_assoc ..
    | cons next lines =>
      rw [String.intercalate_cons_cons, String.toList_append, String.toList_append, List.append_assoc,
        depthFrom_line first (by simp)]
      exact Int.add_assoc ..

theorem nul_notMem_intercalate {lines : List String} (plain : ∀ line ∈ lines, '\x00' ∉ line.toList) :
    '\x00' ∉ ("\n".intercalate lines).toList := by
  induction lines with
  | nil => simp
  | cons line lines ih =>
    obtain ⟨first, others⟩ := List.forall_mem_cons.mp plain
    cases lines with
    | nil => rwa [String.intercalate_singleton]
    | cons next lines =>
      rw [String.intercalate_cons_cons, String.toList_append, String.toList_append, List.mem_append, List.mem_append]
      rintro ((here | between) | later)
      · exact first here
      · cases List.mem_singleton.mp between
      · exact ih others later

namespace Token

theorem depthFrom_skip {text : List Char} (rest : List Char)
    (skipped : ∀ c ∈ text, c ≠ ';' ∧ c ≠ '(' ∧ c ≠ ')') : depthFrom false (text ++ rest) = depthFrom false rest := by
  induction text with
  | nil => rfl
  | cons c text ih =>
    obtain ⟨⟨comment, left, right⟩, others⟩ := List.forall_mem_cons.mp skipped
    simp only [List.cons_append, depthFrom, comment, left, right, decide_false, Bool.or_self,
      Bool.false_eq_true, if_false,
      ih others, ite_self]

theorem depth_of_from {s : Scanned} {rest text : List Char} (scanned : s.From rest text) (ts : List Token) :
    depth (s.token :: ts) + depthFrom false rest = depth ts + depthFrom false (text ++ rest) := by
  have run {text : List Char} (isRun : IsRun text rest) : depthFrom false (text ++ rest) = depthFrom false rest := by
    refine depthFrom_skip rest fun c inside => ?_
    have symbol := isRun.chars c inside
    simp only [isSymbolChar, Bool.and_eq_true, bne_iff_ne] at symbol
    exact ⟨symbol.1.2, symbol.1.1.1.2, symbol.1.1.2⟩
  cases scanned with
  | opening token =>
    rw [depth_opening token.kind]
    show _ = depth ts + (1 + depthFrom false rest)
    omega
  | closing token =>
    rw [depth_closing token.kind]
    show _ = depth ts + (-1 + depthFrom false rest)
    omega
  | comment kind _ inside stops =>
    rw [depth_other (by simp [kind]) (by simp [kind])]
    exact congrArg _ (depthFrom_comment inside stops).symm
  | symbol isRun _ token | integer isRun _ token =>
    rw [depth_other (by simp [token.kind]) (by simp [token.kind]), run isRun]
  | illegal isRun _ _ kind => rw [depth_other (by simp [kind]) (by simp [kind]), run isRun]

theorem depth_of_cuts {past text : List Char} {ss : List Scanned} (h : Cuts past text ss) :
    depth (ss.map (·.token)) = depthFrom false text := by
  have gaps {gap : List Char} (blank : ∀ c ∈ gap, isGap c = true) (rest : List Char) :
      depthFrom false (gap ++ rest) = depthFrom false rest := by
    refine depthFrom_skip rest fun c inside => ⟨?_, ?_, ?_⟩ <;> rintro rfl <;> cases blank _ inside
  induction h with
  | ended blank _ token =>
    have nothing := gaps blank []
    rw [List.append_nil] at nothing
    rw [nothing, List.map_singleton, depth_other (by simp [token.kind]) (by simp [token.kind])]
    rfl
  | @token _ gap text rest s ss blank _ scanned _ ih =>
    have counted := depth_of_from scanned (ss.map (·.token))
    rw [List.map_cons, List.append_assoc, gaps blank]
    omega

theorem depth_scan (source : String) {input : String} (plain : '\x00' ∉ input.toList) :
    depth ((scan source input).map (·.token)) = depthFrom false input.toList := by
  have shown : ∀ c ∈ input.toList, (c != '\x00') = true := by
    refine fun c inside => bne_iff_ne.mpr ?_
    rintro rfl
    exact plain inside
  have whole : (input.toList ++ []).takeWhile (· != '\x00') = _ := List.takeWhile_append_of_pos shown
  rw [List.takeWhile_nil, List.append_nil] at whole
  have counted := depth_of_cuts (cuts_scanFrom source (.ofString input) [] rfl)
  rwa [show visible (Cursor.ofString input).rest = input.toList from whole] at counted

end Token

namespace Node

namespace Reader

variable {r : Reader} {t : Token}

/-- While no parenthesis is closed that was not opened, nothing is reported and the open lists are as many as the
parentheses are deep. -/
theorem pending_step (quiet : r.reports = []) (enough : 0 ≤ r.pending.length + Token.depth [t]) :
    (r.step t).reports = [] ∧ ((r.step t).pending.length : Int) = r.pending.length + Token.depth [t] := by
  have placed (r : Reader) (n : Node) : (r.place n).pending.length = r.pending.length := by
    simpa only [List.length_map] using congrArg List.length (parens_place r n)
  have other (opening : t.kind ≠ .opening) (closing : t.kind ≠ .closing) : Token.depth [t] = 0 :=
    Token.depth_other opening closing []
  unfold Reader.step
  split
  case h_1 kind | h_2 kind | h_3 kind =>
    rw [other (by simp [kind]) (by simp [kind])]
    exact ⟨quiet, (Int.add_zero _).symm⟩
  case h_4 kind =>
    rw [Token.depth_opening kind]
    exact ⟨quiet, rfl⟩
  case h_5 kind =>
    have one : Token.depth [t] = -1 := Token.depth_closing kind []
    rw [one] at enough ⊢
    split
    · rename_i none
      rw [none] at enough
      exact absurd enough (by decide)
    · rename_i u us some
      rw [reports_place, placed, some, List.length_cons]
      exact ⟨quiet, by simp only [Int.natCast_add]; omega⟩
  case h_6 opening closing =>
    rw [reports_place, placed, other opening closing]
    exact ⟨quiet, (Int.add_zero _).symm⟩

theorem pending_foldl_step (ts : List Token) (quiet : r.reports = [])
    (enough : ∀ k, 0 ≤ r.pending.length + Token.depth (ts.take k)) :
    (ts.foldl Reader.step r).reports = [] ∧
      ((ts.foldl Reader.step r).pending.length : Int) = r.pending.length + Token.depth ts := by
  induction ts generalizing r with
  | nil => exact ⟨quiet, (Int.add_zero _).symm⟩
  | cons t ts ih =>
    have along (more : List Token) : Token.depth (t :: more) = Token.depth [t] + Token.depth more :=
      Token.depth_append [t] more
    obtain ⟨still, length⟩ := pending_step quiet (enough 1)
    have rest := ih still fun k => by
      have later := enough (k + 1)
      rw [List.take_succ_cons, along] at later
      omega
    rw [List.foldl_cons, along]
    exact ⟨rest.1, by omega⟩

end Reader

/-- Lines come to the same depth by their characters as by the tokens of their text. If that is zero, and no
parenthesis is closed too early, reading complains of none. -/
theorem lines_counted_as_tokens (source : String) (lines : List String)
    (plain : ∀ line ∈ lines, '\n' ∉ line.toList ∧ '\x00' ∉ line.toList) :
    let input := "\n".intercalate lines
    let tokens := (Token.scan source input).map (·.token)
    let depth := lines.foldl (fun d line => d + parenDepth line) 0
    depth = Token.depth tokens ∧
      (depth = 0 → (∀ k, 0 ≤ Token.depth (tokens.take k)) →
        ∀ r ∈ (read source input).reports, r.id ≠ "parse/eof" ∧ r.id ≠ "parse/rparen") := by
  intro input tokens depth
  have counted : depth = Token.depth tokens := by
    have tokenwise : Token.depth tokens = depthFrom false input.toList :=
      Token.depth_scan source (nul_notMem_intercalate fun line member => (plain line member).2)
    have linewise := foldl_parenDepth lines (fun line member => (plain line member).1) 0
    rw [tokenwise, ← Int.zero_add (depthFrom _ _)]
    exact linewise
  refine ⟨counted, ?_⟩
  intro balanced early r inside
  obtain ⟨quiet, length⟩ := Reader.pending_foldl_step (r := {}) tokens rfl fun k => by
    rw [show (({} : Reader).pending.length : Int) = 0 from rfl, Int.zero_add]
    exact early k
  have closed : (Reader.run tokens).pending = [] := by
    refine List.eq_nil_of_length_eq_zero (Int.ofNat.inj (length.trans ?_))
    rw [← counted, balanced]
    rfl
  have silent : (Reader.run tokens).finish = [] := by
    unfold Reader.finish
    rw [closed]
    exact quiet
  have reports : (read source input).reports = (Token.scan source input).filterMap (·.report) ++ [] :=
    silent ▸ rfl
  rw [reports, List.append_nil] at inside
  rw [Token.id_of_mem_reports inside]
  decide

/-- What a comment opens is not counted, and a malformed integer is all that is reported. -/
theorem lines_counted_as_tokens_comment :
    let lines := ["(f ; (", "1z)"]
    lines.foldl (fun d line => d + parenDepth line) 0 =
        Token.depth ((Token.scan "" ("\n".intercalate lines)).map (·.token)) ∧
      ∀ r ∈ (read "" ("\n".intercalate lines)).reports, r.id ≠ "parse/eof" ∧ r.id ≠ "parse/rparen" := by
  intro lines
  have facts : (∀ line ∈ lines, '\n' ∉ line.toList ∧ '\x00' ∉ line.toList) ∧
      lines.foldl (fun d line => d + parenDepth line) 0 = 0 ∧
      let tokens := (Token.scan "" ("\n".intercalate lines)).map (·.token)
      ∀ k ≤ tokens.length, 0 ≤ Token.depth (tokens.take k) := by decide +kernel
  obtain ⟨plain, zero, early⟩ := facts
  obtain ⟨counted, silent⟩ := lines_counted_as_tokens "" lines plain
  refine ⟨counted, silent zero fun k => ?_⟩
  rw [List.take_eq_take_min]
  exact early _ (Nat.min_le_right ..)

end Node

end FormCompiler
