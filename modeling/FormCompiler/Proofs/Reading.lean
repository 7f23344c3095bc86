import FormCompiler.Proofs.Written

namespace FormCompiler

variable {t : Token} {ns : List Node} {ts : List Token} {r : Reader}

namespace Token

def significant (tokens : List Token) : List Token :=
  (tokens.takeWhile fun t => t.kind ≠ .endOfInput).filter fun t => t.kind ≠ .comment

def legal (tokens : List Token) : List Token := tokens.filter fun t => t.kind ≠ .illegal

def isAtom (t : Token) : Bool :=
  match t.kind with
  | .symbol | .integer | .foreign _ => true
  | _ => false

def unplaced (t : Token) : Token := if t.kind = .closing then t.bare else t

theorem atom_or_paren (comment : t.kind ≠ .comment) (ended : t.kind ≠ .endOfInput) (illegal : t.kind ≠ .illegal) :
    t.isAtom = true ∨ t.kind = .opening ∨ t.kind = .closing := by
  unfold isAtom
  cases kind : t.kind with
  | illegal => exact absurd kind illegal
  | endOfInput => exact absurd kind ended
  | comment => exact absurd kind comment
  | symbol | integer | foreign => exact .inl rfl
  | opening => exact .inr (.inl rfl)
  | closing => exact .inr (.inr rfl)

end Token

namespace Node

inductive Spells : List Token → List Node → Prop
  | nil : Spells [] []
  | atom {t : Token} {ts : List Token} {ns : List Node} (atom : t.isAtom = true) (rest : Spells ts ns) :
    Spells (t :: ts) (.atom t :: ns)
  | list {o c : Token} {inside ts : List Token} {items ns : List Node} (opening : o.kind = .opening)
    (closing : c.kind = .closing) (within : Spells inside items) (rest : Spells ts ns) :
    Spells (o :: inside ++ c :: ts) (.list o items :: ns)

inductive Parses : List Token → List Node → Prop
  | nil : Parses [] []
  | atom {t : Token} {ts : List Token} {ns : List Node} (atom : t.isAtom = true) (rest : Parses ts ns) :
    Parses (t :: ts) (.atom t :: ns)
  | list {o c : Token} {inside ts : List Token} {items ns : List Node} (opening : o.kind = .opening)
    (closing : c.kind = .closing) (within : Spells inside items) (rest : Parses ts ns) :
    Parses (o :: inside ++ c :: ts) (.list o items :: ns)
  | stray {c : Token} {ts : List Token} {ns : List Node} (closing : c.kind = .closing) (rest : Parses ts ns) :
    Parses (c :: ts) ns
  | unclosed {o : Token} {ts : List Token} (opening : o.kind = .opening)
    (never : ∀ inside c rest items, ts = inside ++ c :: rest → c.kind = .closing → ¬Spells inside items) :
    Parses (o :: ts) []

mutual
/-- The tokens of a node, with a parenthesis that stands nowhere for each that is closed. -/
def flatten : Node → List Token
  | atom t => [t]
  | list o items => o :: flattenAll items ++ [⟨.closing, ")", 0, 0, 0, ""⟩]

def flattenAll : List Node → List Token
  | [] => []
  | n :: ns => n.flatten ++ flattenAll ns
end

namespace Spells

variable {ts more : List Token} {ns : List Node}

theorem append {ms : List Node} (h : Spells ts ns) (h' : Spells more ms) : Spells (ts ++ more) (ns ++ ms) := by
  induction h with
  | nil => exact h'
  | atom atom _ ih => exact .atom atom ih
  | list opening closing within _ _ ih =>
    rw [List.append_assoc, List.cons_append]
    exact .list opening closing within ih

theorem flattenAll_eq (h : Spells ts ns) (written : ∀ t ∈ ts, t.kind = .closing → t.literal = ")") :
    flattenAll ns = ts.map Token.unplaced := by
  induction h with
  | nil => rfl
  | @atom t ts ns atom _ ih =>
    have other : t.kind ≠ .closing := by
      intro closing
      simp [Token.isAtom, closing] at atom
    have rest := ih fun t inside => written t (List.mem_cons_of_mem _ inside)
    simp [flattenAll, flatten, rest, Token.unplaced, other]
  | @list o c inside ts items ns opening closing _ _ ih ih' =>
    have first := ih fun t member => written t (by simp [member])
    have rest := ih' fun t member => written t (by simp [member])
    have last : c.unplaced = ⟨.closing, ")", 0, 0, 0, ""⟩ := by
      simp [Token.unplaced, Token.bare, closing, written c (by simp) closing]
    have opened : o.unplaced = o := by simp [Token.unplaced, opening]
    simp [flattenAll, flatten, first, rest, last, opened]

end Spells

theorem exists_parses (ts : List Token)
    (known : ∀ t ∈ ts, t.isAtom = true ∨ t.kind = .opening ∨ t.kind = .closing) : ∃ ns, Parses ts ns := by
  match ts with
  | [] => exact ⟨[], .nil⟩
  | t :: ts =>
    have others : ∀ t ∈ ts, t.isAtom = true ∨ t.kind = .opening ∨ t.kind = .closing :=
      fun t inside => known t (List.mem_cons_of_mem _ inside)
    rcases known t List.mem_cons_self with atom | opening | closing
    · obtain ⟨ns, rest⟩ := exists_parses ts others
      exact ⟨.atom t :: ns, .atom atom rest⟩
    · by_cases closed : ∃ inside c rest items, ts = inside ++ c :: rest ∧ c.kind = .closing ∧ Spells inside items
      · obtain ⟨inside, c, rest, items, split, closing, within⟩ := closed
        have shorter : rest.length < ts.length + 1 := by
          rw [split, List.length_append, List.length_cons]
          omega
        obtain ⟨ns, behind⟩ := exists_parses rest fun t member => others t (by simp [split, member])
        rw [split]
        exact ⟨.list t items :: ns, .list opening closing within behind⟩
      · refine ⟨[], .unclosed opening ?_⟩
        intro inside c rest items split closing within
        exact closed ⟨inside, c, rest, items, split, closing, within⟩
    · obtain ⟨ns, rest⟩ := exists_parses ts others
      exact ⟨ns, .stray closing rest⟩
termination_by ts.length

namespace Reader

variable {r : Reader} {t : Token}

theorem step_atom (legal : r.afterIllegal = false) (atom : t.isAtom = true) : r.step t = r.place (.atom t) := by
  have clear : { r with afterIllegal := false } = r := by rw [← legal]
  unfold Token.isAtom at atom
  unfold step
  split at atom
  · simp only [*]
  · simp only [*]
  · simp only [*]
  · cases atom

theorem step_opening (legal : r.afterIllegal = false) (opening : t.kind = .opening) :
    r.step t = { r with pending := ⟨t, []⟩ :: r.pending } := by
  simp only [step, opening, legal]

theorem step_closing {u : Unclosed} {us : List Unclosed} (legal : r.afterIllegal = false)
    (pending : r.pending = u :: us)
    (closing : t.kind = .closing) : r.step t = { r with pending := us }.place (.list u.paren u.items) := by
  simp only [step, closing, pending, legal]

theorem step_stray (legal : r.afterIllegal = false) (pending : r.pending = []) (closing : t.kind = .closing) :
    r.step t = { r with reports := r.reports ++ [Complaint.unopened.report (some t)] } := by
  simp only [step, closing, pending, legal]

theorem foldl_place_top (ns : List Node) (pending : r.pending = []) :
    ns.foldl place r = { r with nodes := r.nodes ++ ns } := by
  induction ns generalizing r with
  | nil => rw [List.append_nil, List.foldl_nil]
  | cons n ns ih =>
    have placed : r.place n = { r with nodes := r.nodes ++ [n] } := by rw [place, pending]
    have rest := ih (r := { r with nodes := r.nodes ++ [n] }) pending
    rw [List.foldl_cons, placed, rest, List.append_assoc, List.singleton_append]

theorem foldl_step_of_spells (spelled : Spells ts ns) :
    ∀ r : Reader, r.afterIllegal = false → ts.foldl step r = ns.foldl place r := by
  induction spelled with
  | nil =>
    intro r _
    rfl
  | @atom t ts ns atom _ ih =>
    intro r legal
    rw [List.foldl_cons, List.foldl_cons, step_atom legal atom]
    exact ih _ (by rw [place_afterIllegal, legal])
  | @list o c inside ts items ns opening closing _ _ within rest =>
    intro r legal
    let opened : Reader := { r with pending := ⟨o, []⟩ :: r.pending }
    let filled : Reader := { r with pending := ⟨o, items⟩ :: r.pending }
    have body : inside.foldl step opened = filled := by
      rw [within opened legal, foldl_place_pending, List.nil_append]
    have closed : filled.step c = r.place (.list o items) := step_closing (r := filled) legal rfl closing
    rw [List.foldl_append, List.foldl_cons, List.foldl_cons, List.foldl_cons, step_opening legal opening, body, closed]
    exact rest _ (by rw [place_afterIllegal, legal])

inductive Holds : List Token → List Unclosed → Prop
  | bottom {ts : List Token} {u : Unclosed} (spelled : Spells ts u.items) : Holds ts [u]
  | nested {ts inside : List Token} {u : Unclosed} {us : List Unclosed} (opening : u.paren.kind = .opening)
    (outer : Holds ts us) (spelled : Spells inside u.items) : Holds (ts ++ u.paren :: inside) (u :: us)

namespace Holds

variable {ts : List Token} {u : Unclosed} {us : List Unclosed}

theorem more {more : List Token} (h : Holds ts (u :: us)) (spelled : Spells more ns) :
    Holds (ts ++ more) ({ u with items := u.items ++ ns } :: us) := by
  cases h with
  | bottom own => exact .bottom (own.append spelled)
  | nested opening outer own =>
    rw [List.append_assoc, List.cons_append]
    exact .nested (u := { u with items := u.items ++ ns }) opening outer (own.append spelled)

theorem close {top : Unclosed} {c : Token} (h : Holds ts (top :: u :: us)) (closing : c.kind = .closing) :
    Holds (ts ++ [c]) ({ u with items := u.items ++ [.list top.paren top.items] } :: us) := by
  cases h with
  | nested opening outer own =>
    rw [List.append_assoc]
    exact outer.more (.list opening closing own .nil)

theorem step (h : Holds ts r.pending) (legal : r.afterIllegal = false)
    (known : t.isAtom = true ∨ t.kind = .opening ∨ t.kind = .closing)
    (kept : t.kind = .closing → ∀ ns, ¬Spells ts ns) :
    Holds (ts ++ [t]) (r.step t).pending ∧ (r.step t).nodes = r.nodes ∧ (r.step t).reports = r.reports ∧
      (r.step t).afterIllegal = false := by
  cases pending : r.pending with
  | nil =>
    rw [pending] at h
    cases h
  | cons u us =>
    rw [pending] at h
    rcases known with atom | opening | closing
    · rw [step_atom legal atom, place, pending]
      exact ⟨h.more (.atom atom .nil), rfl, rfl, legal⟩
    · rw [step_opening legal opening, pending]
      exact ⟨.nested (u := ⟨t, []⟩) opening h .nil, rfl, rfl, legal⟩
    · rw [step_closing legal pending closing]
      cases us with
      | nil =>
        cases h with
        | bottom spelled => exact absurd spelled (kept closing _)
        | nested _ outer _ => cases outer
      | cons v us => exact ⟨h.close closing, rfl, rfl, legal⟩

end Holds

theorem Holds.foldl_step (past ts : List Token) (h : Holds past r.pending) (legal : r.afterIllegal = false)
    (known : ∀ t ∈ ts, t.isAtom = true ∨ t.kind = .opening ∨ t.kind = .closing)
    (never : ∀ inside c rest items, past ++ ts = inside ++ c :: rest → c.kind = .closing → ¬Spells inside items) :
    Holds (past ++ ts) (ts.foldl Reader.step r).pending ∧ (ts.foldl Reader.step r).nodes = r.nodes ∧
      (ts.foldl Reader.step r).reports = r.reports ∧ (ts.foldl Reader.step r).afterIllegal = false := by
  induction ts generalizing past r with
  | nil =>
    rw [List.append_nil]
    exact ⟨h, rfl, rfl, legal⟩
  | cons t ts ih =>
    obtain ⟨holds, nodes, reports, legal⟩ := h.step legal (known t List.mem_cons_self) fun closing ns =>
      never past t ts ns rfl closing
    have along : past ++ t :: ts = past ++ [t] ++ ts := by simp
    obtain ⟨holds, nodes', reports', legal⟩ := ih (past ++ [t]) holds legal
      (fun t inside => known t (List.mem_cons_of_mem _ inside)) (along ▸ never)
    rw [along, List.foldl_cons, nodes', reports', nodes, reports]
    exact ⟨holds, rfl, rfl, legal⟩

theorem exists_reports_step (r : Reader) (t : Token) : ∃ more, (r.step t).reports = r.reports ++ more := by
  unfold step
  split
  · exact ⟨[], by simp⟩
  · exact ⟨[], by simp⟩
  · exact ⟨[], by simp⟩
  · exact ⟨[], by simp⟩
  · split
    · exact ⟨_, rfl⟩
    · exact ⟨[], by simp [reports_place]⟩
  · exact ⟨[], by simp [reports_place]⟩

theorem exists_finish_foldl_step (ts : List Token) (r : Reader) :
    ∃ more, (ts.foldl step r).finish = r.reports ++ more := by
  induction ts generalizing r with
  | nil =>
    rw [List.foldl_nil, finish]
    split
    · split
      · exact ⟨[], by simp⟩
      · exact ⟨_, rfl⟩
    · exact ⟨[], by simp⟩
  | cons t ts ih =>
    obtain ⟨first, step⟩ := exists_reports_step r t
    obtain ⟨more, rest⟩ := ih (r.step t)
    exact ⟨first ++ more, by rw [List.foldl_cons, rest, step, List.append_assoc]⟩

theorem foldl_step_of_parses (parsed : Parses ts ns) :
    (∀ t ∈ ts, t.isAtom = true ∨ t.kind = .opening ∨ t.kind = .closing) →
      ∀ r : Reader, r.pending = [] → r.afterIllegal = false →
        (ts.foldl step r).nodes = r.nodes ++ ns ∧ ((ts.foldl step r).finish = r.reports → Spells ts ns) := by
  induction parsed with
  | nil =>
    intro _ r _ _
    exact ⟨by simp, fun _ => .nil⟩
  | @atom t ts ns atom _ ih =>
    intro known r pending legal
    have placed : r.step t = { r with nodes := r.nodes ++ [.atom t] } := by
      rw [step_atom legal atom, place, pending]
    obtain ⟨nodes, spelled⟩ := ih (fun t inside => known t (List.mem_cons_of_mem _ inside)) (r.step t)
      (by rw [placed, pending]) (by rw [placed, legal])
    rw [List.foldl_cons]
    refine ⟨?_, fun quiet => .atom atom (spelled ?_)⟩
    · rw [nodes, placed, List.append_assoc, List.singleton_append]
    · rw [quiet, placed]
  | @list o c inside ts items ns opening closing within _ ih =>
    intro known r pending legal
    have whole : Spells (o :: inside ++ [c]) [.list o items] := .list opening closing within .nil
    have placed : (o :: inside ++ [c]).foldl step r = { r with nodes := r.nodes ++ [.list o items] } := by
      rw [foldl_step_of_spells whole r legal, List.foldl_cons, List.foldl_nil, place, pending]
    have along : o :: inside ++ c :: ts = (o :: inside ++ [c]) ++ ts := by simp
    obtain ⟨nodes, spelled⟩ := ih (fun t member => known t (by simp [member]))
      { r with nodes := r.nodes ++ [.list o items] } pending legal
    rw [along, List.foldl_append, placed]
    refine ⟨?_, fun quiet => whole.append (spelled quiet)⟩
    rw [nodes, List.append_assoc, List.singleton_append]
  | @stray c ts ns closing _ ih =>
    intro known r pending legal
    let told : Reader := { r with reports := r.reports ++ [Complaint.unopened.report (some c)] }
    have nodes := (ih (fun t inside => known t (List.mem_cons_of_mem _ inside)) told pending legal).1
    obtain ⟨more, reports⟩ := exists_finish_foldl_step ts told
    rw [List.foldl_cons, step_stray legal pending closing]
    refine ⟨nodes, fun quiet => ?_⟩
    rw [quiet, List.append_assoc, List.self_eq_append_right] at reports
    cases reports
  | @unclosed o ts opening never =>
    intro known r pending legal
    rw [List.foldl_cons, step_opening legal opening, pending]
    obtain ⟨holds, nodes, reports, legal⟩ := Holds.foldl_step [] ts
      (r := { r with pending := [⟨o, []⟩] }) (.bottom .nil) legal
      (fun t inside => known t (List.mem_cons_of_mem _ inside)) never
    refine ⟨by rw [nodes, List.append_nil], fun quiet => ?_⟩
    unfold finish at quiet
    split at quiet
    · simp [legal, reports] at quiet
    · rename_i none
      rw [none] at holds
      cases holds

theorem foldl_step_legal (ts : List Token) (r : Reader) :
    { ts.foldl step r with afterIllegal := false } = (Token.legal ts).foldl step { r with afterIllegal := false } := by
  have place_calm (r : Reader) (n : Node) :
      { r.place n with afterIllegal := false } = ({ r with afterIllegal := false } : Reader).place n := by
    cases pending : r.pending <;> simp only [place, pending]
  have step_calm (r : Reader) (t : Token) : { r.step t with afterIllegal := false } =
      if t.kind = .illegal then { r with afterIllegal := false }
      else ({ r with afterIllegal := false } : Reader).step t := by
    unfold step
    cases t.kind with
    | closing => cases pending : r.pending <;> simp [place_calm]
    | illegal | endOfInput | comment | symbol | integer | opening | foreign => simp [place_calm]
  induction ts generalizing r with
  | nil => rfl
  | cons t ts ih =>
    rw [List.foldl_cons, ih, step_calm]
    by_cases illegal : t.kind = .illegal
    · simp [Token.legal, illegal]
    · simp [Token.legal, illegal]

theorem foldl_step_filter (ts : List Token) (r : Reader) :
    (ts.filter fun t => t.kind ≠ .comment).foldl step r = ts.foldl step r := by
  have passed : (fun (r : Reader) (t : Token) => if decide (t.kind ≠ .comment) = true then r.step t else r) = step := by
    funext r t
    by_cases comment : t.kind = .comment
    · simp [step, comment]
    · simp [comment]
  rw [List.foldl_filter, passed]

end Reader

end Node

namespace Token

/-- A report comes with every token that is not legal, and with no other one. -/
structure Scanned.Plain (s : Scanned) : Prop where
  report : s.report = none ↔ s.token.kind ≠ .illegal
  closing : s.token.kind = .closing → s.token.literal = ")"

theorem Scanned.From.plain {s : Scanned} {rest text : List Char} (h : s.From rest text) : s.Plain := by
  cases h with
  | opening token silent | closing token silent =>
    exact ⟨by simp [silent, token.kind], by simp [← String.toList_inj, token.literal, token.kind]⟩
  | symbol _ _ token silent | integer _ _ token silent => exact ⟨by simp [silent, token.kind], by simp [token.kind]⟩
  | comment kind _ _ _ silent => exact ⟨by simp [silent, kind], by simp [kind]⟩
  | illegal _ _ _ kind told => exact ⟨by simp [told, kind], by simp [kind]⟩

theorem exists_significant (source input : String) :
    ∃ (ss : List Scanned) (e : Scanned), scan source input = ss ++ [e] ∧
    e.token.kind = .endOfInput ∧ e.Plain ∧ (∀ s ∈ ss, s.token.kind ≠ .endOfInput ∧ s.Plain) ∧
    significant ((scan source input).map (·.token)) = (ss.map (·.token)).filter fun t => t.kind ≠ .comment := by
  obtain ⟨ss, e, scanned, ended, silent, written⟩ := exists_scan source input
  have each : ∀ s ∈ ss, s.token.kind ≠ .endOfInput ∧ s.Plain := by
    intro s inside
    obtain ⟨rest, text, h⟩ := written s inside
    exact ⟨h.kind_ne, h.plain⟩
  refine ⟨ss, e, scanned, ended, ⟨by simp [silent, ended], by simp [ended]⟩, each, ?_⟩
  have before : ∀ t ∈ ss.map (·.token), decide (t.kind ≠ .endOfInput) = true := by
    intro t inside
    obtain ⟨s, member, same⟩ := List.mem_map.mp inside
    exact same ▸ decide_eq_true (each s member).1
  have stop : [e.token].takeWhile (fun t => t.kind ≠ .endOfInput) = [] := by
    simp [ended]
  rw [scanned, significant, List.map_append, List.map_singleton, List.takeWhile_append_of_pos before, stop,
    List.append_nil]

theorem atom_or_paren_of_mem_legal {source input : String}
    (inside : t ∈ legal (significant ((scan source input).map (·.token)))) :
    t.isAtom = true ∨ t.kind = .opening ∨ t.kind = .closing := by
  obtain ⟨ss, e, _, _, _, each, tokens⟩ := exists_significant source input
  obtain ⟨member, legal⟩ := List.mem_filter.mp inside
  rw [tokens] at member
  obtain ⟨member, comment⟩ := List.mem_filter.mp member
  obtain ⟨s, scanned, same⟩ := List.mem_map.mp member
  exact atom_or_paren (of_decide_eq_true comment) (same ▸ (each s scanned).1) (of_decide_eq_true legal)

theorem literal_of_mem_significant {source input : String}
    (inside : t ∈ significant ((scan source input).map (·.token))) (closing : t.kind = .closing) :
    t.literal = ")" := by
  obtain ⟨ss, e, _, _, _, each, tokens⟩ := exists_significant source input
  rw [tokens] at inside
  obtain ⟨s, scanned, same⟩ := List.mem_map.mp (List.mem_filter.mp inside).1
  subst same
  exact (each s scanned).2.closing closing

theorem reports_eq_nil_iff (source input : String) : (scan source input).filterMap (·.report) = [] ↔
    ∀ t ∈ significant ((scan source input).map (·.token)), t.kind ≠ .illegal := by
  obtain ⟨ss, e, scanned, ended, last, each, tokens⟩ := exists_significant source input
  rw [tokens, scanned, List.filterMap_eq_nil_iff]
  constructor
  · intro quiet t inside
    obtain ⟨s, member, same⟩ := List.mem_map.mp (List.mem_filter.mp inside).1
    subst same
    exact (each s member).2.report.mp (quiet s (List.mem_append_left _ member))
  · intro legal s inside
    rcases List.mem_append.mp inside with member | member
    · refine (each s member).2.report.mpr fun illegal => ?_
      have significant : s.token ∈ (ss.map (·.token)).filter fun t => t.kind ≠ .comment :=
        List.mem_filter.mpr ⟨List.mem_map_of_mem member, by simp [illegal]⟩
      exact legal s.token significant illegal
    · rw [List.mem_singleton.mp member]
      exact last.report.mpr (by simp [ended])

end Token

namespace Node

theorem Reader.run_scan (source input : String) : Reader.run ((Token.scan source input).map (·.token)) =
    (Token.significant ((Token.scan source input).map (·.token))).foldl Reader.step {} := by
  obtain ⟨ss, e, scanned, ended, _, _, tokens⟩ := Token.exists_significant source input
  have passed (r : Reader) : r.step e.token = r := by simp only [step, ended]
  rw [tokens, foldl_step_filter, scanned, run, List.map_append, List.foldl_append, List.map_singleton, List.foldl_cons,
    passed, List.foldl_nil]

/-- Reading a text gives the nodes among its legal tokens. It reports nothing exactly if all of its tokens are legal
and spell nodes. -/
theorem read_follows_tokens (source input : String) :
    let tokens := Token.significant ((Token.scan source input).map (·.token))
    (∀ ns, Parses (Token.legal tokens) ns ↔ (read source input).nodes = ns) ∧
      ((read source input).reports = [] ↔ (∀ t ∈ tokens, t.kind ≠ .illegal) ∧ ∃ ns, Spells tokens ns) ∧
      ((read source input).reports = [] → flattenAll (read source input).nodes = tokens.map Token.unplaced) := by
  intro tokens
  let reader := tokens.foldl Reader.step {}
  have nodes_eq : (read source input).nodes = reader.nodes := by rw [read, Reader.run_scan]
  have quiet : (read source input).reports = [] ↔ (∀ t ∈ tokens, t.kind ≠ .illegal) ∧ reader.finish = [] := by
    rw [read, Reader.run_scan, List.append_eq_nil_iff, Token.reports_eq_nil_iff]
  have known : ∀ t ∈ Token.legal tokens, t.isAtom = true ∨ t.kind = .opening ∨ t.kind = .closing :=
    fun _ => Token.atom_or_paren_of_mem_legal
  have calm : { reader with afterIllegal := false } = (Token.legal tokens).foldl Reader.step {} :=
    Reader.foldl_step_legal tokens {}
  have parsed {ns : List Node} (h : Parses (Token.legal tokens) ns) : reader.nodes = ns := by
    have nodes := (Reader.foldl_step_of_parses h known {} rfl rfl).1
    rw [← calm] at nodes
    exact nodes
  obtain ⟨ns, parses⟩ := exists_parses (Token.legal tokens) known
  have spelled (none : (read source input).reports = []) :
      (∀ t ∈ tokens, t.kind ≠ .illegal) ∧ Spells tokens reader.nodes := by
    obtain ⟨legal, finish⟩ := quiet.mp none
    have all : Token.legal tokens = tokens :=
      List.filter_eq_self.mpr fun t inside => decide_eq_true (legal t inside)
    rw [all] at parses known parsed
    rw [parsed parses]
    exact ⟨legal, (Reader.foldl_step_of_parses parses known {} rfl rfl).2 finish⟩
  refine ⟨fun ms => ?_, ⟨fun none => ?_, ?_⟩, fun none => ?_⟩
  · rw [nodes_eq]
    refine ⟨parsed, fun same => ?_⟩
    rw [← same, parsed parses]
    exact parses
  · exact ⟨(spelled none).1, _, (spelled none).2⟩
  · rintro ⟨legal, ms, h⟩
    have placed : reader = { nodes := ms } := by
      rw [show reader = ms.foldl Reader.place {} from Reader.foldl_step_of_spells h {} rfl,
        Reader.foldl_place_top ms rfl, List.nil_append]
    exact quiet.mpr ⟨legal, by rw [placed, Reader.finish]⟩
  · rw [nodes_eq]
    exact (spelled none).2.flattenAll_eq fun t => Token.literal_of_mem_significant

theorem read_follows_tokens_nested :
    (read "" "(f ; x\n (1)) y").reports = [] ∧ flattenAll (read "" "(f ; x\n (1)) y").nodes =
      (Token.significant ((Token.scan "" "(f ; x\n (1)) y").map (·.token))).map Token.unplaced :=
  ⟨by decide +kernel, (read_follows_tokens "" "(f ; x\n (1)) y").2.2 (by decide +kernel)⟩

example : (read "" ") a 1z (b 1z) (c (d) e").nodes.map text = ["a", "(b)"] := by decide +kernel

end Node

end FormCompiler
