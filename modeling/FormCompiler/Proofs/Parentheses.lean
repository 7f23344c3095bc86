import FormCompiler.Proofs.Reading

namespace FormCompiler

variable {t : Token} {p : Nat × Token}

namespace Token

/-- Tokens whose parentheses belong together in pairs. -/
inductive Balanced : List Token → Prop
  | nil : Balanced []
  | other {t : Token} {ts : List Token} (opening : t.kind ≠ .opening) (closing : t.kind ≠ .closing)
    (rest : Balanced ts) : Balanced (t :: ts)
  | group {o c : Token} {inside ts : List Token} (opening : o.kind = .opening) (closing : c.kind = .closing)
    (within : Balanced inside) (rest : Balanced ts) : Balanced (o :: inside ++ c :: ts)

def IsAt (ts : List Token) (k : Nat) (kind : Kind) : Prop := ∃ t, ts[k]? = some t ∧ t.kind = kind

def Closes (ts : List Token) (i j : Nat) : Prop :=
  ∃ front o inside c behind, ts = front ++ o :: inside ++ c :: behind ∧ o.kind = .opening ∧ c.kind = .closing ∧
    Balanced inside ∧ i = front.length ∧ j = (front ++ o :: inside).length

def Stray (ts : List Token) (j : Nat) : Prop := IsAt ts j .closing ∧ ∀ i, ¬Closes ts i j

def Unclosed (ts : List Token) (i : Nat) : Prop := IsAt ts i .opening ∧ ∀ j, ¬Closes ts i j

section Depth

/-- How many parentheses are opened, less those that are closed. -/
def depth (ts : List Token) : Int :=
  (ts.countP fun t => t.kind = .opening : Nat) - (ts.countP fun t => t.kind = .closing : Nat)

theorem depth_append (ts more : List Token) : depth (ts ++ more) = depth ts + depth more := by
  simp only [depth, List.countP_append, Int.natCast_add]
  omega

variable {t : Token}

theorem depth_opening (opening : t.kind = .opening) (ts : List Token) : depth (t :: ts) = depth ts + 1 := by
  simp only [depth, List.countP_cons, opening]
  simp
  omega

theorem depth_closing (closing : t.kind = .closing) (ts : List Token) : depth (t :: ts) = depth ts - 1 := by
  simp only [depth, List.countP_cons, closing]
  simp
  omega

theorem depth_other (opening : t.kind ≠ .opening) (closing : t.kind ≠ .closing) (ts : List Token) :
    depth (t :: ts) = depth ts := by
  simp [depth, opening, closing]

end Depth

namespace Balanced

variable {ts more : List Token}

theorem append (h : Balanced ts) (h' : Balanced more) : Balanced (ts ++ more) := by
  induction h with
  | nil => exact h'
  | other opening closing _ ih => exact .other opening closing ih
  | group opening closing within _ _ ih =>
    rw [List.append_assoc, List.cons_append]
    exact .group opening closing within ih

theorem single (opening : t.kind ≠ .opening) (closing : t.kind ≠ .closing) : Balanced [t] :=
  .other opening closing .nil

theorem depth_eq (h : Balanced ts) : depth ts = 0 := by
  induction h with
  | nil => rfl
  | other opening closing _ ih => rw [depth_other opening closing, ih]
  | group opening closing _ _ within ih =>
    rw [List.cons_append, depth_opening opening, depth_append, depth_closing closing, within, ih]
    rfl

theorem depth_front (h : Balanced ts) : ∀ front behind, ts = front ++ behind → 0 ≤ depth front := by
  induction h with
  | nil =>
    intro front behind split
    obtain ⟨rfl, -⟩ := List.append_eq_nil_iff.mp split.symm
    exact Int.le_refl 0
  | @other t ts opening closing _ ih =>
    intro front behind split
    cases front with
    | nil => exact Int.le_refl 0
    | cons s front =>
      obtain ⟨rfl, rest⟩ := List.cons.inj split
      rw [depth_other opening closing]
      exact ih front behind rest
  | @group o c inside ts opening closing within _ ih ih' =>
    intro front behind split
    cases front with
    | nil => exact Int.le_refl 0
    | cons s front =>
      obtain ⟨rfl, rest⟩ := List.cons.inj split
      rw [depth_opening opening]
      rcases List.append_eq_append_iff.mp rest with ⟨z, rfl, tail⟩ | ⟨z, whole, -⟩
      · rw [depth_append, within.depth_eq]
        cases z with
        | nil => decide
        | cons d z =>
          -- The first parenthesis is closed again in what is cut off here.
          obtain ⟨rfl, later⟩ := List.cons.inj tail
          have := ih' z behind later
          rw [depth_closing closing]
          omega
      · have := ih front z whole
        omega

theorem depth_behind (h : Balanced ts) {front behind : List Token} (split : ts = front ++ behind) :
    depth behind ≤ 0 := by
  have whole := h.depth_eq
  rw [split, depth_append] at whole
  have := h.depth_front front behind split
  omega

end Balanced

section Positions

variable {ts more : List Token} {i j k : Nat} {kind : Kind}

theorem IsAt.lt_length (h : IsAt ts k kind) : k < ts.length := by
  obtain ⟨t, there, -⟩ := h
  exact (List.getElem?_eq_some_iff.mp there).1

theorem IsAt.kind_eq {kind' : Kind} (h : IsAt ts k kind) (h' : IsAt ts k kind') : kind = kind' := by
  obtain ⟨t, there, rfl⟩ := h
  obtain ⟨t', there', rfl⟩ := h'
  rw [Option.some.inj (there.symm.trans there')]

theorem isAt_length (front : List Token) (behind : List Token) (same : t.kind = kind) :
    IsAt (front ++ t :: behind) front.length kind :=
  ⟨t, by simp, same⟩

theorem isAt_append_left (within : k < ts.length) : IsAt (ts ++ more) k kind ↔ IsAt ts k kind := by
  rw [IsAt, IsAt, List.getElem?_append_left within]

theorem isAt_append_right : IsAt (ts ++ more) (ts.length + k) kind ↔ IsAt more k kind := by
  rw [IsAt, IsAt, List.getElem?_append_right (Nat.le_add_right _ _), Nat.add_sub_cancel_left]

theorem Closes.isAt (h : Closes ts i j) : IsAt ts i .opening ∧ IsAt ts j .closing := by
  obtain ⟨front, o, inside, c, behind, rfl, opening, closing, -, rfl, rfl⟩ := h
  refine ⟨?_, isAt_length _ _ closing⟩
  rw [List.append_assoc]
  exact isAt_length _ _ opening

theorem Closes.append (h : Closes ts i j) (more : List Token) : Closes (ts ++ more) i j := by
  obtain ⟨front, o, inside, c, behind, rfl, rest⟩ := h
  exact ⟨front, o, inside, c, behind ++ more, by simp, rest⟩

theorem Closes.behind (h : Closes ts i j) (front : List Token) :
    Closes (front ++ ts) (front.length + i) (front.length + j) := by
  obtain ⟨first, o, inside, c, behind, rfl, opening, closing, balanced, rfl, rfl⟩ := h
  exact ⟨front ++ first, o, inside, c, behind, by simp, opening, closing, balanced, by simp, by simp⟩

def Paired (ts : List Token) (k : Nat) : Prop := (∃ j, Closes ts k j) ∨ ∃ i, Closes ts i k

theorem Paired.append (h : Paired ts k) (more : List Token) : Paired (ts ++ more) k := by
  rcases h with ⟨j, closes⟩ | ⟨i, closes⟩
  · exact .inl ⟨j, closes.append more⟩
  · exact .inr ⟨i, closes.append more⟩

theorem Paired.behind (h : Paired ts k) (front : List Token) : Paired (front ++ ts) (front.length + k) := by
  rcases h with ⟨j, closes⟩ | ⟨i, closes⟩
  · exact .inl ⟨_, closes.behind front⟩
  · exact .inr ⟨_, closes.behind front⟩

def IsParen (ts : List Token) (k : Nat) : Prop := IsAt ts k .opening ∨ IsAt ts k .closing

theorem isParen_cases (front : List Token) {behind : List Token} (h : IsParen (front ++ t :: behind) k) :
    IsParen front k ∨ k = front.length ∨ ∃ m, IsParen behind m ∧ k = (front ++ [t]).length + m := by
  rcases Nat.lt_trichotomy k front.length with before | here | after
  · exact .inl (h.imp (isAt_append_left before).mp (isAt_append_left before).mp)
  · exact .inr (.inl here)
  · obtain ⟨m, rfl⟩ : ∃ m, k = (front ++ [t]).length + m :=
      Nat.exists_eq_add_of_le (by rw [List.length_append, List.length_singleton]; exact after)
    have along : front ++ t :: behind = front ++ [t] ++ behind := by simp
    rw [along] at h
    exact .inr (.inr ⟨m, h.imp isAt_append_right.mp isAt_append_right.mp, rfl⟩)

theorem isParen_cons {ts : List Token} (h : IsParen (t :: ts) k) :
    k = 0 ∨ ∃ m, IsParen ts m ∧ k = [t].length + m := by
  rcases isParen_cases [] h with none | first | later
  · rcases none with ⟨_, none, -⟩ | ⟨_, none, -⟩
    · cases none
    · cases none
  · exact .inl first
  · exact .inr later

theorem Balanced.paired (h : Balanced ts) : ∀ k, IsParen ts k → Paired ts k := by
  induction h with
  | nil =>
    rintro k (⟨t, none, -⟩ | ⟨t, none, -⟩)
    · cases none
    · cases none
  | @other t ts opening closing _ ih =>
    intro k paren
    rcases isParen_cons paren with rfl | ⟨m, inside, rfl⟩
    · rcases paren with ⟨s, here, kind⟩ | ⟨s, here, kind⟩
      · exact absurd (Option.some.inj here ▸ kind) opening
      · exact absurd (Option.some.inj here ▸ kind) closing
    · exact (ih m inside).behind [t]
  | @group o c inside ts opening closing within _ ih ih' =>
    intro k paren
    have pair : Closes (o :: inside ++ c :: ts) 0 (o :: inside).length :=
      ⟨[], o, inside, c, ts, rfl, opening, closing, within, rfl, rfl⟩
    rcases isParen_cases _ paren with early | rfl | ⟨m, late, rfl⟩
    · rcases isParen_cons early with rfl | ⟨m, inner, rfl⟩
      · exact .inl ⟨_, pair⟩
      · exact ((ih m inner).behind [o]).append (c :: ts)
    · exact .inr ⟨_, pair⟩
    · have along : o :: inside ++ c :: ts = o :: inside ++ [c] ++ ts := by simp
      rw [along]
      exact (ih' m late).behind _

end Positions

/-- The parentheses that are left over, each with its position: first those that close nothing, and behind all of
them those that are not closed, of which the innermost comes first. -/
inductive Leaves : List Token → List (Nat × Token) → List (Nat × Token) → Prop
  | balanced {ts : List Token} (balanced : Balanced ts) : Leaves ts [] []
  | stray {ts inside : List Token} {c : Token} {strays : List (Nat × Token)} (before : Leaves ts strays [])
    (closing : c.kind = .closing) (balanced : Balanced inside) :
    Leaves (ts ++ c :: inside) (strays ++ [(ts.length, c)]) []
  | unclosed {ts inside : List Token} {o : Token} {strays opened : List (Nat × Token)}
    (before : Leaves ts strays opened)
    (opening : o.kind = .opening) (balanced : Balanced inside) :
    Leaves (ts ++ o :: inside) strays ((ts.length, o) :: opened)

namespace Leaves

variable {ts : List Token} {strays opened : List (Nat × Token)}

theorem more {more : List Token} (h : Leaves ts strays opened) (balanced : Balanced more) :
    Leaves (ts ++ more) strays opened := by
  cases h with
  | balanced own => exact .balanced (own.append balanced)
  | stray before closing own =>
    rw [List.append_assoc, List.cons_append]
    exact .stray before closing (own.append balanced)
  | unclosed before opening own =>
    rw [List.append_assoc, List.cons_append]
    exact .unclosed before opening (own.append balanced)

theorem close {c : Token} (h : Leaves ts strays (p :: opened)) (closing : c.kind = .closing) :
    Leaves (ts ++ [c]) strays opened := by
  cases h with
  | unclosed before opening own =>
    rw [List.append_assoc]
    exact before.more (.group opening closing own .nil)

theorem depth_suffix (h : Leaves ts strays []) : ∀ front behind, ts = front ++ behind → depth behind ≤ 0 := by
  generalize none : ([] : List (Nat × Token)) = opened at h
  induction h with
  | balanced balanced => exact fun front behind split => balanced.depth_behind split
  | @stray ts inside c strays _ closing balanced ih =>
    intro front behind split
    rcases List.append_eq_append_iff.mp split with ⟨z, -, rest⟩ | ⟨z, rest, rfl⟩
    · cases z with
      | nil =>
        rw [List.nil_append] at rest
        rw [← rest, depth_closing closing, balanced.depth_eq]
        decide
      | cons d z =>
        obtain ⟨-, rest⟩ := List.cons.inj rest
        exact balanced.depth_behind rest
    · have := ih rfl front z rest
      rw [depth_append, depth_closing closing, balanced.depth_eq]
      omega
  | unclosed => cases none

variable (h : Leaves ts strays opened)

include h

theorem exists_stray : ∀ p ∈ strays, ∃ front behind,
    ts = front ++ p.2 :: behind ∧ p.1 = front.length ∧ p.2.kind = .closing ∧
      ∀ first last, front = first ++ last → depth last ≤ 0 := by
  induction h with
  | balanced => exact fun p none => (List.not_mem_nil none).elim
  | @stray ts inside c strays before closing _ ih =>
    intro p member
    rcases List.mem_append.mp member with old | new
    · obtain ⟨front, behind, rfl, rest⟩ := ih p old
      exact ⟨front, behind ++ c :: inside, by simp, rest⟩
    · rw [List.mem_singleton.mp new]
      exact ⟨ts, inside, rfl, rfl, closing, before.depth_suffix⟩
  | @unclosed ts inside o strays opened _ _ _ ih =>
    intro p member
    obtain ⟨front, behind, rfl, rest⟩ := ih p member
    exact ⟨front, behind ++ o :: inside, by simp, rest⟩

theorem exists_unclosed : ∀ p ∈ opened, ∃ front behind,
    ts = front ++ p.2 :: behind ∧ p.1 = front.length ∧ p.2.kind = .opening ∧
      ∀ first last, behind = first ++ last → 0 ≤ depth first := by
  induction h with
  | balanced | stray => exact fun p none => (List.not_mem_nil none).elim
  | @unclosed ts inside o strays opened _ opening balanced ih =>
    intro p member
    rcases List.mem_cons.mp member with rfl | old
    · exact ⟨ts, inside, rfl, rfl, opening, balanced.depth_front⟩
    · obtain ⟨front, behind, rfl, position, kind, level⟩ := ih p old
      refine ⟨front, behind ++ o :: inside, by simp, position, kind, ?_⟩
      intro first last split
      rcases List.append_eq_append_iff.mp split with ⟨z, rfl, rest⟩ | ⟨z, whole, -⟩
      · have outer := level behind [] (List.append_nil _).symm
        cases z with
        | nil => simpa using outer
        | cons d z =>
          obtain ⟨rfl, tail⟩ := List.cons.inj rest
          have := balanced.depth_front z last tail
          rw [depth_append, depth_opening opening]
          omega
      · exact level first z whole

theorem getElem?_of_mem_strays (member : p ∈ strays) : ts[p.1]? = some p.2 := by
  obtain ⟨front, behind, rfl, position, -⟩ := h.exists_stray p member
  simp [position]

theorem getElem?_of_mem_opened (member : p ∈ opened) : ts[p.1]? = some p.2 := by
  obtain ⟨front, behind, rfl, position, -⟩ := h.exists_unclosed p member
  simp [position]

theorem stray_of_mem (member : p ∈ strays) : Stray ts p.1 := by
  obtain ⟨front, behind, split, position, kind, level⟩ := h.exists_stray p member
  refine ⟨?_, ?_⟩
  · rw [split, position]
    exact isAt_length front behind kind
  · rintro i ⟨first, o, inside, c, last, split', opening, closing, balanced, -, length⟩
    rw [split] at split'
    obtain ⟨rfl, -⟩ := List.append_inj split' (position.symm.trans length)
    have := level first (o :: inside) rfl
    rw [depth_opening opening, balanced.depth_eq] at this
    omega

theorem unclosed_of_mem (member : p ∈ opened) : Unclosed ts p.1 := by
  obtain ⟨front, behind, split, position, kind, level⟩ := h.exists_unclosed p member
  refine ⟨?_, ?_⟩
  · rw [split, position]
    exact isAt_length front behind kind
  · rintro j ⟨first, o, inside, c, last, split', opening, closing, balanced, length, -⟩
    rw [split, List.append_assoc] at split'
    obtain ⟨rfl, rest⟩ := List.append_inj split' (position.symm.trans length)
    obtain ⟨-, rest⟩ := List.cons.inj rest
    have := level (inside ++ [c]) last (by simp [rest])
    rw [depth_append, depth_closing closing, balanced.depth_eq] at this
    exact absurd this (by decide)

theorem paired : ∀ k, IsParen ts k →
    Paired ts k ∨ k ∈ strays.map (·.1) ∨ k ∈ opened.map (·.1) := by
  induction h with
  | balanced balanced => exact fun k paren => .inl (balanced.paired k paren)
  | @stray ts inside c strays _ _ balanced ih =>
    intro k paren
    rcases isParen_cases _ paren with early | rfl | ⟨m, late, rfl⟩
    · rcases ih k early with pair | old | none
      · exact .inl (pair.append _)
      · exact .inr (.inl (by simp [old]))
      · cases none
    · exact .inr (.inl (by simp))
    · have along : ts ++ c :: inside = ts ++ [c] ++ inside := by simp
      rw [along]
      exact .inl ((balanced.paired m late).behind _)
  | @unclosed ts inside o strays opened _ _ balanced ih =>
    intro k paren
    rcases isParen_cases _ paren with early | rfl | ⟨m, late, rfl⟩
    · rcases ih k early with pair | old | old
      · exact .inl (pair.append _)
      · exact .inr (.inl old)
      · exact .inr (.inr (List.mem_cons_of_mem _ old))
    · exact .inr (.inr List.mem_cons_self)
    · have along : ts ++ o :: inside = ts ++ [o] ++ inside := by simp
      rw [along]
      exact .inl ((balanced.paired m late).behind _)

theorem mem_strays_iff (j : Nat) : j ∈ strays.map (·.1) ↔ Stray ts j := by
  constructor
  · intro member
    obtain ⟨p, inside, rfl⟩ := List.mem_map.mp member
    exact h.stray_of_mem inside
  · rintro ⟨closing, alone⟩
    rcases h.paired j (.inr closing) with (⟨k, closes⟩ | ⟨i, closes⟩) | there | other
    · cases closing.kind_eq closes.isAt.1
    · exact absurd closes (alone i)
    · exact there
    · obtain ⟨p, inside, rfl⟩ := List.mem_map.mp other
      cases closing.kind_eq (h.unclosed_of_mem inside).1

theorem mem_opened_iff (i : Nat) : i ∈ opened.map (·.1) ↔ Unclosed ts i := by
  constructor
  · intro member
    obtain ⟨p, inside, rfl⟩ := List.mem_map.mp member
    exact h.unclosed_of_mem inside
  · rintro ⟨opening, alone⟩
    rcases h.paired i (.inl opening) with (⟨j, closes⟩ | ⟨k, closes⟩) | other | there
    · exact absurd closes (alone j)
    · cases opening.kind_eq closes.isAt.2
    · obtain ⟨p, inside, rfl⟩ := List.mem_map.mp other
      cases opening.kind_eq (h.stray_of_mem inside).1
    · exact there

theorem sorted :
    (strays.map (·.1)).Pairwise (· < ·) ∧ (opened.map (·.1)).reverse.Pairwise (· < ·) := by
  induction h with
  | balanced => exact ⟨.nil, .nil⟩
  | @stray ts inside c strays before _ _ ih =>
    refine ⟨?_, .nil⟩
    rw [List.map_append, List.pairwise_append]
    refine ⟨ih.1, List.pairwise_singleton _ _, ?_⟩
    intro j member k last
    rw [List.mem_singleton.mp last]
    exact ((before.mem_strays_iff j).mp member).1.lt_length
  | @unclosed ts inside o strays opened before _ _ ih =>
    refine ⟨ih.1, ?_⟩
    rw [List.map_cons, List.reverse_cons, List.pairwise_append]
    refine ⟨ih.2, List.pairwise_singleton _ _, ?_⟩
    intro i member k last
    rw [List.mem_singleton.mp last]
    exact ((before.mem_opened_iff i).mp (List.mem_reverse.mp member)).1.lt_length

end Leaves

theorem id_of_mem_reports {source input : String} {r : Report} (inside : r ∈ (scan source input).filterMap (·.report)) :
    r.id = Report.Topic.integerMalformed.id := by
  obtain ⟨ss, e, scanned, -, silent, each⟩ := exists_scan source input
  obtain ⟨s, member, told⟩ := List.mem_filterMap.mp inside
  rw [scanned] at member
  rcases List.mem_append.mp member with before | last
  · obtain ⟨rest, text, written⟩ := each s before
    cases written with
    | illegal _ _ _ _ told' id =>
      cases told'.symm.trans told
      exact id
    | opening _ none | closing _ none | comment _ _ _ _ none | symbol _ _ _ none | integer _ _ _ none =>
      cases none.symm.trans told
  · rw [List.mem_singleton.mp last, silent] at told
    cases told

theorem kind_of_mem_significant {source input : String}
    (inside : t ∈ significant ((scan source input).map (·.token))) : t.kind ≠ .comment ∧ t.kind ≠ .endOfInput := by
  obtain ⟨ss, e, -, -, -, each, tokens⟩ := exists_significant source input
  rw [tokens] at inside
  obtain ⟨member, comment⟩ := List.mem_filter.mp inside
  obtain ⟨s, scanned, rfl⟩ := List.mem_map.mp member
  exact ⟨of_decide_eq_true comment, (each s scanned).1⟩

end Token

namespace Node

namespace Reader

variable {r : Reader} {ts : List Token} {t : Token} {strays opened : List (Nat × Token)}

theorem parens_place (r : Reader) (n : Node) : (r.place n).pending.map (·.paren) = r.pending.map (·.paren) := by
  unfold place
  split
  · rfl
  · rename_i pending
    rw [pending]
    rfl

structure Tallies (r : Reader) (ts : List Token) (strays opened : List (Nat × Token)) : Prop where
  leaves : Token.Leaves ts strays opened
  pending : r.pending.map (·.paren) = opened.map (·.2)
  reports : r.reports = strays.map fun p => Complaint.unopened.report (some p.2)
  afterIllegal : r.afterIllegal = ts.getLast?.any (·.kind = .illegal)

theorem Tallies.other {r' : Reader} (h : r.Tallies ts strays opened) (opening : t.kind ≠ .opening)
    (closing : t.kind ≠ .closing) (pending : r'.pending.map (·.paren) = r.pending.map (·.paren))
    (reports : r'.reports = r.reports) (illegal : r'.afterIllegal = decide (t.kind = .illegal)) :
    r'.Tallies (ts ++ [t]) strays opened where
  leaves := h.leaves.more (.single opening closing)
  pending := pending.trans h.pending
  reports := reports.trans h.reports
  afterIllegal := by rw [illegal, List.getLast?_concat]; rfl

theorem Tallies.step (h : r.Tallies ts strays opened) (comment : t.kind ≠ .comment) (ended : t.kind ≠ .endOfInput) :
    ∃ strays opened, (r.step t).Tallies (ts ++ [t]) strays opened := by
  have last : (ts ++ [t]).getLast?.any (·.kind = .illegal) = decide (t.kind = .illegal) := by
    rw [List.getLast?_concat]
    rfl
  unfold Reader.step
  split
  case h_1 kind => exact absurd kind comment
  case h_2 kind => exact absurd kind ended
  case h_3 kind => exact ⟨strays, opened, h.other (by simp [kind]) (by simp [kind]) rfl rfl (by simp [kind])⟩
  case h_4 kind =>
    refine ⟨strays, (ts.length, t) :: opened, .unclosed h.leaves kind .nil, ?_, h.reports, by simp [kind]⟩
    rw [List.map_cons, List.map_cons, h.pending]
  case h_5 kind =>
    have pending := h.pending
    split
    · rename_i none
      rw [none] at pending
      obtain rfl := List.map_eq_nil_iff.mp pending.symm
      refine ⟨strays ++ [(ts.length, t)], [], .stray h.leaves kind .nil, ?_, ?_, by simp [kind]⟩
      · rw [none]
        rfl
      · rw [h.reports, List.map_append]
        rfl
    · rename_i u us some
      rw [some] at pending
      obtain ⟨p, others, rfl, -, rest⟩ := List.map_eq_cons_iff.mp pending.symm
      refine ⟨strays, others, h.leaves.close kind, ?_, ?_, ?_⟩
      · rw [parens_place]
        exact rest.symm
      · rw [reports_place]
        exact h.reports
      · rw [place_afterIllegal, last, kind]
        rfl
  case h_6 illegal opening closing =>
    refine ⟨strays, opened, h.other opening closing ?_ ?_ ?_⟩
    · exact parens_place _ _
    · exact reports_place _ _
    · rw [place_afterIllegal]
      exact (decide_eq_false illegal).symm

theorem Tallies.foldl_step (past ts : List Token) (h : r.Tallies past strays opened)
    (known : ∀ t ∈ ts, t.kind ≠ .comment ∧ t.kind ≠ .endOfInput) :
    ∃ strays opened, (ts.foldl Reader.step r).Tallies (past ++ ts) strays opened := by
  induction ts generalizing past r strays opened with
  | nil =>
    rw [List.append_nil]
    exact ⟨strays, opened, h⟩
  | cons t ts ih =>
    obtain ⟨comment, ended⟩ := known t List.mem_cons_self
    obtain ⟨strays, opened, next⟩ := h.step comment ended
    have along : past ++ t :: ts = past ++ [t] ++ ts := by simp
    rw [along]
    exact ih (past ++ [t]) next fun t inside => known t (List.mem_cons_of_mem _ inside)

theorem Tallies.finish (h : r.Tallies ts strays opened) : r.finish =
    strays.map (fun p => Complaint.unopened.report (some p.2)) ++
      if ts.getLast?.any (·.kind = .illegal) then []
      else opened.head?.toList.map fun p => Complaint.unclosed.report (some p.2) := by
  have pending := h.pending
  unfold Reader.finish
  split
  · rename_i u us some
    rw [some] at pending
    obtain ⟨p, others, rfl, same, -⟩ := List.map_eq_cons_iff.mp pending.symm
    rw [h.afterIllegal, h.reports]
    split
    · rw [List.append_nil]
    · rw [show u.paren = p.2 from same.symm]
      rfl
  · rename_i none
    rw [none] at pending
    obtain rfl := List.map_eq_nil_iff.mp pending.symm
    rw [h.reports]
    simp

end Reader

/-- Reading reports each parenthesis that closes nothing, and of those that are never closed the last one, unless the
last token is not legal. -/
theorem read_reports_unbalanced (source input : String) :
    let tokens := Token.significant ((Token.scan source input).map (·.token))
    let malformed := (Token.scan source input).filterMap (·.report)
    ∃ strays unclosed : List Nat,
      (strays.Pairwise (· < ·) ∧ ∀ j, j ∈ strays ↔ Token.Stray tokens j) ∧
      (unclosed.Pairwise (· < ·) ∧ ∀ i, i ∈ unclosed ↔ Token.Unclosed tokens i) ∧
      (∀ r ∈ malformed, r.id = Report.Topic.integerMalformed.id) ∧
      (read source input).reports =
        malformed ++ (strays.map (fun j => Complaint.unopened.report tokens[j]?) ++
          if tokens.getLast?.any (·.kind = .illegal) then []
          else unclosed.getLast?.toList.map fun i => Complaint.unclosed.report tokens[i]?) := by
  intro tokens malformed
  obtain ⟨strays, opened, tallies⟩ : ∃ strays opened,
      (tokens.foldl Reader.step {}).Tallies tokens strays opened :=
    Reader.Tallies.foldl_step [] tokens ⟨.balanced .nil, rfl, rfl, rfl⟩ fun t => Token.kind_of_mem_significant
  have leaves := tallies.leaves
  refine ⟨strays.map (·.1), (opened.map (·.1)).reverse, ⟨leaves.sorted.1, leaves.mem_strays_iff⟩,
    ⟨leaves.sorted.2, fun i => List.mem_reverse.trans (leaves.mem_opened_iff i)⟩,
    fun _ => Token.id_of_mem_reports, ?_⟩
  have strayReports : (strays.map (·.1)).map (fun j => Complaint.unopened.report tokens[j]?) =
      strays.map fun p => Complaint.unopened.report (some p.2) := by
    rw [List.map_map]
    exact List.map_congr_left fun p inside => congrArg _ (leaves.getElem?_of_mem_strays inside)
  have unclosedReport : ((opened.map (·.1)).reverse.getLast?.toList.map fun i => Complaint.unclosed.report tokens[i]?) =
      opened.head?.toList.map fun p => Complaint.unclosed.report (some p.2) := by
    cases opened with
    | nil => rfl
    | cons p others =>
      have there := leaves.getElem?_of_mem_opened List.mem_cons_self
      simp [there]
  rw [strayReports, unclosedReport, ← tallies.finish, read, Reader.run_scan]

/-- A parenthesis that is never closed is not reported if the text breaks off in what is no integer. -/
theorem unclosed_unreported :
    Token.Unclosed (Token.significant ((Token.scan "" "(1z").map (·.token))) 0 ∧
      (read "" "(1z").reports.map (·.id) = [Report.Topic.integerMalformed.id] := by
  have facts : (Token.significant ((Token.scan "" "(1z").map (·.token))).map (·.kind) = [.opening, .illegal] ∧
      (read "" "(1z").reports.map (·.id) = [Report.Topic.integerMalformed.id] := by decide +kernel
  obtain ⟨kinds, reports⟩ := facts
  refine ⟨⟨?_, ?_⟩, reports⟩
  · obtain ⟨o, rest, split, opening, -⟩ := List.map_eq_cons_iff.mp kinds
    exact ⟨o, by rw [split]; rfl, opening⟩
  · intro j closes
    obtain ⟨c, there, closing⟩ := closes.isAt.2
    have inside : Token.Kind.closing ∈ [Token.Kind.opening, .illegal] :=
      kinds ▸ closing ▸ List.mem_map_of_mem (List.mem_of_getElem? there)
    simp at inside

end Node

end FormCompiler
