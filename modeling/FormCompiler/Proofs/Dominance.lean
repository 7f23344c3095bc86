import FormCompiler.Proofs.Linking

namespace FormCompiler

open IR (Func Inst Layout Place Term Value)

namespace IR.Func

/-- The ways that control can take from the first block: the block it has come to, and those before it, the
last of them first. -/
inductive Path (g : Func) : Nat → List Nat → Prop
  | entry : Path g 0 []
  | jump {k t : Nat} {past : List Nat} (before : Path g k past) (ends : g.term? k = some (.br t)) :
    Path g t (k :: past)

/-- What is used at a place. What a block ends with stands behind its last instruction. -/
def operandsAt (g : Func) (p : Place) : List Value :=
  match g.inst? p with
  | some i => i.operands
  | none =>
    if p.index = (g.blocks[p.block]?.map (·.insts.size)).getD 0 then ((g.term? p.block).map Term.operands).getD []
    else []

def Uses (g : Func) (p q : Place) : Prop := ∃ l, Value.inst q l ∈ g.operandsAt p

/-- Whether the instruction at `q` has been executed when control is at `p`, having come through those
blocks. -/
def Executed (p q : Place) (past : List Nat) : Prop := q.block ∈ past ∨ q.block = p.block ∧ q.index < p.index

def JumpsOver (g : Func) (block : Nat) (way : List Nat) : Prop :=
  ∃ k t, [t, k] <:+: way ∧ g.term? k = some (.br t) ∧ k < block ∧ block < t

variable {g : Func} {k m : Nat} {past : List Nat}

theorem Path.passes (path : g.Path k past) (before : m < k) : m ∈ past ∨ g.JumpsOver m (k :: past) := by
  induction path with
  | entry => omega
  | @jump k t past way ends ih =>
    -- The last jump comes from a block behind `m`, from `m` itself, or from one before it.
    rcases Nat.lt_trichotomy m k with earlier | rfl | later
    · rcases ih earlier with through | ⟨j, s, taken, ends', jumped⟩
      · exact .inl (List.mem_cons_of_mem _ through)
      · exact .inr ⟨j, s, taken.trans (List.suffix_cons t (k :: past)).isInfix, ends', jumped⟩
    · exact .inl List.mem_cons_self
    · have first : [t, k] <+: t :: k :: past := ⟨past, rfl⟩
      exact .inr ⟨k, t, first.isInfix, ends, later, before⟩

theorem isSome_inst?_of_layoutOf? {q : Place} {l l' : Layout} (h : g.layoutOf? (.inst q l) = some l') :
    (g.inst? q).isSome := by
  obtain ⟨i, there, -⟩ := Option.map_eq_some_iff.mp h
  simp [there]

theorem Coded.before_of_uses {r : Registry} {f : Function} (h : g.Coded r f) {p q : Place} (uses : g.Uses p q) :
    q.Before p ∧ (g.inst? q).isSome := by
  obtain ⟨l, used⟩ := uses
  unfold operandsAt at used
  split at used
  · rename_i i there
    exact ⟨h.before p i there q l used, isSome_inst?_of_layoutOf? (h.used p i there _ used)⟩
  · split at used
    · rename_i last
      cases ends : g.term? p.block with
      | none => simp [ends] at used
      | some t =>
        have used : Value.inst q l ∈ t.operands := by simpa [ends] using used
        have made := isSome_inst?_of_layoutOf? (h.returned p.block t ends _ used)
        refine ⟨?_, made⟩
        rcases Nat.lt_or_eq_of_le (h.early p.block t ends q l used) with earlier | same
        · exact .inl earlier
        · -- Everything in the block stands before its end.
          obtain ⟨i, there⟩ := Option.isSome_iff_exists.mp made
          obtain ⟨K, block, inside⟩ := Option.bind_eq_some_iff.mp there
          have bound := (Array.getElem?_eq_some_iff.mp inside).1
          rw [same] at block
          exact .inr ⟨same, by simpa [last, block] using bound⟩
    · cases used

end IR.Func

namespace CompilationUnit

/-- On every way to where a value is used, its instruction has been executed, or control has never come to its block,
having jumped forward over it. -/
theorem executed_unless_jumped_over {u : CompilationUnit} (arises : u.Arises) {n : Nat} {g : Func}
    (there : u.module.funcs[n]? = some g) {p q : Place} (uses : g.Uses p q) {past : List Nat}
    (path : g.Path p.block past) :
    (g.inst? q).isSome ∧
      (Func.Executed p q past ∨ q.block ∉ p.block :: past ∧ g.JumpsOver q.block (p.block :: past)) := by
  obtain ⟨f, -, -, -, coded⟩ := arises.exists_function there
  obtain ⟨before, made⟩ := coded.before_of_uses uses
  refine ⟨made, ?_⟩
  rcases before with earlier | ⟨same, index⟩
  · by_cases through : q.block ∈ past
    · exact .inl (.inl through)
    · have missed : q.block ∉ p.block :: past := List.not_mem_cons_of_ne_of_not_mem (Nat.ne_of_lt earlier) through
      exact .inr ⟨missed, (path.passes earlier).resolve_left through⟩
  · exact .inl (.inr ⟨same, index⟩)

/-- A value that is used after control has jumped on over a block and back to one behind the value. -/
theorem executed_unless_jumped_over_back :
    let u := ((CompilationUnit.new "0").compileSource (none : Option Store) ""
      "(def f (fn extern int ((n int)) (var x int n) (goto out) (label back) (return x) (label out) (goto back)))").unit
    ∃ g, u.module.funcs[0]? = some g ∧ g.Uses ⟨2, 0⟩ ⟨0, 2⟩ ∧ g.Path 2 [4, 0] ∧
      (Func.Executed ⟨2, 0⟩ ⟨0, 2⟩ [4, 0] ∨ 0 ∉ [2, 4, 0] ∧ g.JumpsOver 0 [2, 4, 0]) := by
  intro u
  have facts : (u.module.funcs[0]?.map fun g => (g.operandsAt ⟨2, 0⟩, g.term? 0, g.term? 4)) =
      some ([.inst ⟨0, 2⟩ (.pointer (.int 32))], some (.br 4), some (.br 2)) := by decide +kernel
  obtain ⟨g, there, facts⟩ := Option.map_eq_some_iff.mp facts
  simp only [Prod.mk.injEq] at facts
  obtain ⟨used, out, back⟩ := facts
  have uses : g.Uses ⟨2, 0⟩ ⟨0, 2⟩ := ⟨_, used ▸ List.mem_singleton_self _⟩
  have path : g.Path 2 [4, 0] := .jump (.jump .entry out) back
  exact ⟨g, there, uses, path, (executed_unless_jumped_over (.source (.new "0") none "" _) there uses path).2⟩

/-- A variable is used where control comes without having made it. -/
theorem use_skips_definition :
    let u := ((CompilationUnit.new "0").compileSource (none : Option Store) ""
      "(def f (fn extern int () (goto end) (var x int) (label end) (return x)))").unit
    u.reports = [] ∧ ∃ g, u.module.funcs[0]? = some g ∧ g.Uses ⟨2, 0⟩ ⟨1, 0⟩ ∧ g.Path 2 [0] ∧
      ¬Func.Executed ⟨2, 0⟩ ⟨1, 0⟩ [0] := by
  intro u
  have facts : (u.module.funcs[0]?.map fun g => (u.reports, g.operandsAt ⟨2, 0⟩, g.term? 0)) =
      some ([], [.inst ⟨1, 0⟩ (.pointer (.int 32))], some (.br 2)) := by decide +kernel
  obtain ⟨g, there, facts⟩ := Option.map_eq_some_iff.mp facts
  simp only [Prod.mk.injEq] at facts
  obtain ⟨reports, used, skips⟩ := facts
  have uses : g.Uses ⟨2, 0⟩ ⟨1, 0⟩ := ⟨_, used ▸ List.mem_singleton_self _⟩
  exact ⟨reports, g, there, uses, .jump .entry skips, by simp [Func.Executed]⟩

end CompilationUnit

end FormCompiler
