import FormCompiler.Node.Read
import FormCompiler.Proofs.Growth

namespace FormCompiler

open Build (Meets Agree)

variable {b c o : Body} {k t : Nat} {g : PendingGoto} {name : String} {ctx : Context} {forms : List Node}

namespace Body

open IR

def term? (b : Body) (k : Nat) : Option Term := b.blocks[k]?.bind (·.term)

def name? (b : Body) (k : Nat) : Option String := b.blocks[k]?.map (·.name)

def targets (b : Body) (k : Nat) : List Nat :=
  match b.term? k with
  | some (.br target) => [target]
  | _ => []

def waits (b : Body) (k : Nat) : Bool := b.gotos.any (·.block == k)

def openBlocks (b : Body) : List Nat := (List.range b.blocks.size).filter fun k => b.isOpen k && !b.waits k

def EndsKept (b c : Body) : Prop := ∀ k < b.blocks.size, b.isOpen k = false → c.term? k = b.term? k

instance (b c : Body) : Decidable (b.EndsKept c) :=
  inferInstanceAs (Decidable (∀ k < b.blocks.size, b.isOpen k = false → c.term? k = b.term? k))

structure Flow (b : Body) : Prop where
  one : b.openBlocks = [b.current]
  waiting : ∀ g ∈ b.gotos, g.block < b.blocks.size ∧ b.isOpen g.block = true
  once : (b.gotos.map (·.block)).Nodup
  labels : ∀ l ∈ b.labels, 0 < l.2 ∧ b.name? l.2 = some ("label." ++ l.1)
  jumps : ∀ k < b.blocks.size, ∀ t ∈ b.targets k, t ∈ b.labels.map (·.2)

theorem flow_iff (b : Body) :
    b.Flow ↔ b.openBlocks = [b.current] ∧ (∀ g ∈ b.gotos, g.block < b.blocks.size ∧ b.isOpen g.block = true) ∧
      (b.gotos.map (·.block)).Nodup ∧ (∀ l ∈ b.labels, 0 < l.2 ∧ b.name? l.2 = some ("label." ++ l.1)) ∧
      ∀ k < b.blocks.size, ∀ t ∈ b.targets k, t ∈ b.labels.map (·.2) :=
  ⟨fun h => ⟨h.one, h.waiting, h.once, h.labels, h.jumps⟩, fun ⟨one, waiting, once, labels, jumps⟩ =>
    ⟨one, waiting, once, labels, jumps⟩⟩

instance (b : Body) : Decidable b.Flow := decidable_of_iff _ b.flow_iff.symm

theorem isOpen_iff : b.isOpen k = true ↔ b.term? k = none := by
  unfold isOpen term?
  cases b.blocks[k]? <;> simp

theorem waits_iff : b.waits k = true ↔ ∃ g ∈ b.gotos, g.block = k := by
  simp [waits]

theorem mem_openBlocks : k ∈ b.openBlocks ↔ k < b.blocks.size ∧ b.term? k = none ∧ b.waits k = false := by
  simp [openBlocks, isOpen_iff]

theorem openBlocks_eq_singleton {a : Nat} (h : ∀ k, k ∈ b.openBlocks ↔ k = a) : b.openBlocks = [a] := by
  have once : b.openBlocks.Nodup := List.nodup_range.filter _
  have same : ∀ k ∈ b.openBlocks, k = a := fun k => (h k).mp
  have there : a ∈ b.openBlocks := (h a).mpr rfl
  rcases found : b.openBlocks with _ | ⟨k, _ | ⟨j, rest⟩⟩
  · simp [found] at there
  · rw [same k (by simp [found])]
  · have first := same k (by simp [found])
    have second := same j (by simp [found])
    simp [found, first, second] at once

theorem term?_of_size_le (h : b.blocks.size ≤ k) : b.term? k = none := by
  simp [term?, Array.getElem?_eq_none h]

@[simp] theorem term?_append (b : Body) (k j : Nat) (i : Inst) : (b.append k i).term? j = b.term? j := by
  unfold term?
  rw [blocks_append]
  split
  · cases b.blocks[j]? <;> rfl
  · rfl

theorem term?_terminate (inside : k < b.blocks.size) (t : Term) (j : Nat) :
    (b.terminate k t).term? j = if k = j then some t else b.term? j := by
  unfold term?
  rw [blocks_terminate]
  split
  · subst k
    simp [Array.getElem?_eq_getElem inside]
  · rfl

@[simp] theorem term?_addBlock (b : Body) (name : String) (j : Nat) : (b.addBlock name).term? j = b.term? j := by
  unfold term?
  rw [blocks_addBlock]
  split
  · simp_all
  · rfl

@[simp] theorem name?_append (b : Body) (k j : Nat) (i : Inst) : (b.append k i).name? j = b.name? j := by
  unfold name?
  rw [blocks_append]
  split
  · cases b.blocks[j]? <;> rfl
  · rfl

@[simp] theorem name?_terminate (b : Body) (k j : Nat) (t : Term) : (b.terminate k t).name? j = b.name? j := by
  unfold name?
  rw [blocks_terminate]
  split
  · cases b.blocks[j]? <;> rfl
  · rfl

theorem name?_addBlock (b : Body) (name : String) (j : Nat) :
    (b.addBlock name).name? j = if j = b.blocks.size then some name else b.name? j := by
  unfold name?
  rw [blocks_addBlock]
  split <;> rfl

theorem Flow.mem_openBlocks_iff (h : b.Flow) (k : Nat) : k ∈ b.openBlocks ↔ k = b.current := by
  simp [h.one]

theorem Flow.current (h : b.Flow) :
    b.current < b.blocks.size ∧ b.term? b.current = none ∧ b.waits b.current = false :=
  mem_openBlocks.mp ((h.mem_openBlocks_iff _).mpr rfl)

theorem Flow.lt_of_waits (h : b.Flow) (waits : b.waits k = true) : k < b.blocks.size := by
  obtain ⟨g, inside, rfl⟩ := waits_iff.mp waits
  exact (h.waiting g inside).1

theorem Flow.lt_of_label (h : b.Flow) {l : String × Nat} (met : l ∈ b.labels) : l.2 < b.blocks.size := by
  have named := (h.labels l met).2
  obtain ⟨K, there, -⟩ := Option.map_eq_some_iff.mp named
  exact (Array.getElem?_eq_some_iff.mp there).1

theorem mem_labels_of_label? (h : b.label? name = some k) : (name, k) ∈ b.labels := by
  obtain ⟨front, back, labels, -⟩ := List.lookup_eq_some_iff.mp h
  simp [labels]

theorem mem_targets : t ∈ b.targets k ↔ b.term? k = some (.br t) := by
  unfold targets
  split
  · rename_i target ends
    simp [ends, eq_comm]
  · rename_i other
    simpa using other t

theorem Flow.label_of_jump (h : b.Flow) (ends : b.term? k = some (.br t)) : ∃ l ∈ b.labels, l.2 = t := by
  have inside : k < b.blocks.size := by
    refine Nat.lt_of_not_le fun beyond => ?_
    rw [term?_of_size_le beyond] at ends
    cases ends
  simpa using h.jumps k inside t (mem_targets.mpr ends)

/-- Going on in a new block. Of the old ones only the one that was being filled may end by it. -/
structure MovesOn (b c : Body) : Prop where
  size : c.blocks.size = b.blocks.size + 1
  current : c.current = b.blocks.size
  terms : ∀ k, k ≠ b.current → c.term? k = b.term? k
  names : ∀ k < b.blocks.size, c.name? k = b.name? k

section MovesOn

variable {b c : Body} (flow : b.Flow) (moves : b.MovesOn c)

include flow moves

theorem MovesOn.one (waits : ∀ k, k ≠ b.current → c.waits k = b.waits k)
    (left : c.term? b.current ≠ none ∨ c.waits b.current = true) : c.openBlocks = [c.current] := by
  have here := flow.current.1
  refine openBlocks_eq_singleton fun k => ?_
  rw [mem_openBlocks, moves.size, moves.current]
  constructor
  · rintro ⟨inside, ends, free⟩
    have other : k ≠ b.current := by
      rintro rfl
      rcases left with ended | waiting
      · exact ended ends
      · simp [waiting] at free
    rw [moves.terms k other] at ends
    rw [waits k other] at free
    have beyond : ¬k < b.blocks.size := fun old =>
      other ((flow.mem_openBlocks_iff k).mp (mem_openBlocks.mpr ⟨old, ends, free⟩))
    omega
  · rintro rfl
    have other : b.blocks.size ≠ b.current := by omega
    refine ⟨by omega, ?_, ?_⟩
    · rw [moves.terms _ other, term?_of_size_le (Nat.le_refl _)]
    · rw [waits _ other, Bool.eq_false_iff]
      intro waiting
      exact Nat.lt_irrefl _ (flow.lt_of_waits waiting)

theorem MovesOn.waiting {g : PendingGoto} (inside : g ∈ b.gotos) :
    g.block < c.blocks.size ∧ c.isOpen g.block = true := by
  obtain ⟨old, free⟩ := flow.waiting g inside
  have other : g.block ≠ b.current := by
    intro same
    have waits : b.waits b.current = true := waits_iff.mpr ⟨g, inside, same⟩
    simp [flow.current.2.2] at waits
  rw [isOpen_iff, moves.terms _ other, ← isOpen_iff, moves.size]
  exact ⟨by omega, free⟩

theorem MovesOn.label {l : String × Nat} (met : l ∈ b.labels) :
    0 < l.2 ∧ c.name? l.2 = some ("label." ++ l.1) := by
  obtain ⟨positive, named⟩ := flow.labels l met
  exact ⟨positive, by rw [moves.names _ (flow.lt_of_label met), named]⟩

theorem MovesOn.jump (jumps : t ∈ c.targets k) : c.term? b.current = some (.br t) ∨ t ∈ b.labels.map (·.2) := by
  have ends := mem_targets.mp jumps
  by_cases here : k = b.current
  · exact .inl (here ▸ ends)
  · rw [moves.terms k here] at ends
    exact .inr (by simpa using flow.label_of_jump ends)

theorem MovesOn.endsKept : b.EndsKept c := by
  intro k _ ended
  refine moves.terms k ?_
  rintro rfl
  rw [isOpen_iff.mpr flow.current.2.1] at ended
  cases ended

end MovesOn

@[simp] theorem term?_startBlock (b : Body) (name : String) (j : Nat) :
    (b.startBlock name).term? j = b.term? j := term?_addBlock b name j

theorem name?_startBlock {j : Nat} (old : j < b.blocks.size) (name : String) :
    (b.startBlock name).name? j = b.name? j := by
  show (b.addBlock name).name? j = b.name? j
  rw [name?_addBlock, if_neg (by omega)]

theorem Flow.stay (flow : b.Flow) (size : c.blocks.size = b.blocks.size) (terms : ∀ k, c.term? k = b.term? k)
    (names : ∀ k, c.name? k = b.name? k) (labels : c.labels = b.labels) (gotos : c.gotos = b.gotos)
    (current : c.current = b.current) : c.Flow := by
  have opened (k : Nat) : c.isOpen k = b.isOpen k := by
    rw [Bool.eq_iff_iff, isOpen_iff, isOpen_iff, terms]
  have waits (k : Nat) : c.waits k = b.waits k := by rw [waits, waits, gotos]
  refine ⟨?_, ?_, ?_, ?_, ?_⟩
  · simp only [openBlocks, opened, waits, size, current]
    exact flow.one
  · simpa only [gotos, opened, size] using flow.waiting
  · simpa only [gotos] using flow.once
  · simpa only [labels, names] using flow.labels
  · simpa only [labels, targets, terms, size] using flow.jumps

theorem Flow.movesOn_finish (flow : b.Flow) (t : Term) :
    b.MovesOn ((b.terminate b.current t).startBlock "") where
  size := by simp [startBlock]
  current := size_terminate b b.current t
  terms k other := by
    rw [term?_startBlock, term?_terminate flow.current.1, if_neg (Ne.symm other)]
  names k old := by
    rw [name?_startBlock (by simpa using old), name?_terminate]

theorem Flow.finish (flow : b.Flow) {t : Term} (can : b.CanEnd t) :
    Flow ((b.terminate b.current t).startBlock "") := by
  have moves := flow.movesOn_finish t
  have ended : ((b.terminate b.current t).startBlock "").term? b.current = some t := by
    rw [term?_startBlock, term?_terminate flow.current.1, if_pos rfl]
  refine ⟨moves.one flow (fun _ _ => rfl) (.inl (by simp [ended])), fun g => moves.waiting flow, flow.once,
    fun l => moves.label flow, fun k _ target jumps => ?_⟩
  rcases moves.jump flow jumps with ends | old
  · obtain rfl : t = .br target := Option.some.inj (ended.symm.trans ends)
    obtain ⟨name, met⟩ := can
    exact List.mem_map.mpr ⟨(name, target), mem_labels_of_label? met, rfl⟩
  · exact old

theorem movesOn_wait (b : Body) (g : PendingGoto) : b.MovesOn ((b.addGoto g).startBlock "") where
  size := size_addBlock _ _
  current := rfl
  terms _ _ := term?_startBlock _ _ _
  names _ old := name?_startBlock old _

theorem Flow.wait (flow : b.Flow) (here : g.block = b.current) : Flow ((b.addGoto g).startBlock "") := by
  have moves := b.movesOn_wait g
  have open_ : ((b.addGoto g).startBlock "").term? b.current = none :=
    (term?_startBlock _ _ _).trans flow.current.2.1
  have waits (k : Nat) : ((b.addGoto g).startBlock "").waits k = (b.waits k || b.current == k) := by
    simp [Body.waits, startBlock, addBlock, addGoto, here]
  have free : b.current ∉ b.gotos.map (·.block) := by
    intro inside
    obtain ⟨h, member, same⟩ := List.mem_map.mp inside
    have waiting : b.waits b.current = true := waits_iff.mpr ⟨h, member, same⟩
    simp [flow.current.2.2] at waiting
  refine ⟨moves.one flow (fun k other => ?_) (.inr (by simp [waits])), fun h inside => ?_, ?_,
    fun l => moves.label flow, fun k _ target jumps => ?_⟩
  · simp [waits, Ne.symm other]
  · rcases List.mem_append.mp inside with old | new
    · exact moves.waiting flow old
    · obtain rfl := List.mem_singleton.mp new
      rw [here, isOpen_iff, moves.size]
      exact ⟨by have := flow.current.1; omega, open_⟩
  · show ((b.gotos ++ [g]).map (·.block)).Nodup
    rw [List.map_append, List.nodup_append]
    refine ⟨flow.once, by simp, fun k inside j last => ?_⟩
    obtain rfl : j = b.current := by simpa [here] using last
    exact fun same => free (same ▸ inside)
  · rcases moves.jump flow jumps with ends | old
    · simp [open_] at ends
    · exact old

theorem Flow.startLabel_eq (flow : b.Flow) (fresh : b.label? name = none) :
    b.startLabel name = { (b.addBlock ("label." ++ name)).terminate b.current (.br b.blocks.size) with
      labels := (name, b.blocks.size) :: b.labels
      current := b.blocks.size } := by
  have open_ : (b.addBlock ("label." ++ name)).isOpen b.current = true := by
    rw [isOpen_iff, term?_addBlock]
    exact flow.current.2.1
  have falls : (b.addBlock ("label." ++ name)).fallInto b.blocks.size =
      (b.addBlock ("label." ++ name)).terminate b.current (.br b.blocks.size) := if_pos open_
  have labels := labels_addLabel (b := (b.addBlock ("label." ++ name)).terminate b.current (.br b.blocks.size))
    fresh b.blocks.size
  rw [startLabel, falls, labels]
  rfl

theorem Flow.movesOn_label (flow : b.Flow) (fresh : b.label? name = none) : b.MovesOn (b.startLabel name) := by
  rw [flow.startLabel_eq fresh]
  refine ⟨by simp, rfl, fun k other => ?_, fun k old => ?_⟩
  · show ((b.addBlock _).terminate b.current _).term? k = b.term? k
    rw [term?_terminate (by simpa using Nat.lt_succ_of_lt flow.current.1), if_neg (Ne.symm other), term?_addBlock]
  · show ((b.addBlock _).terminate b.current _).name? k = b.name? k
    rw [name?_terminate, name?_addBlock, if_neg (by omega)]

theorem Flow.startLabel (flow : b.Flow) (fresh : b.label? name = none) : (b.startLabel name).Flow := by
  have moves := flow.movesOn_label fresh
  have gotos : (b.startLabel name).gotos = b.gotos := by rw [flow.startLabel_eq fresh]; rfl
  have labels : (b.startLabel name).labels = (name, b.blocks.size) :: b.labels := by rw [flow.startLabel_eq fresh]
  have ended : (b.startLabel name).term? b.current = some (.br b.blocks.size) := by
    rw [flow.startLabel_eq fresh]
    show ((b.addBlock _).terminate b.current _).term? b.current = _
    rw [term?_terminate (by simpa using Nat.lt_succ_of_lt flow.current.1), if_pos rfl]
  have named : (b.startLabel name).name? b.blocks.size = some ("label." ++ name) := by
    rw [flow.startLabel_eq fresh]
    show ((b.addBlock _).terminate b.current _).name? b.blocks.size = _
    rw [name?_terminate, name?_addBlock, if_pos rfl]
  refine ⟨moves.one flow (fun k _ => by rw [waits, waits, gotos]) (.inl (by simp [ended])), ?_, ?_, ?_, ?_⟩
  · intro g inside
    exact moves.waiting flow (gotos ▸ inside)
  · rw [gotos]
    exact flow.once
  · intro l met
    rw [labels] at met
    rcases List.mem_cons.mp met with rfl | old
    · exact ⟨Nat.lt_of_le_of_lt (Nat.zero_le _) flow.current.1, named⟩
    · exact moves.label flow old
  · intro k _ target jumps
    rw [labels, List.map_cons, List.mem_cons]
    rcases moves.jump flow jumps with ends | old
    · rw [ended, Option.some.injEq, Term.br.injEq] at ends
      exact .inl ends.symm
    · exact .inr old

theorem Flow.step (flow : b.Flow) (next : Step o b c) : c.Flow := by
  cases next with
  | emit i _ =>
    exact flow.stay (size_append _ _ _) (term?_append _ _ · _) (name?_append _ _ · _) rfl rfl rfl
  | finish can => exact flow.finish can
  | wait here => exact flow.wait here
  | label fresh => exact flow.startLabel fresh
  | scope e => exact flow.stay rfl (fun _ => rfl) (fun _ => rfl) rfl rfl rfl

theorem Flow.endsKept (flow : b.Flow) (next : Step o b c) : b.EndsKept c := by
  cases next with
  | emit i _ => exact fun k _ _ => term?_append _ _ _ _
  | finish can => exact (flow.movesOn_finish _).endsKept flow
  | wait here => exact (b.movesOn_wait _).endsKept flow
  | label fresh => exact (flow.movesOn_label fresh).endsKept flow
  | scope e => exact fun k _ _ => rfl

inductive History (o : Body) : Body → Prop
  | start (one : o.openBlocks = [o.current]) : History o o
  | change {b c : Body} (before : History o b) (next : Step o b c) (one : c.openBlocks = [c.current])
    (kept : b.EndsKept c) : History o c

theorem EndsKept.trans {d : Body} (h : b.EndsKept c) (k : c.EndsKept d) (size : b.blocks.size ≤ c.blocks.size) :
    b.EndsKept d := by
  intro j old ended
  have same := h j old ended
  have still : c.isOpen j = false := by
    rw [Bool.eq_false_iff, Ne, isOpen_iff, same, ← isOpen_iff]
    simp [ended]
  rw [k j (Nat.lt_of_lt_of_le old size) still, same]

theorem Evolves.flow (h : o.Evolves b) (flow : o.Flow) : b.Flow :=
  h.keeps (fun _ _ _ next flow => flow.step next) flow

theorem Evolves.history (h : o.Evolves b) (flow : o.Flow) : o.History b := by
  induction h with
  | refl => exact .start flow.one
  | step before next ih =>
    have here := before.flow flow
    exact .change ih next (here.step next).one (here.endsKept next)

theorem Evolves.endsKept (h : o.Evolves b) (flow : o.Flow) : o.EndsKept b := by
  induction h with
  | refl => exact fun _ _ _ => rfl
  | step before next ih => exact ih.trans ((before.flow flow).endsKept next) before.extends.size

structure Jumped (gs : List PendingGoto) (b c : Body) : Prop where
  size : c.blocks.size = b.blocks.size
  current : c.current = b.current
  labels : c.labels = b.labels
  names : ∀ k, c.name? k = b.name? k
  others : ∀ k, (∀ g ∈ gs, g.block ≠ k) → c.term? k = b.term? k
  ends : ∀ g ∈ gs, ∃ l ∈ b.labels, c.term? g.block = some (.br l.2)

theorem jumped_resolveGoto (met : (b.label? g.label).isSome) (inside : g.block < b.blocks.size) :
    Jumped [g] b (b.resolveGoto g) := by
  obtain ⟨target, found⟩ := Option.isSome_iff_exists.mp met
  have jump : b.resolveGoto g = b.terminate g.block (.br target) := by simp only [resolveGoto, found]
  rw [jump]
  refine ⟨size_terminate _ _ _, rfl, rfl, fun k => name?_terminate _ _ _ _, fun k other => ?_, fun h here => ?_⟩
  · rw [term?_terminate inside, if_neg (other g List.mem_cons_self)]
  · obtain rfl := List.mem_singleton.mp here
    exact ⟨(h.label, target), mem_labels_of_label? found, by rw [term?_terminate inside, if_pos rfl]⟩

theorem Jumped.trans {gs : List PendingGoto} {d : Body} (first : Jumped [g] b c) (rest : Jumped gs c d) :
    Jumped (g :: gs) b d where
  size := rest.size.trans first.size
  current := rest.current.trans first.current
  labels := rest.labels.trans first.labels
  names k := (rest.names k).trans (first.names k)
  others k apart := by
    rw [rest.others k fun h inside => apart h (List.mem_cons_of_mem _ inside)]
    exact first.others k (by simpa using apart g List.mem_cons_self)
  ends h inside := by
    -- A block that several gotos end would end with the last of them.
    by_cases later : ∃ h' ∈ gs, h'.block = h.block
    · obtain ⟨h', inside', same⟩ := later
      simpa only [same, first.labels] using rest.ends h' inside'
    · have apart : ∀ h' ∈ gs, h'.block ≠ h.block := fun h' inside' same => later ⟨h', inside', same⟩
      rw [rest.others _ apart]
      rcases List.mem_cons.mp inside with rfl | inside
      · exact first.ends h List.mem_cons_self
      · exact absurd rfl (apart h inside)

theorem jumped_foldl {gs : List PendingGoto} (met : ∀ g ∈ gs, (b.label? g.label).isSome)
    (inside : ∀ g ∈ gs, g.block < b.blocks.size) : Jumped gs b (gs.foldl resolveGoto b) := by
  induction gs generalizing b with
  | nil => exact ⟨rfl, rfl, rfl, fun _ => rfl, fun _ _ => rfl, by simp⟩
  | cons g gs ih =>
    have first := jumped_resolveGoto (met g List.mem_cons_self) (inside g List.mem_cons_self)
    refine first.trans (ih ?_ ?_)
    · intro h member
      rw [label?, first.labels]
      exact met h (List.mem_cons_of_mem _ member)
    · intro h member
      rw [first.size]
      exact inside h (List.mem_cons_of_mem _ member)

theorem term?_close (b : Body) (t : Term) (inside : k < b.blocks.size) :
    (b.close t).term? k = some ((b.term? k).getD t) := by
  simp [term?, close, inside]

theorem name?_close (b : Body) (t : Term) (k : Nat) : (b.close t).name? k = b.name? k := by
  unfold name? close
  simp only [Array.getElem?_map, Option.map_map]
  rfl

structure Complete (b : Body) : Prop where
  ended : ∀ k < b.blocks.size, (b.term? k).isSome
  jumps : ∀ k t, b.term? k = some (.br t) →
    ∃ name, (name, t) ∈ b.labels ∧ 0 < t ∧ b.name? t = some ("label." ++ name)
  settled : b.gotos = []

/-- How a filled body becomes a finished one: each goto ends a block that had not ended, and control
leaves the body by `t` from the only block that is still open then. -/
structure Finishes (filled b : Body) (t : Term) : Prop where
  waited : ∀ front g back, filled.gotos = front ++ g :: back →
    (front.foldl resolveGoto filled).isOpen g.block = true
  one : filled.resolveGotos.openBlocks = [filled.current]
  terms : ∀ k, b.term? k = if k = filled.current then some t else filled.resolveGotos.term? k
  kept : filled.EndsKept b
  complete : b.Complete

theorem label?_isSome (met : b.unresolved = []) (inside : g ∈ b.gotos) : (b.label? g.label).isSome := by
  have all : ∀ g ∈ b.gotos, ¬(b.label? g.label).isNone = true := List.filter_eq_nil_iff.mp met
  simpa [Option.isSome_iff_ne_none] using all g inside

section Finish

variable {b : Body} (flow : b.Flow) (met : b.unresolved = [])

include flow met

theorem Flow.jumped : Jumped b.gotos b b.resolveGotos := by
  have jumped := jumped_foldl (fun g => label?_isSome met) fun g inside => (flow.waiting g inside).1
  exact ⟨jumped.size, jumped.current, jumped.labels, jumped.names, jumped.others, jumped.ends⟩

theorem Flow.term?_resolveGotos (k : Nat) :
    b.waits k = false ∧ b.resolveGotos.term? k = b.term? k ∨
      b.waits k = true ∧ ∃ l ∈ b.labels, b.resolveGotos.term? k = some (.br l.2) := by
  have jumped := flow.jumped met
  cases waits : b.waits k with
  | true =>
    obtain ⟨g, inside, rfl⟩ := waits_iff.mp waits
    exact .inr ⟨rfl, jumped.ends g inside⟩
  | false =>
    refine .inl ⟨rfl, jumped.others k fun g inside same => ?_⟩
    have waiting : b.waits k = true := waits_iff.mpr ⟨g, inside, same⟩
    simp [waits] at waiting

theorem Flow.one_resolveGotos : b.resolveGotos.openBlocks = [b.current] := by
  refine openBlocks_eq_singleton fun k => ?_
  rw [mem_openBlocks, (flow.jumped met).size, ← flow.mem_openBlocks_iff, mem_openBlocks]
  have settled : b.resolveGotos.waits k = false := rfl
  rcases flow.term?_resolveGotos met k with ⟨free, same⟩ | ⟨waits, l, -, ends⟩
  · rw [same, free, settled]
  · simp [ends, waits]

theorem Flow.waited {front back : List PendingGoto} (split : b.gotos = front ++ g :: back) :
    (front.foldl resolveGoto b).isOpen g.block = true := by
  have early : ∀ h ∈ front, h ∈ b.gotos := fun h inside => split ▸ List.mem_append_left _ inside
  have jumped := jumped_foldl (fun h inside => label?_isSome met (early h inside))
    fun h inside => (flow.waiting h (early h inside)).1
  have apart : ∀ h ∈ front, h.block ≠ g.block := by
    have once := flow.once
    rw [split, List.map_append, List.nodup_append] at once
    exact fun h inside => once.2.2 _ (List.mem_map_of_mem inside) _ (by simp)
  have free := (flow.waiting g (by simp [split])).2
  rw [isOpen_iff] at free ⊢
  rw [jumped.others _ apart, free]

theorem Flow.term?_finished (t : Term) (k : Nat) :
    (b.resolveGotos.close t).term? k = if k = b.current then some t else b.resolveGotos.term? k := by
  have size := (flow.jumped met).size
  have open_ (j : Nat) : j ∈ b.resolveGotos.openBlocks ↔ j = b.current := by simp [flow.one_resolveGotos met]
  by_cases inside : k < b.resolveGotos.blocks.size
  · rw [term?_close _ _ inside]
    split
    · rename_i here
      rw [(mem_openBlocks.mp ((open_ k).mpr here)).2.1]
      rfl
    · rename_i other
      cases ends : b.resolveGotos.term? k with
      | none => exact absurd ((open_ k).mp (mem_openBlocks.mpr ⟨inside, ends, rfl⟩)) other
      | some u => rfl
  · have other : k ≠ b.current := by
      have := flow.current.1
      omega
    rw [if_neg other, term?_of_size_le (by simpa [close] using inside), term?_of_size_le (by omega)]

theorem Flow.finishes {t : Term} (plain : ∀ target, t ≠ .br target) :
    b.Finishes (b.resolveGotos.close t) t := by
  have jumped := flow.jumped met
  have terms := flow.term?_finished met t
  refine ⟨fun _ _ _ => flow.waited met, flow.one_resolveGotos met, terms, ?_, ?_, ?_, rfl⟩
  · intro k inside ended
    have other : k ≠ b.current := by
      rintro rfl
      rw [isOpen_iff.mpr flow.current.2.1] at ended
      cases ended
    rw [terms, if_neg other]
    rcases flow.term?_resolveGotos met k with ⟨-, same⟩ | ⟨waits, -⟩
    · exact same
    · obtain ⟨g, waiting, rfl⟩ := waits_iff.mp waits
      rw [(flow.waiting g waiting).2] at ended
      cases ended
  · intro k inside
    rw [term?_close _ _ (by simpa [close] using inside)]
    rfl
  · intro k target ends
    rw [terms] at ends
    have named : ∃ l ∈ b.labels, l.2 = target := by
      split at ends
      · exact absurd (Option.some.inj ends) (plain target)
      · rcases flow.term?_resolveGotos met k with ⟨-, same⟩ | ⟨-, l, met, there⟩
        · exact flow.label_of_jump (same ▸ ends)
        · rw [there, Option.some.injEq, Term.br.injEq] at ends
          exact ⟨l, met, ends⟩
    obtain ⟨l, met, rfl⟩ := named
    obtain ⟨positive, name⟩ := flow.labels l met
    refine ⟨l.1, ?_, positive, ?_⟩
    · show l ∈ b.resolveGotos.labels
      rw [jumped.labels]
      exact met
    · rw [name?_close, jumped.names, name]

end Finish

theorem compile_eq_ok (h : Body.compile ctx forms = .ok b) :
    ∃ filled, Body.fill ctx (Form.operands ctx forms) {} = .ok () filled ∧ filled.unresolved = [] ∧
      b = filled.resolveGotos.close (fallOff ctx.function.returnType) := by
  have built : Meets {} (Body.build ctx forms) (fun _ c => ∃ filled,
      Body.fill ctx (Form.operands ctx forms) {} = .ok () filled ∧ filled.unresolved = [] ∧
        c = filled.resolveGotos.close (fallOff ctx.function.returnType)) fun _ _ => True := by
    refine .bind (.mono (.self _ _) (fun _ _ run => run) fun _ _ _ => trivial) ?_
    rintro _ filled run
    refine .bind (.mono (meets_settleGotos filled ctx.name) (fun _ _ h => h) fun _ _ _ => trivial) ?_
    rintro _ c ⟨met, rfl⟩
    exact .changed ⟨filled, run, met, rfl⟩
  unfold Body.compile at h
  split at h
  · rename_i run
    cases h
    exact built.ok run
  · cases h

theorem fallOff_ne_br (returnType : Ty) (target : Nat) : fallOff returnType ≠ .br target := by
  unfold fallOff
  split <;> exact Term.noConfusion

end Body

/-- Asks of every form that it begins and ends with the flow of control in order, that it leaves ended
blocks alone, and that its result is in the block that is being filled. -/
def Monitor.flow (alarm : Fault) : Monitor where
  before b := b.Flow
  after b r c := c.Flow ∧ b.EndsKept c ∧ r.block = some c.current
  alarm

theorem Contract.growth_grants_flow (alarm : Fault) : (Contract.growth Body.Flow).Grants (Monitor.flow alarm) where
  before _ flow := decide_eq_true flow
  after _ _ _ flow done := decide_eq_true ⟨done.1.evolves.flow flow, done.1.evolves.endsKept flow, done.2⟩
  failing _ _ _ _ _ := rfl

theorem Body.flow_entry : Body.entry.Flow := by decide

theorem Body.agree_fill_flow (ctx : Context) (forms : List Node) (alarm : Fault) :
    Agree {} (Body.fill ctx (Form.operands ctx forms))
      (Body.fill ctx (Form.operandsUnder (Monitor.flow alarm) ctx forms))
      (fun _ => Body.entry.Grown) fun _ => Body.entry.Grown :=
  Body.agree_fill (fun _ _ _ next flow => flow.step next) Body.flow_entry (Contract.growth_grants_flow alarm) ctx forms

theorem Body.finishes_of_compile (h : Body.compile ctx forms = .ok b) :
    ∃ filled, Body.fill ctx (Form.operands ctx forms) {} = .ok () filled ∧ Body.entry.History filled ∧
      filled.Finishes b (Body.fallOff ctx.function.returnType) := by
  obtain ⟨filled, run, met, rfl⟩ := Body.compile_eq_ok h
  have evolves := ((Body.agree_fill_flow ctx forms (.broken .incomplete)).2.ok run).evolves
  exact ⟨filled, run, evolves.history Body.flow_entry,
    (evolves.flow Body.flow_entry).finishes met (Body.fallOff_ne_br _)⟩

theorem Body.size_pos_of_compile (h : Body.compile ctx forms = .ok b) : 0 < b.blocks.size := by
  obtain ⟨filled, -, -, finishes⟩ := Body.finishes_of_compile h
  refine Nat.pos_of_ne_zero fun empty => ?_
  have ended := finishes.terms filled.current
  rw [if_pos rfl, Body.term?_of_size_le (by omega)] at ended
  cases ended

/-- Forms are begun and ended with exactly one open block, and end none again. So a finished body is complete. -/
theorem Body.compile_keeps_flow (ctx : Context) (forms : List Node) :
    (∀ alarm, Body.fill ctx (Form.operandsUnder (Monitor.flow alarm) ctx forms) {} =
      Body.fill ctx (Form.operands ctx forms) {}) ∧
    (∀ n demand b, b.Flow → Meets b (Form.compile ctx n demand) (fun _ => b.History) fun _ => b.History) ∧
    ∀ b, Body.compile ctx forms = .ok b →
      ∃ filled, Body.fill ctx (Form.operands ctx forms) {} = .ok () filled ∧ Body.entry.History filled ∧
        filled.Finishes b (Body.fallOff ctx.function.returnType) := by
  refine ⟨fun alarm => (Body.agree_fill_flow ctx forms alarm).1.symm, fun n demand b flow => ?_,
    fun b done => Body.finishes_of_compile done⟩
  have keeps := Contract.growth_inductive (fun _ _ _ next (flow : Body.Flow _) => flow.step next) ctx
  have kept := Form.kept_compileUnder keeps (Contract.growth_grants_flow (.broken .incomplete)) n demand b flow
  exact kept.2.mono (fun _ _ h => h.1.evolves.history flow) fun _ _ h => h.evolves.history flow

/-- Jumps forward and back, out of what is to be returned, and a label that control falls into. -/
theorem Body.compile_keeps_flow_jumps :
    let f : Function := { returnType := .int32, params := [⟨"n", .int32, none⟩], internalName := .ofString "f_i" }
    let ctx : Context := ⟨{}, "f", f⟩
    let forms := (Node.read "" "(goto out) (label back) (return (do (goto back) n)) (label out) (goto back)").nodes
    Body.entry.Flow ∧ Meets Body.entry (Form.compile ctx (.list (.synthetic "(" "") []) .value)
      (fun _ => Body.entry.History) (fun _ => Body.entry.History) ∧
    ∃ b, Body.compile ctx forms = .ok b ∧ b.blocks.size = 7 ∧ b.Complete := by
  intro f ctx forms
  have flow := Body.compile_keeps_flow ctx forms
  have fine : (Body.compile ctx forms).toOption.any (·.blocks.size == 7) = true := by decide +kernel
  cases run : Body.compile ctx forms with
  | error e => simp [run, Except.toOption] at fine
  | ok b =>
    obtain ⟨filled, -, -, finishes⟩ := flow.2.2 b run
    exact ⟨by decide, flow.2.1 _ _ _ (by decide), b, rfl, by simpa [run, Except.toOption] using fine,
      finishes.complete⟩

end FormCompiler
