import FormCompiler.Body.Basic

namespace FormCompiler

variable {b o c : Body} {name : String} {K L : Block}

theorem Scope.find?_add {α : Type} (s : Scope α) (name other : String) (a : α) :
    (s.add name a).find? other = if other = name then some a else s.find? other := by
  obtain ⟨entries⟩ := s
  have rest (other_ne : other ≠ name) : (entries.filter fun e => e.1 != name).lookup other = entries.lookup other := by
    induction entries with
    | nil => rfl
    | cons e entries ih =>
      by_cases same : e.1 = name
      · have passed : (other == e.1) = false := beq_eq_false_iff_ne.mpr (same ▸ other_ne)
        rw [List.filter_cons_of_neg (by simp [same]), List.lookup_cons, passed, ih]
      · rw [List.filter_cons_of_pos (by simp [same]), List.lookup_cons, List.lookup_cons, ih]
  unfold find? add
  dsimp only
  rw [List.lookup_cons]
  split
  · rename_i same
    rw [if_pos (beq_iff_eq.mp same)]
  · rename_i differ
    have other_ne := beq_eq_false_iff_ne.mp differ
    rw [if_neg other_ne, rest other_ne]

namespace Environment

variable {α : Type}

theorem find?_cons (s : Scope α) (outer : List (Scope α)) (name : String) :
    (Environment.mk (s :: outer)).find? name = (s.find? name).or ((Environment.mk outer).find? name) := by
  unfold find?
  rw [List.findSome?_cons]
  cases s.find? name <;> rfl

theorem find?_add (e : Environment α) (name other : String) (a : α) :
    (e.add name a).find? other = if other = name then some a else e.find? other := by
  obtain ⟨scopes⟩ := e
  cases scopes with
  | nil =>
    show (Environment.mk [Scope.add {} name a]).find? other = _
    rw [find?_cons, Scope.find?_add]
    split <;> rfl
  | cons s outer =>
    show (Environment.mk (s.add name a :: outer)).find? other = _
    rw [find?_cons, find?_cons, Scope.find?_add]
    split <;> rfl

/-- What can become of an environment without touching the scopes around the innermost one. -/
structure Within (e f : Environment α) : Prop where
  depth : e.depth ≤ f.depth
  outer : f.scopes.tail = e.scopes.tail

theorem Within.refl (e : Environment α) : e.Within e := ⟨Nat.le_refl _, rfl⟩

theorem Within.trans {e f g : Environment α} (h : e.Within f) (k : f.Within g) : e.Within g :=
  ⟨Nat.le_trans h.depth k.depth, k.outer.trans h.outer⟩

theorem within_add (e : Environment α) (name : String) (a : α) : e.Within (e.add name a) := by
  obtain ⟨scopes⟩ := e
  cases scopes with
  | nil => exact ⟨Nat.zero_le _, rfl⟩
  | cons s outer => exact ⟨Nat.le_refl _, rfl⟩

theorem backTo_of_within_enter {e f : Environment α} (h : e.enter.Within f) : f.backTo e.depth = e := by
  obtain ⟨deep, outer⟩ := h
  obtain ⟨scopes⟩ := f
  cases scopes with
  | nil => simp [Environment.depth, enter] at deep
  | cons s rest =>
    have same : rest = e.scopes := outer
    subst same
    simp [backTo, Environment.depth]

theorem restore_of_within {e f : Environment α} (h : e.Within f) :
    (f.backTo e.depth).setInnermost e.innermost = e := by
  obtain ⟨deep, outer⟩ := h
  obtain ⟨scopes⟩ := e
  obtain ⟨changed⟩ := f
  cases scopes with
  | nil => simp [backTo, setInnermost, Environment.depth]
  | cons s rest =>
    cases changed with
    | nil => simp [Environment.depth] at deep
    | cons s' rest' =>
      have same : rest' = rest := outer
      subst same
      simp [backTo, setInnermost, innermost, Environment.depth]

end Environment

namespace IR.Block

structure Longer (K L : Block) : Prop where
  name : L.name = K.name
  insts : ∃ more, L.insts = K.insts ++ more

theorem Longer.refl (K : Block) : K.Longer K := ⟨rfl, #[], by simp⟩

theorem Longer.push (h : K.Longer L) (i : Inst) : K.Longer { L with insts := L.insts.push i } := by
  obtain ⟨more, added⟩ := h.insts
  exact ⟨h.name, more.push i, by rw [added, Array.push_append]⟩

theorem Longer.ended (h : K.Longer L) (t : Term) : K.Longer { L with term := some t } :=
  ⟨h.name, h.insts⟩

theorem Longer.cut (h : K.Longer L) : Body.cutBlock K.insts.size K.term L = K := by
  obtain ⟨more, added⟩ := h.insts
  simp [Body.cutBlock, added, h.name]

end IR.Block

namespace Body

open IR

def CanEnd (b : Body) : Term → Prop
  | .br target => ∃ name, b.label? name = some target
  | _ => True

def Fills (b : Body) (k : Nat) : Prop := k = b.current ∨ b.blocks.size ≤ k

inductive Step (o b : Body) : Body → Prop
  | emit {k : Nat} (i : Inst) (fills : o.Fills k) : Step o b (b.append k i)
  | finish {t : Term} (can : b.CanEnd t) : Step o b ((b.terminate b.current t).startBlock "")
  | wait {g : PendingGoto} (here : g.block = b.current) : Step o b ((b.addGoto g).startBlock "")
  | label {name : String} (fresh : b.label? name = none) : Step o b (b.startLabel name)
  | scope (e : Environment Local) : Step o b { b with env := e }

inductive Evolves (o : Body) : Body → Prop
  | refl : Evolves o o
  | step {b c : Body} (before : Evolves o b) (next : Step o b c) : Evolves o c

theorem blocks_append (b : Body) (k j : Nat) (i : Inst) :
    (b.append k i).blocks[j]? =
      if k = j then b.blocks[j]?.map fun K => { K with insts := K.insts.push i } else b.blocks[j]? :=
  Array.getElem?_modify

theorem blocks_terminate (b : Body) (k j : Nat) (t : Term) :
    (b.terminate k t).blocks[j]? =
      if k = j then b.blocks[j]?.map fun K => { K with term := some t } else b.blocks[j]? :=
  Array.getElem?_modify

theorem blocks_addBlock (b : Body) (name : String) (j : Nat) :
    (b.addBlock name).blocks[j]? = if j = b.blocks.size then some { name } else b.blocks[j]? :=
  Array.getElem?_push

@[simp] theorem size_append (b : Body) (k : Nat) (i : Inst) : (b.append k i).blocks.size = b.blocks.size :=
  Array.size_modify

@[simp] theorem size_terminate (b : Body) (k : Nat) (t : Term) :
    (b.terminate k t).blocks.size = b.blocks.size := Array.size_modify

@[simp] theorem size_addBlock (b : Body) (name : String) :
    (b.addBlock name).blocks.size = b.blocks.size + 1 := Array.size_push _

theorem notMem_labels_of_label? (h : b.label? name = none) : name ∉ b.labels.map (·.1) := by
  intro member
  obtain ⟨l, inside, same⟩ := List.mem_map.mp member
  have found := List.lookup_eq_none_iff.mp h l inside
  simp [same] at found

theorem labels_addLabel (h : b.label? name = none) (k : Nat) :
    (b.addLabel name k).labels = (name, k) :: b.labels := by
  have others : b.labels.filter (fun l => l.1 != name) = b.labels := by
    rw [List.filter_eq_self]
    intro l inside
    have different : l.1 ≠ name := fun same =>
      notMem_labels_of_label? h (List.mem_map.mpr ⟨l, inside, same⟩)
    simpa using different
  simp only [addLabel, others]

structure Extends (o b : Body) : Prop where
  size : o.blocks.size ≤ b.blocks.size
  fills : o.Fills b.current
  blocks : ∀ k, k < o.blocks.size → k ≠ o.current → b.blocks[k]? = o.blocks[k]?
  filled : ∀ K, o.blocks[o.current]? = some K → ∃ L, b.blocks[o.current]? = some L ∧ K.Longer L
  labels : ∃ new, b.labels = new ++ o.labels ∧ ∀ l ∈ new, l.1 ∉ o.labels.map (·.1)
  gotos : o.gotos <+: b.gotos

theorem Extends.refl (o : Body) : o.Extends o where
  size := Nat.le_refl _
  fills := .inl rfl
  blocks _ _ _ := rfl
  filled K here := ⟨K, here, .refl K⟩
  labels := ⟨[], rfl, by simp⟩
  gotos := List.prefix_refl _

theorem Extends.append (h : o.Extends b) {k : Nat} (i : Inst) (fills : o.Fills k) :
    o.Extends (b.append k i) where
  size := by simpa using h.size
  fills := h.fills
  blocks j old other := by
    have elsewhere : k ≠ j := by
      rcases fills with same | beyond <;> omega
    rw [blocks_append, if_neg elsewhere]
    exact h.blocks j old other
  filled K here := by
    obtain ⟨L, there, longer⟩ := h.filled K here
    rw [blocks_append]
    split
    · exact ⟨_, by rw [there]; rfl, longer.push i⟩
    · exact ⟨L, there, longer⟩
  labels := h.labels
  gotos := h.gotos

theorem Extends.terminate (h : o.Extends b) (t : Term) : o.Extends (b.terminate b.current t) where
  size := by simpa using h.size
  fills := h.fills
  blocks j old other := by
    have elsewhere : b.current ≠ j := by
      rcases h.fills with same | beyond <;> omega
    rw [blocks_terminate, if_neg elsewhere]
    exact h.blocks j old other
  filled K here := by
    obtain ⟨L, there, longer⟩ := h.filled K here
    rw [blocks_terminate]
    split
    · exact ⟨_, by rw [there]; rfl, longer.ended t⟩
    · exact ⟨L, there, longer⟩
  labels := h.labels
  gotos := h.gotos

theorem Extends.addBlock (h : o.Extends b) (name : String) : o.Extends (b.addBlock name) where
  size := by have := h.size; simp; omega
  fills := h.fills
  blocks j old other := by
    have elsewhere : j ≠ b.blocks.size := by have := h.size; omega
    rw [blocks_addBlock, if_neg elsewhere]
    exact h.blocks j old other
  filled K here := by
    obtain ⟨L, there, longer⟩ := h.filled K here
    have old := (Array.getElem?_eq_some_iff.mp there).1
    rw [blocks_addBlock, if_neg (by omega)]
    exact ⟨L, there, longer⟩
  labels := h.labels
  gotos := h.gotos

theorem Extends.startBlock (h : o.Extends b) (name : String) : o.Extends (b.startBlock name) :=
  { h.addBlock name with fills := .inr h.size }

theorem Extends.addGoto (h : o.Extends b) (g : PendingGoto) : o.Extends (b.addGoto g) :=
  { h with gotos := h.gotos.trans (List.prefix_append _ _) }

theorem Extends.fallInto (h : o.Extends b) (target : Nat) : o.Extends (b.fallInto target) := by
  unfold Body.fallInto
  split
  · exact h.terminate _
  · exact h

theorem labels_fallInto (b : Body) (target : Nat) : (b.fallInto target).labels = b.labels := by
  unfold fallInto
  split <;> rfl

theorem env_startLabel (b : Body) (name : String) : (b.startLabel name).env = b.env := by
  show ((b.addBlock ("label." ++ name)).fallInto b.blocks.size).env = b.env
  unfold fallInto
  split <;> rfl

theorem Extends.addLabel (h : o.Extends b) (fresh : b.label? name = none) (k : Nat) :
    o.Extends (b.addLabel name k) := by
  obtain ⟨new, labels, apart⟩ := h.labels
  have absent := notMem_labels_of_label? fresh
  refine { h with labels := ⟨(name, k) :: new, by rw [labels_addLabel fresh, labels]; rfl, ?_⟩ }
  intro l inside
  rcases List.mem_cons.mp inside with rfl | inside
  · intro old
    rw [labels, List.map_append, List.mem_append] at absent
    exact absent (.inr old)
  · exact apart l inside

theorem Extends.startLabel (h : o.Extends b) (fresh : b.label? name = none) : o.Extends (b.startLabel name) := by
  have entered := (h.addBlock ("label." ++ name)).fallInto b.blocks.size
  have still : ((b.addBlock ("label." ++ name)).fallInto b.blocks.size).label? name = none := by
    rw [label?, labels_fallInto]
    exact fresh
  exact { entered.addLabel still b.blocks.size with fills := .inr h.size }

theorem Extends.step (h : o.Extends b) (next : Step o b c) : o.Extends c := by
  cases next with
  | emit i fills => exact h.append i fills
  | finish can => exact (h.terminate _).startBlock ""
  | wait here => exact (h.addGoto _).startBlock ""
  | label fresh => exact h.startLabel fresh
  | scope e => exact { h with }

theorem Evolves.extends (h : o.Evolves b) : o.Extends b := by
  induction h with
  | refl => exact .refl o
  | step before next ih => exact ih.step next

theorem Evolves.scope (h : o.Evolves b) (e : Environment Local) : o.Evolves { b with env := e } :=
  h.step (.scope e)

theorem Extends.fills_of_fills (h : o.Extends b) {k : Nat} (fills : b.Fills k) : o.Fills k := by
  rcases fills with rfl | beyond
  · exact h.fills
  · exact .inr (Nat.le_trans h.size beyond)

theorem Extends.step_of_step {d : Body} (h : o.Extends b) (next : Step b c d) : Step o c d := by
  cases next with
  | emit i fills => exact .emit i (h.fills_of_fills fills)
  | finish can => exact .finish can
  | wait here => exact .wait here
  | label fresh => exact .label fresh
  | scope e => exact .scope e

theorem Evolves.trans (first : o.Evolves b) (rest : b.Evolves c) : o.Evolves c := by
  induction rest with
  | refl => exact first
  | step before next ih => exact ih.step (first.extends.step_of_step next)

theorem Evolves.keeps {P : Body → Prop} (kept : ∀ o b c, Step o b c → P b → P c) (h : o.Evolves b) (start : P o) :
    P b := by
  induction h with
  | refl => exact start
  | step before next ih => exact kept _ _ _ next ih

theorem Extends.blocks_rollback (h : o.Extends b) : (b.rollback o.mark).blocks = o.blocks := by
  apply Array.ext_getElem?
  intro k
  have cut : (b.blocks.take o.blocks.size)[k]? = if k < o.blocks.size then b.blocks[k]? else none := by
    have size := h.size
    rw [Array.take_eq_extract, Array.getElem?_extract]
    simp only [Nat.sub_zero, Nat.zero_add, Nat.min_eq_left size]
  show ((b.blocks.take o.blocks.size).modify o.current _)[k]? = _
  rw [Array.getElem?_modify, cut]
  by_cases old : k < o.blocks.size
  · by_cases here : o.current = k
    · subst here
      obtain ⟨L, there, longer⟩ := h.filled _ (Array.getElem?_eq_getElem old)
      have insts : o.mark.insts = o.blocks[o.current].insts.size := by simp [mark, nextPlace, old]
      have term : o.mark.term = o.blocks[o.current].term := by simp [mark, old]
      rw [if_pos rfl, if_pos old, there, insts, term]
      exact (congrArg some longer.cut).trans (Array.getElem?_eq_getElem old).symm
    · rw [if_neg here, if_pos old]
      exact h.blocks k old (Ne.symm here)
  · rw [if_neg old, Array.getElem?_eq_none (by omega)]
    split <;> rfl

theorem Extends.labels_rollback (h : o.Extends b) : (b.rollback o.mark).labels = o.labels := by
  obtain ⟨new, labels, apart⟩ := h.labels
  show b.labels.filter (fun l => (o.labels.map (·.1)).contains l.1) = o.labels
  have gone : new.filter (fun l => (o.labels.map (·.1)).contains l.1) = [] := by
    rw [List.filter_eq_nil_iff]
    intro l inside
    simpa using apart l inside
  have kept : o.labels.filter (fun l => (o.labels.map (·.1)).contains l.1) = o.labels := by
    rw [List.filter_eq_self]
    intro l inside
    exact List.contains_iff_mem.mpr (List.mem_map.mpr ⟨l, inside, rfl⟩)
  rw [labels, List.filter_append, gone, kept, List.nil_append]

theorem Extends.rollback_mark (h : o.Extends b) (env : o.env.Within b.env) : b.rollback o.mark = o := by
  have blocks := h.blocks_rollback
  have labels := h.labels_rollback
  have gotos : b.gotos.take o.gotos.length = o.gotos := (List.prefix_iff_eq_take.mp h.gotos).symm
  have scopes := Environment.restore_of_within env
  obtain ⟨oblocks, ocurrent, olabels, ogotos, oenv⟩ := o
  simp only [rollback, mark] at blocks labels gotos scopes ⊢
  rw [blocks, labels, gotos, scopes]

end Body

end FormCompiler
