import FormCompiler.Proofs.SharedStore

namespace FormCompiler

variable {f : Function} {e : Saving} {i : Nat}

namespace Function

structure StandsFor (f g : Function) : Prop where
  same : f.sameAs g = true
  linkage : f.linkage = g.linkage
  internalName : f.internalName = g.internalName

theorem StandsFor.refl (f : Function) : f.StandsFor f := ⟨sameAs_iff.mpr ⟨rfl, rfl⟩, rfl, rfl⟩

theorem StandsFor.symm {g : Function} (h : f.StandsFor g) : g.StandsFor f :=
  ⟨sameAs_symm h.same, h.linkage.symm, h.internalName.symm⟩

theorem StandsFor.trans {g k : Function} (h : f.StandsFor g) (h' : g.StandsFor k) : f.StandsFor k :=
  ⟨sameAs_trans h.same h'.same, h.linkage.trans h'.linkage, h.internalName.trans h'.internalName⟩

end Function

namespace Registry

variable {r : Registry} {name n : String} {f g : Function} {i : Nat}

def Apart (r : Registry) : Prop := ∀ n f g, f ∈ r.overloads n → g ∈ r.overloads n → f.sameAs g = true → f = g

theorem Apart.insert (h : r.Apart) (new : ∀ g ∈ r.overloads name, g.sameAs f = false) : (r.insert name f).Apart := by
  have other {g : Function} {P : Prop} (registered : g ∈ r.overloads name) (same : g.sameAs f = true) : P := by
    rw [new g registered] at same
    cases same
  intro n a b inside inside' same
  rcases mem_overloads_of_put inside with old | ⟨rfl, rfl⟩
  · rcases mem_overloads_of_put inside' with old' | ⟨rfl, rfl⟩
    · exact h n a b old old' same
    · exact other old same
  · rcases mem_overloads_of_put inside' with old' | ⟨-, rfl⟩
    · exact other old' (Function.sameAs_symm same)
    · rfl

theorem Numbers.nodup_overloads {size : Nat} (numbers : r.Numbers size) (n : String) : (r.overloads n).Nodup := by
  have symbols : (r.functions.map (·.symbol)).Nodup :=
    numbers.symbols.nodup_iff.mpr
      (List.Pairwise.map some (fun _ _ apart eq => apart (Option.some.inj eq)) List.nodup_range)
  have functions : r.functions.Nodup := List.Pairwise.of_map _ (fun _ _ apart eq => apart (congrArg _ eq)) symbols
  obtain ⟨front, back, split, -⟩ := exists_functions_assign numbers.names n
  rw [split, List.append_assoc, List.nodup_append, List.nodup_append] at functions
  exact functions.2.1.1

end Registry

open IR (Module Func)

namespace CompilationUnit

variable {u : CompilationUnit} {d : Definition} {p : Placed} {m : Module} {r : Registry}

theorem standsFor_of_found (named : u.module.Named u.registry) (regular : d.Regular)
    (found : u.registry.find? d.name d.function = some (f, i)) (linkage : f.linkage = d.function.linkage) :
    f.StandsFor d.function :=
  ⟨(Registry.find?_eq_some found).2, linkage, internalName_of_found named regular found linkage⟩

end CompilationUnit

/-- Two functions that cannot be told apart, neither by the types of their parameters nor by their symbols. A
symbol that is disguised is never found to be taken. -/
structure Clash (n : String) (f : Function) (m : String) (g : Function) : Prop where
  apart : ¬(n = m ∧ f.sameAs g = true)
  alike : (n = m ∧ f.paramTypes = g.paramTypes) ∨
    (f.internalName = g.internalName ∧ ¬IR.Name.Disguised f.internalName)

namespace Clash

variable {n m : String} {f f' g g' : Function}

theorem symm (h : Clash n f m g) : Clash m g n f := by
  refine ⟨fun same => h.apart ⟨same.1.symm, Function.sameAs_symm same.2⟩, ?_⟩
  rcases h.alike with ⟨name, types⟩ | ⟨symbol, plain⟩
  · exact .inl ⟨name.symm, types.symm⟩
  · exact .inr ⟨symbol.symm, symbol ▸ plain⟩

theorem of_standsFor (h : Clash n f m g) (first : f'.StandsFor f) (second : g'.StandsFor g) : Clash n f' m g' := by
  refine ⟨fun same => h.apart ⟨same.1, ?_⟩, ?_⟩
  · exact Function.sameAs_trans (Function.sameAs_symm first.same) (Function.sameAs_trans same.2 second.same)
  · rw [first.internalName, second.internalName, (Function.sameAs_iff.mp first.same).2,
      (Function.sameAs_iff.mp second.same).2]
    exact h.alike

end Clash

/-- Two units have defined these functions, and the one that was later had been opened before the other had
saved its own. -/
def Raced (history : List Saving) (n : String) (f : Function) (m : String) (g : Function) : Prop :=
  ∃ (i j : Nat) (e e' : Saving), history[i]? = some e ∧ history[j]? = some e' ∧ i < j ∧ e.unit ≠ e'.unit ∧ e'.seen ≤ i ∧
    ((e.Of n f ∧ e'.Of m g) ∨ (e.Of m g ∧ e'.Of n f))

namespace Raced

variable {history : List Saving} {n m : String} {f f' g g' : Function}

theorem symm (h : Raced history n f m g) : Raced history m g n f := by
  obtain ⟨i, j, e, e', first, second, order, units, seen, which⟩ := h
  exact ⟨i, j, e, e', first, second, order, units, seen, which.symm⟩

theorem append (h : Raced history n f m g) (more : List Saving) : Raced (history ++ more) n f m g := by
  obtain ⟨i, j, e, e', first, second, rest⟩ := h
  refine ⟨i, j, e, e', ?_, ?_, rest⟩
  · rw [List.getElem?_append_left (List.getElem?_eq_some_iff.mp first).1, first]
  · rw [List.getElem?_append_left (List.getElem?_eq_some_iff.mp second).1, second]

theorem of_same (h : Raced history n f m g) (first : f.sameAs f' = true) (second : g.sameAs g' = true) :
    Raced history n f' m g' := by
  have left {e : Saving} (of : e.Of n f) : e.Of n f' := ⟨of.1, Function.sameAs_trans of.2 first⟩
  have right {e : Saving} (of : e.Of m g) : e.Of m g' := ⟨of.1, Function.sameAs_trans of.2 second⟩
  obtain ⟨i, j, e, e', there, there', order, units, seen, which⟩ := h
  refine ⟨i, j, e, e', there, there', order, units, seen, ?_⟩
  rcases which with ⟨a, b⟩ | ⟨a, b⟩
  · exact .inl ⟨left a, right b⟩
  · exact .inr ⟨right a, left b⟩

end Raced

def Registry.Guarded (history : List Saving) (r : Registry) : Prop :=
  ∀ n f m g, f ∈ r.overloads n → g ∈ r.overloads m → Clash n f m g → Raced history n f m g

theorem Registry.Guarded.append {history : List Saving} {r : Registry} (h : r.Guarded history) (more : List Saving) :
    r.Guarded (history ++ more) :=
  fun n f m g inside inside' clash => (h n f m g inside inside' clash).append more

def Saving.Known (e : Saving) (r : Registry) : Prop := ∃ f ∈ r.overloads e.name, f.StandsFor e.function

namespace CompilationUnit

variable {u : CompilationUnit} {d : Definition} {p : Placed} {history : List Saving}

theorem Placing.standsFor (placing : u.Placing d p) (labels : List String) :
    Function.StandsFor { p.function with labels } d.function := by
  cases placing with
  | new => exact ⟨Function.sameAs_iff.mpr ⟨rfl, rfl⟩, rfl, rfl⟩
  | known => exact ⟨Function.sameAs_iff.mpr ⟨rfl, rfl⟩, rfl, rfl⟩

theorem not_clash_of_new (links : u.module.Links u.registry) (named : u.module.Named u.registry)
    (different : u.registry.exact d.name d.function.paramTypes = none)
    (free : u.module.usesSymbol d.function.internalName = false) {n : String}
    (registered : f ∈ u.registry.overloads n) : ¬Clash n f d.name d.function := by
  intro clash
  rcases clash.alike with ⟨rfl, types⟩ | ⟨symbol, plain⟩
  · have other := List.find?_eq_none.mp different f registered
    exact other (beq_iff_eq.mpr types)
  · have known := Registry.mem_functions_of_overloads registered
    obtain ⟨k, g, here, there⟩ := links.exists_symbol known
    have called := named.linked f known k g here there
    have other : IR.Name.shown g.name 0 ≠ d.function.internalName := by
      simpa using Array.any_eq_false'.mp free g (Array.mem_of_getElem? there)
    rw [called, IR.Name.shown_of_not_disguised plain] at other
    exact other symbol

theorem Placing.guarded (placing : u.Placing d p) (links : u.module.Links u.registry)
    (named : u.module.Named u.registry) (regular : d.Regular) (h : u.registry.Guarded history) (labels : List String) :
    (u.registry.put d.name p.position { p.function with labels }).Guarded history := by
  have entered := placing.standsFor labels
  intro n f m g inside inside' clash
  cases placing with
  | new unknown different free declared =>
    have none {n : String} {f : Function} (registered : f ∈ u.registry.overloads n) :=
      not_clash_of_new links named different free registered
    rcases Registry.mem_overloads_of_put inside with old | ⟨rfl, rfl⟩
    · rcases Registry.mem_overloads_of_put inside' with old' | ⟨rfl, rfl⟩
      · exact h n f m g old old' clash
      · exact absurd (clash.of_standsFor (.refl f) entered.symm) (none old)
    · rcases Registry.mem_overloads_of_put inside' with old' | ⟨rfl, rfl⟩
      · exact absurd (clash.symm.of_standsFor (.refl g) entered.symm) (none old')
      · exact absurd ⟨rfl, Function.sameAs_iff.mpr ⟨rfl, rfl⟩⟩ clash.apart
  | @known k i found linkage filled bare =>
    -- What takes the place of a function stands for it, so nothing can clash with it that did not before.
    have stands := standsFor_of_found named regular found linkage
    have before {n : String} {f : Function}
        (inside : f ∈ (u.registry.put d.name i { d.function with symbol := k.symbol, labels }).overloads n) :
        ∃ f' ∈ u.registry.overloads n, f'.StandsFor f := by
      rcases Registry.mem_overloads_of_put inside with old | ⟨rfl, rfl⟩
      · exact ⟨f, old, .refl f⟩
      · exact ⟨k, (Registry.find?_eq_some found).1, stands.trans entered.symm⟩
    obtain ⟨f', old, first⟩ := before inside
    obtain ⟨g', old', second⟩ := before inside'
    exact (h n f' m g' old old' (clash.of_standsFor first second)).of_same first.same second.same

theorem Placing.known_put (placing : u.Placing d p) (named : u.module.Named u.registry) (regular : d.Regular)
    (labels : List String) (known : e.Known u.registry) :
    e.Known (u.registry.put d.name p.position { p.function with labels }) := by
  obtain ⟨f, registered, stands⟩ := known
  rcases Registry.mem_overloads_put registered d.name p.position { p.function with labels } with
    kept | ⟨name, there⟩
  · exact ⟨f, kept, stands⟩
  · have entered := placing.standsFor labels
    refine ⟨{ p.function with labels }, ?_, ?_⟩
    · rw [name]
      exact Registry.mem_overloads_put_self ..
    cases placing with
    | new =>
      rw [List.getElem?_eq_none (Nat.le_refl _)] at there
      cases there
    | known found linkage =>
      rw [Registry.getElem?_of_find? found] at there
      obtain rfl := Option.some.inj there
      exact (entered.trans (standsFor_of_found named regular found linkage).symm).trans stands

end CompilationUnit

namespace Workspace

variable {w : Workspace} {k seen : Nat} {u : CompilationUnit} {n : Node}

/-- Each unit knows what it saved itself and what had been exported before it was opened, as long as nothing
else has been saved in its place. Whatever cannot be told apart comes from a race, in the units and in the
store. -/
structure Guarded (w : Workspace) : Prop where
  sound : w.Sound
  numbers : ∀ e ∈ w.history, e.unit < w.units.length
  opened : ∀ m ∈ w.units, m.2 ≤ w.history.length
  named : ∀ m ∈ w.units, m.1.module.Named m.1.registry
  knows : ∀ (k seen : Nat) (u : CompilationUnit), w.units[k]? = some (u, seen) → ∀ i e, Lasting w.history i e →
    e.unit = k ∨ (i < seen ∧ e.isExported) → e.Known u.registry
  units : ∀ m ∈ w.units, m.1.registry.Guarded w.history
  rows : ∀ i e j e', Lasting w.history i e → Lasting w.history j e' → e.isExported → e'.isExported →
    Clash e.name e.function e'.name e'.function → Raced w.history e.name e.function e'.name e'.function

theorem getElem?_set_cases {units : List (CompilationUnit × Nat)} {u' v : CompilationUnit} {j seen' : Nat}
    (there : (units.set k (u', seen))[j]? = some (v, seen')) :
    (j = k ∧ v = u' ∧ seen' = seen) ∨ (j ≠ k ∧ units[j]? = some (v, seen')) := by
  by_cases here : k = j
  · subst here
    rw [List.getElem?_set_self'] at there
    obtain ⟨_, -, same⟩ := Option.map_eq_some_iff.mp there
    obtain ⟨rfl, rfl⟩ := Prod.mk.inj same
    exact .inl ⟨rfl, rfl, rfl⟩
  · rw [List.getElem?_set_ne here] at there
    exact .inr ⟨Ne.symm here, there⟩

section Saved

variable {d : Definition} {p : CompilationUnit.Placed} {u' : CompilationUnit} (h : w.Guarded)
  (there : w.units[k]? = some (u, seen))

include h there

theorem Guarded.raced_saved (regular : d.Regular) (placing : u.Placing d p)
    (entry : e = ⟨k, seen, u.id, d.name, d.function⟩) {e' : Saving} (lasting : Lasting w.history i e')
    (exported : e'.isExported) (clash : Clash e'.name e'.function d.name d.function) :
    Raced (w.history ++ [e]) e'.name e'.function d.name d.function := by
  have inside := List.mem_of_getElem? there
  have links : u.module.Links u.registry := (h.sound.units _ inside).links
  have named : u.module.Named u.registry := h.named _ inside
  by_cases known : e'.Known u.registry
  · obtain ⟨f, registered, stands⟩ := known
    cases placing with
    | new unknown different free =>
      have none := CompilationUnit.not_clash_of_new links named different free registered
      exact absurd (clash.of_standsFor stands (.refl _)) none
    | @known g j found linkage =>
      have stands' := CompilationUnit.standsFor_of_found named regular found linkage
      have registered' := (Registry.find?_eq_some found).1
      have raced := h.units _ inside e'.name f d.name g registered registered' (clash.of_standsFor stands stands')
      exact (raced.of_same stands.same stands'.same).append [e]
  · have other : e'.unit ≠ k ∧ ¬i < seen := by
      constructor
      · exact fun own => known (h.knows k seen u there i e' lasting (.inl own))
      · exact fun before => known (h.knows k seen u there i e' lasting (.inr ⟨before, exported⟩))
    subst entry
    refine ⟨i, w.history.length, e', ⟨k, seen, u.id, d.name, d.function⟩, ?_, ?_, lasting.lt, other.1,
      Nat.not_lt.mp other.2, .inl ⟨⟨rfl, Function.sameAs_iff.mpr ⟨rfl, rfl⟩⟩, rfl, Function.sameAs_iff.mpr ⟨rfl, rfl⟩⟩⟩
    · rw [List.getElem?_append_left lasting.lt, lasting.there]
    · simp

theorem Guarded.rows_saved (regular : d.Regular) (placing : u.Placing d p)
    (entry : e = ⟨k, seen, u.id, d.name, d.function⟩) {a b : Saving} {j : Nat}
    (lasting : Lasting (w.history ++ [e]) i a) (lasting' : Lasting (w.history ++ [e]) j b) (exported : a.isExported)
    (exported' : b.isExported) (clash : Clash a.name a.function b.name b.function) :
    Raced (w.history ++ [e]) a.name a.function b.name b.function := by
  have race {i : Nat} {e' : Saving} (lasting : Lasting w.history i e') (exported : e'.isExported) :=
    h.raced_saved there regular placing entry lasting exported
  rcases Lasting.append_iff.mp lasting with ⟨rfl, rfl⟩ | ⟨earlier, -⟩
  · rcases Lasting.append_iff.mp lasting' with ⟨rfl, rfl⟩ | ⟨earlier', -⟩
    · exact absurd ⟨rfl, Function.sameAs_iff.mpr ⟨rfl, rfl⟩⟩ clash.apart
    · subst entry
      exact (race earlier' exported' clash.symm).symm
  · rcases Lasting.append_iff.mp lasting' with ⟨rfl, rfl⟩ | ⟨earlier', -⟩
    · subst entry
      exact race earlier exported clash
    · exact (h.rows i a j b earlier earlier' exported exported' clash).append [e]

theorem Guarded.knows_saved (known : ∀ e : Saving, e.Known u.registry → e.Known u'.registry) (own : e.unit = k)
    (entered : e.Known u'.registry) {j seen' : Nat} {v : CompilationUnit}
    (there' : (w.units.set k (u', seen))[j]? = some (v, seen')) {e' : Saving}
    (lasting : Lasting (w.history ++ [e]) i e') (which : e'.unit = j ∨ (i < seen' ∧ e'.isExported)) :
    e'.Known v.registry := by
  rcases getElem?_set_cases there' with ⟨rfl, rfl, rfl⟩ | ⟨other, unchanged⟩
  · rcases Lasting.append_iff.mp lasting with ⟨rfl, rfl⟩ | ⟨earlier, -⟩
    · exact entered
    · exact known e' (h.knows j seen' u there i e' earlier which)
  · rcases Lasting.append_iff.mp lasting with ⟨rfl, rfl⟩ | ⟨earlier, -⟩
    · -- The others neither saved this nor were opened after it.
      rcases which with same | ⟨before, -⟩
      · exact absurd (same.symm.trans own) other
      · have bound : seen' ≤ w.history.length := h.opened (v, seen') (List.mem_of_getElem? unchanged)
        omega
    · exact h.knows j seen' v unchanged i e' earlier which

/-- What the unit knew before it still knows, and what it knows now does not clash unless there was a race. -/
theorem Guarded.set (known : ∀ e : Saving, e.Known u.registry → e.Known u'.registry)
    (guarded : u'.registry.Guarded w.history) (named : u'.module.Named u'.registry)
    (sound : Sound { w with units := w.units.set k (u', seen) }) :
    Guarded { w with units := w.units.set k (u', seen) } := by
  have opened : seen ≤ w.history.length := h.opened _ (List.mem_of_getElem? there)
  refine ⟨sound, fun e member => ?_, forall_units_set h.opened opened, forall_units_set h.named named, ?_,
    forall_units_set h.units guarded, h.rows⟩
  · rw [List.length_set]
    exact h.numbers e member
  · intro j seen' v there' i e lasting which
    rcases getElem?_set_cases there' with ⟨rfl, rfl, rfl⟩ | ⟨-, there'⟩
    · exact known e (h.knows j seen' u there i e lasting which)
    · exact h.knows j seen' v there' i e lasting which

theorem Guarded.compile (legible : n.Legible) : (w.compile k u seen n).Guarded := by
  have inside := List.mem_of_getElem? there
  have links : u.module.Links u.registry := (h.sound.units _ inside).links
  have named : u.module.Named u.registry := h.named _ inside
  have sound := h.sound.compile there legible
  have changes : Changes w k u seen _ (w.compile k u seen n) := changes_compile h.sound.isOpen links legible
  have named' := (CompilationUnit.advances_compileForm links.tidy (some w.store) n).named links named
  generalize (u.compileForm (some w.store) n).unit = u', w.compile k u seen n = w' at changes sound named'
  cases changes with
  | kept registry => exact h.set there (fun e known => registry ▸ known) (registry ▸ h.units _ inside) named' sound
  | @entered d p labels regular placing registry =>
    refine h.set there ?_ ?_ named' sound
    · intro e known
      rw [registry]
      exact placing.known_put named regular labels known
    · rw [registry]
      exact placing.guarded links named regular (h.units _ inside) labels
  | @saved d p labels e regular placing registry entry good =>
    have known (o : Saving) (before : o.Known u.registry) : o.Known u'.registry := by
      rw [registry]
      exact placing.known_put named regular labels before
    have entered : e.Known u'.registry := by
      rw [registry, entry]
      exact ⟨_, Registry.mem_overloads_put_self _ _ _ _, placing.standsFor labels⟩
    have guarded : u'.registry.Guarded w.history := by
      rw [registry]
      exact placing.guarded links named regular (h.units _ inside) labels
    have own : e.unit = k := by rw [entry]
    have opened : seen ≤ w.history.length := h.opened _ inside
    refine ⟨sound, ?_, ?_, forall_units_set h.named named', ?_, ?_, ?_⟩
    · intro e' member
      show e'.unit < (w.units.set k (u', seen)).length
      rw [List.length_set]
      rcases List.mem_append.mp member with old | new
      · exact h.numbers e' old
      · rw [List.mem_singleton.mp new, own]
        exact (List.getElem?_eq_some_iff.mp there).1
    · intro m member
      rw [List.length_append]
      exact Nat.le_add_right_of_le (forall_units_set h.opened opened m member)
    · exact fun j seen' v there' i e' lasting which => h.knows_saved there known own entered there' lasting which
    · intro m member
      exact (forall_units_set h.units guarded m member).append [e]
    · intro i a j b lasting lasting' exported exported' clash
      exact h.rows_saved there regular placing entry lasting lasting' exported exported' clash

end Saved

theorem named_importRecord (links : u.module.Links u.registry) (named : u.module.Named u.registry) (sound : e.Sound) :
    (u.importRecord e.record).module.Named (u.importRecord e.record).registry := by
  by_cases hidden : e.function.linkage = .internal
  · rw [Saving.importRecord_internal hidden]
    exact named
  obtain ⟨f, g, restores, linkage, declared, imported⟩ := Saving.importRecord_exported sound hidden u
  rw [imported]
  split
  · exact named
  · have types : f.params.map (·.type) = e.function.params.map (·.type) := (Function.sameAs_iff.mp restores.same).2
    have name : f.internalName = Definition.internalName f.linkage e.name f.params := by
      rw [restores.internalName, sound.name, Definition.internalName, Definition.internalName, linkage, types]
    exact named.declareNew (f := { f with symbol := some u.module.funcs.size }) links.numbers rfl name declared

theorem named_importRecords {rows : List Record} (links : u.module.Links u.registry)
    (named : u.module.Named u.registry) (each : ∀ r ∈ rows, ∃ e : Saving, e.Sound ∧ r = e.record) :
    (rows.foldl CompilationUnit.importRecord u).module.Named (rows.foldl CompilationUnit.importRecord u).registry := by
  induction rows generalizing u with
  | nil => exact named
  | cons r rows ih =>
    obtain ⟨e, sound, rfl⟩ := each r List.mem_cons_self
    exact ih (CompilationUnit.links_importRecord links _) (named_importRecord links named sound)
      fun r inside => each r (List.mem_cons_of_mem _ inside)

theorem Sound.named_next (h : w.Sound) (id : String) : (w.next id).module.Named (w.next id).registry := by
  rw [h.next_eq]
  apply named_importRecords (CompilationUnit.links_new id)
  · exact ⟨List.forall_mem_nil _, List.forall_mem_nil _⟩
  · intro r inside
    obtain ⟨e, ⟨i, lasting⟩, same⟩ := h.exists_lasting r inside
    exact ⟨e, h.savings e lasting.mem, same⟩

theorem Guarded.known_next (h : w.Guarded) (id : String) (lasting : Lasting w.history i e) (exported : e.isExported) :
    e.Known (w.next id).registry := by
  obtain ⟨f, inside, restores, linkage⟩ := (h.sound.next id).2 i e lasting exported
  exact ⟨f, inside, restores.same, linkage, restores.internalName⟩

theorem Guarded.guarded_next (h : w.Guarded) (id : String) : (w.next id).registry.Guarded w.history := by
  obtain ⟨supplies, -⟩ := h.sound.next id
  intro n f m g inside inside' clash
  obtain ⟨e, ⟨i, lasting⟩, exported, rfl, restores, linkage⟩ := supplies n f inside
  obtain ⟨e', ⟨j, lasting'⟩, exported', rfl, restores', linkage'⟩ := supplies m g inside'
  have stands : e.function.StandsFor f := ⟨Function.sameAs_symm restores.same, linkage.symm, restores.internalName.symm⟩
  have stands' : e'.function.StandsFor g :=
    ⟨Function.sameAs_symm restores'.same, linkage'.symm, restores'.internalName.symm⟩
  have raced := h.rows i e j e' lasting lasting' exported exported' (clash.of_standsFor stands stands')
  exact raced.of_same stands.same stands'.same

theorem Guarded.join (h : w.Guarded) (id : String) : (w.act (.join id)).Guarded := by
  refine ⟨h.sound.join id, ?_, forall_units_join h.opened (Nat.le_refl _),
    forall_units_join h.named (h.sound.named_next id), ?_, forall_units_join h.units (h.guarded_next id), h.rows⟩
  · intro e inside
    have bound := h.numbers e inside
    simp only [act, List.length_append, List.length_singleton]
    omega
  · intro k seen u there i e lasting which
    by_cases old : k < w.units.length
    · have before : w.units[k]? = some (u, seen) := by
        rw [← there]
        exact (List.getElem?_append_left old).symm
      exact h.knows k seen u before i e lasting which
    · rw [act, List.getElem?_append_right (Nat.not_lt.mp old)] at there
      obtain ⟨rfl, -⟩ := Prod.mk.inj (List.mem_singleton.mp (List.mem_of_getElem? there))
      rcases which with own | ⟨-, exported⟩
      · exact absurd (own ▸ h.numbers e lasting.mem) old
      · exact h.known_next id lasting exported

theorem guarded_run (actions : List Action) : (run actions).Guarded := by
  apply run_induction
  · refine ⟨sound_run [], ?_, ?_, ?_, ?_, ?_, ?_⟩
    · exact List.forall_mem_nil _
    · exact List.forall_mem_nil _
    · exact List.forall_mem_nil _
    · intro k seen u there
      cases there
    · exact List.forall_mem_nil _
    · intro i e j e' lasting
      cases lasting.there
  · exact fun w id h => h.join id
  · exact fun w k u seen n h there legible => h.compile there legible

theorem apart_importRecord (h : u.registry.Apart) (r : Record) : (u.importRecord r).registry.Apart := by
  unfold CompilationUnit.importRecord
  split
  · exact h
  · exact h
  · split
    · exact h
    · rename_i f read
      split
      · exact h
      · rename_i unknown
        cases declared : f.declaration with
        | error fault =>
          simp only [Module.declare, declared, Except.map]
          exact h
        | ok g =>
          simp only [Module.declare, declared, Except.map]
          apply h.insert
          intro g registered
          have absent : u.registry.find? r.name f = none := by simpa using unknown
          have other : g.sameAs f = false := Registry.not_sameAs_of_find? absent registered
          exact other

theorem apart_importRecords (h : u.registry.Apart) (rows : List Record) :
    (rows.foldl CompilationUnit.importRecord u).registry.Apart := by
  induction rows generalizing u with
  | nil => exact h
  | cons r rows ih => exact ih (apart_importRecord h r)

/-- Two overloads that take the same parameters, or two functions of the module with the same name, come from a race
unless their names are disguised. -/
theorem clashes_come_from_races (actions : List Action) (id : String) :
    (∀ n, (((run actions).next id).registry.overloads n).Pairwise fun f g =>
      f.paramTypes = g.paramTypes → Raced (run actions).history n f n g) ∧
    ∀ i j g g', i < j → ((run actions).next id).module.funcs[i]? = some g →
      ((run actions).next id).module.funcs[j]? = some g' → g.name = g'.name → ¬IR.Name.Disguised g.name →
      ∃ n f n' f', f ∈ ((run actions).next id).registry.overloads n ∧ f.symbol = some i ∧
        f' ∈ ((run actions).next id).registry.overloads n' ∧ f'.symbol = some j ∧
        Raced (run actions).history n f n' f' := by
  have h := guarded_run actions
  have guarded := h.guarded_next id
  have named := h.sound.named_next id
  have links : ((run actions).next id).module.Links ((run actions).next id).registry :=
    (CompilationUnit.Arises.withStore id (run actions).store).links
  have apart : ((run actions).next id).registry.Apart := by
    rw [h.sound.next_eq]
    exact apart_importRecords (fun _ _ _ none => (List.not_mem_nil none).elim) _
  generalize (run actions).next id = v at guarded named links apart ⊢
  constructor
  · intro n
    refine List.Pairwise.imp_of_mem ?_ (links.numbers.nodup_overloads n)
    intro f g inside inside' different types
    refine guarded n f n g inside inside' ⟨?_, .inl ⟨rfl, types⟩⟩
    exact fun same => different (apart n f g inside inside' same.2)
  · intro i j g g' order there there' same plain
    obtain ⟨f, registered, symbol⟩ := links.numbers.exists_function (Array.getElem?_eq_some_iff.mp there).1
    obtain ⟨f', registered', symbol'⟩ := links.numbers.exists_function (Array.getElem?_eq_some_iff.mp there').1
    obtain ⟨n, inside⟩ := Registry.exists_overloads_of_mem_functions links.numbers.names registered
    obtain ⟨n', inside'⟩ := Registry.exists_overloads_of_mem_functions links.numbers.names registered'
    refine ⟨n, f, n', f', inside, symbol, inside', symbol', guarded n f n' f' inside inside' ⟨?_, .inr ?_⟩⟩
    · rintro ⟨rfl, equal⟩
      obtain rfl := apart n f f' inside inside' equal
      rw [symbol] at symbol'
      exact absurd (Option.some.inj symbol') (Nat.ne_of_lt order)
    · rw [← named.linked f registered i g symbol there, ← named.linked f' registered' j g' symbol' there']
      exact ⟨same, plain⟩

/-- Two units that do not know of each other define functions that differ only in what they return. -/
def race : List Action :=
  [.join "1", .join "2", .compile 0 "" "(def f (fn extern int () (return 1)))" 0,
    .compile 1 "" "(def f (fn extern bool () (return true)))" 0]

theorem next_race : ∃ f g, ((run race).next "3").registry.overloads "f" = [f, g] ∧ f.returnType = .int32 ∧
    g.returnType = .bool ∧ f.paramTypes = g.paramTypes ∧
    ((run race).next "3").module.funcs.toList.map (·.name) = [.ofString "_Z1fv", .ofString "_Z1fv"] := by
  have loaded : let v := (run race).store.rows.foldl CompilationUnit.importRecord (.new "3")
      (run race).store.rows.Pairwise (fun a b => Store.rowLe a b = true) ∧
      (v.registry.overloads "f").map (fun f => (f.returnType, f.paramTypes)) = [(.int32, []), (.bool, [])] ∧
      v.module.funcs.toList.map (·.name) = [.ofString "_Z1fv", .ofString "_Z1fv"] := by
    decide +kernel
  obtain ⟨sorted, functions, symbols⟩ := loaded
  rw [(sound_run _).next_eq, List.mergeSort_of_pairwise sorted]
  obtain ⟨f, rest, overloads, first, others⟩ := List.map_eq_cons_iff.mp functions
  obtain ⟨g, rest, rfl, second, none⟩ := List.map_eq_cons_iff.mp others
  obtain rfl := List.map_eq_nil_iff.mp none
  obtain ⟨returns, params⟩ := Prod.mk.inj first
  obtain ⟨returns', params'⟩ := Prod.mk.inj second
  exact ⟨f, g, overloads, returns, returns', params.trans params'.symm, symbols⟩

/-- The unit that is opened behind them finds both, as overloads with the same parameters and by one symbol. -/
theorem imports_clash : ¬((((run race).next "3").registry.overloads "f").map Function.paramTypes).Nodup ∧
    ¬(((run race).next "3").module.funcs.toList.map (·.name)).Nodup := by
  obtain ⟨f, g, overloads, -, -, types, symbols⟩ := next_race
  rw [overloads, symbols]
  simp [types]

theorem clashes_come_from_races_returns : ∃ f g, f.returnType = .int32 ∧ g.returnType = .bool ∧
    f.paramTypes = g.paramTypes ∧ Raced (run race).history "f" f "f" g := by
  obtain ⟨f, g, overloads, returns, returns', types, -⟩ := next_race
  have pairs := (clashes_come_from_races race "3").1 "f"
  rw [overloads, List.pairwise_pair] at pairs
  exact ⟨f, g, returns, returns', types, pairs types⟩

end Workspace

end FormCompiler
