import FormCompiler.Proofs.Consistency
import FormCompiler.Proofs.Metadata

namespace FormCompiler

variable {s : Store} {d : Definition} {w : Workspace}

/-- A definition that a unit saved. The unit goes by a number and an identifier, and `seen` is how many
definitions had been saved when it was opened. -/
structure Saving where
  unit : Nat
  seen : Nat
  id : String
  name : String
  function : Function

namespace Saving

def record (e : Saving) : Record := .ofFunction e.id e.name e.function

def isExported (e : Saving) : Prop := e.function.linkage ≠ .internal

def Of (e : Saving) (name : String) (f : Function) : Prop := e.name = name ∧ e.function.sameAs f = true

instance (e : Saving) : Decidable e.isExported := inferInstanceAs (Decidable (_ ≠ _))

instance (e : Saving) (name : String) (f : Function) : Decidable (e.Of name f) := inferInstanceAs (Decidable (_ ∧ _))

structure Sound (e : Saving) : Prop where
  name : e.function.internalName = Definition.internalName e.function.linkage e.name e.function.params
  written : e.function.Written
  declared : ∃ g, e.function.declaration = .ok g

theorem fingerprint_of {e e' : Saving} (h : e.Of e'.name e'.function) :
    e.record.fingerprint = e'.record.fingerprint := by
  obtain ⟨name, same⟩ := h
  obtain ⟨returns, params⟩ := Function.sameAs_iff.mp same
  show fingerprintOf _ _ _ = fingerprintOf _ _ _
  rw [name, returns, params]

end Saving

/-- Units that were opened one after another with the same store, each with the number of definitions that
had been saved by then, and all definitions that have been saved. -/
structure Workspace where
  store : Store := {}
  units : List (CompilationUnit × Nat) := []
  history : List Saving := []

namespace Workspace

/-- What happens in a workspace: a unit is opened, or a unit compiles one form of a text. -/
inductive Action where
  | join (id : String)
  | compile (unit : Nat) (source code : String) (form : Nat)

/-- What a unit saves by a form: a definition that was accepted, if it has a body and is to be saved. -/
def savings (k seen : Nat) (u : CompilationUnit) (fault : Option Fault) (n : Node) : List Saving :=
  match fault, Definition.read n with
  | none, .ok d => if d.body.isEmpty || !d.function.serialise then [] else [⟨k, seen, u.id, d.name, d.function⟩]
  | _, _ => []

def compile (w : Workspace) (k : Nat) (u : CompilationUnit) (seen : Nat) (n : Node) : Workspace :=
  let o := u.compileForm (some w.store) n
  ⟨o.store.getD w.store, w.units.set k (o.unit, seen), w.history ++ savings k seen u o.fault n⟩

def next (w : Workspace) (id : String) : CompilationUnit := (CompilationUnit.withStore id w.store).1

def act (w : Workspace) : Action → Workspace
  | .join id => { w with units := w.units ++ [(w.next id, w.history.length)] }
  | .compile k source code form =>
    match w.units[k]?, (Node.read source code).nodes[form]? with
    | some (u, seen), some n => w.compile k u seen n
    | _, _ => w

/-- Whatever units do, in any order, with a store that is empty at first. -/
def run (actions : List Action) : Workspace := actions.foldl act {}

structure Lasting (history : List Saving) (i : Nat) (e : Saving) : Prop where
  there : history[i]? = some e
  last : ∀ j e', i < j → history[j]? = some e' → e'.record.fingerprint ≠ e.record.fingerprint

namespace Lasting

variable {history : List Saving} {i j : Nat} {e e' : Saving}

theorem mem (h : Lasting history i e) : e ∈ history := List.mem_of_getElem? h.there

theorem lt (h : Lasting history i e) : i < history.length := (List.getElem?_eq_some_iff.mp h.there).1

theorem unique (h : Lasting history i e) (h' : Lasting history j e')
    (same : e.record.fingerprint = e'.record.fingerprint) : i = j ∧ e = e' := by
  rcases Nat.lt_trichotomy i j with before | here | behind
  · exact absurd same.symm (h.last j e' before h'.there)
  · subst here
    exact ⟨rfl, Option.some.inj (h.there.symm.trans h'.there)⟩
  · exact absurd same (h'.last i e behind h.there)

theorem append_iff {new : Saving} : Lasting (history ++ [new]) i e ↔
    (i = history.length ∧ e = new) ∨ (Lasting history i e ∧ e.record.fingerprint ≠ new.record.fingerprint) := by
  have atEnd : (history ++ [new])[history.length]? = some new := by simp
  constructor
  · intro h
    by_cases here : i = history.length
    · subst here
      exact .inl ⟨rfl, Option.some.inj (h.there.symm.trans atEnd)⟩
    · have bound : i < history.length + 1 := by simpa using h.lt
      have earlier : i < history.length := by omega
      refine .inr ⟨⟨?_, ?_⟩, ?_⟩
      · rw [← h.there, List.getElem?_append_left earlier]
      · intro j e' behind there
        have inside : j < history.length := (List.getElem?_eq_some_iff.mp there).1
        exact h.last j e' behind (by rw [List.getElem?_append_left inside, there])
      · exact (h.last history.length new earlier atEnd).symm
  · intro h
    rcases h with ⟨rfl, rfl⟩ | ⟨h, apart⟩
    · refine ⟨atEnd, ?_⟩
      intro j e' behind there
      have bound : j < history.length + 1 := by simpa using (List.getElem?_eq_some_iff.mp there).1
      omega
    · refine ⟨by rw [List.getElem?_append_left h.lt, h.there], ?_⟩
      intro j e' behind there
      by_cases inside : j < history.length
      · exact h.last j e' behind (by rw [← there, List.getElem?_append_left inside])
      · have bound : j < history.length + 1 := by simpa using (List.getElem?_eq_some_iff.mp there).1
        have here : j = history.length := by omega
        subst here
        obtain rfl : new = e' := Option.some.inj (atEnd.symm.trans there)
        exact apart.symm

theorem exists_last (there : history[i]? = some e) :
    ∃ j e', i ≤ j ∧ Lasting history j e' ∧ e'.record.fingerprint = e.record.fingerprint := by
  induction h : history.length - i using Nat.strongRecOn generalizing i e with
  | _ gap ih =>
    by_cases last : ∃ j e', i < j ∧ history[j]? = some e' ∧ e'.record.fingerprint = e.record.fingerprint
    · obtain ⟨j, e', behind, there', same⟩ := last
      have bound := (List.getElem?_eq_some_iff.mp there').1
      obtain ⟨k, e'', later, lasting, same'⟩ := ih (history.length - j) (by omega) there' rfl
      exact ⟨k, e'', by omega, lasting, same'.trans same⟩
    · refine ⟨i, e, Nat.le_refl i, ⟨there, ?_⟩, rfl⟩
      intro j e' behind there' same
      exact last ⟨j, e', behind, there', same⟩

end Lasting

variable {w : Workspace} {k seen : Nat} {u : CompilationUnit} {n : Node}

/-- What becomes of a workspace when a unit compiles a form: the registry of the unit stays as it is, or one
function is entered, which may be saved. -/
inductive Changes (w : Workspace) (k : Nat) (u : CompilationUnit) (seen : Nat) (u' : CompilationUnit) : Workspace → Prop
  | kept (registry : u'.registry = u.registry) : Changes w k u seen u' { w with units := w.units.set k (u', seen) }
  | entered {d : Definition} {p : CompilationUnit.Placed} {labels : List String} (regular : d.Regular)
    (placing : u.Placing d p)
    (registry : u'.registry = u.registry.put d.name p.position { p.function with labels }) :
    Changes w k u seen u' { w with units := w.units.set k (u', seen) }
  | saved {d : Definition} {p : CompilationUnit.Placed} {labels : List String} {e : Saving} (regular : d.Regular)
    (placing : u.Placing d p)
    (registry : u'.registry = u.registry.put d.name p.position { p.function with labels })
    (entry : e = ⟨k, seen, u.id, d.name, d.function⟩) (sound : e.Sound) :
    Changes w k u seen u'
      ⟨{ w.store with rows := w.store.rows.filter (fun o => o.fingerprint != e.record.fingerprint) ++ [e.record] },
        w.units.set k (u', seen), w.history ++ [e]⟩

theorem saveMetadata_of_open (isOpen : s.isClosed = false) (unit name : String) (f : Function) :
    CompilationUnit.saveMetadata unit name f (some s) = (.ok (), some (if f.serialise then
      { s with
        rows := s.rows.filter (fun o => o.fingerprint != (Record.ofFunction unit name f).fingerprint) ++
          [.ofFunction unit name f] } else s)) := by
  unfold CompilationUnit.saveMetadata
  by_cases serialise : f.serialise
  · simp only [serialise, if_true, Storage.save, Store.save_of_open isOpen, Store.rowOf_ofFunction]
    rfl
  · simp only [serialise, Bool.false_eq_true, if_false]

theorem store_of_define_error (isOpen : s.isClosed = false) {f : Fault}
    (failed : (u.define (some s) d).result = .error f) : (u.define (some s) d).store = some s := by
  unfold CompilationUnit.define at failed ⊢
  split
  · rfl
  · rfl
  · rename_i p placed
    simp only [placed] at failed
    by_cases bare : d.body.isEmpty
    · simp only [bare, if_true] at failed
      cases failed
    · simp only [bare, Bool.false_eq_true, if_false] at failed ⊢
      cases compiled : Body.compile (u.context d p) d.body with
      | error e => rfl
      | ok body =>
        simp only [compiled, saveMetadata_of_open isOpen] at failed
        cases failed

theorem rejected (isOpen : s.isClosed = false) {f : Fault} (failed : (u.compileForm (some s) n).fault = some f) :
    (u.compileForm (some s) n).unit.registry = u.registry ∧ (u.compileForm (some s) n).store = some s := by
  unfold CompilationUnit.compileForm at failed ⊢
  split
  · exact ⟨rfl, rfl⟩
  · rename_i d read
    simp only [read] at failed
    split
    · rename_i same
      rw [same] at failed
      cases failed
    · rename_i same
      refine ⟨rfl, ?_⟩
      have store := store_of_define_error (u := u) isOpen (d := d) (by rw [same])
      rw [same] at store
      exact store

theorem placed_eq {p : CompilationUnit.Placed} (placing : u.Placing d p) (labels : List String) :
    ({ p.function with labels } : Function).serialise = d.function.serialise ∧
      Record.ofFunction u.id d.name { p.function with labels } = .ofFunction u.id d.name d.function := by
  cases placing with
  | new => exact ⟨rfl, rfl⟩
  | known => exact ⟨rfl, rfl⟩

theorem savings_of_accepted (read : Definition.read n = .ok d) :
    savings k seen u none n =
      if d.body.isEmpty || !d.function.serialise then [] else [⟨k, seen, u.id, d.name, d.function⟩] := by
  simp only [savings, read]

theorem savings_of_rejected (f : Fault) : savings k seen u (some f) n = [] := rfl

theorem changes_compile (isOpen : w.store.isClosed = false) (links : u.module.Links u.registry) (legible : n.Legible) :
    Changes w k u seen (u.compileForm (some w.store) n).unit (w.compile k u seen n) := by
  have unchanged {u' : CompilationUnit} {store : Option Store} {saved : List Saving} (same : store = some w.store)
      (none : saved = []) : (⟨store.getD w.store, w.units.set k (u', seen), w.history ++ saved⟩ : Workspace) =
        { w with units := w.units.set k (u', seen) } := by
    rw [same, none, List.append_nil]
    rfl
  unfold compile
  dsimp only
  cases outcome : (u.compileForm (some w.store) n).fault with
  | some f =>
    obtain ⟨registry, store⟩ := rejected isOpen outcome
    rw [unchanged store (savings_of_rejected f)]
    exact .kept registry
  | none =>
    obtain ⟨d, read⟩ := CompilationUnit.exists_definition_of_accepted outcome
    have regular := (Definition.ends_read_regular n).ok read
    have accepts := CompilationUnit.accepts_of_compileForm outcome read
    obtain ⟨g, declared, -⟩ := accepts.exists_declaration links
    rw [savings_of_accepted read]
    generalize (u.compileForm (some w.store) n).unit = u', (u.compileForm (some w.store) n).store = store' at accepts ⊢
    cases accepts with
    | repeated found linkage bare =>
      rw [unchanged rfl (by simp [bare])]
      exact .kept rfl
    | @declared p placing bare =>
      rw [unchanged rfl (by simp [bare])]
      have registry : u.registry.put d.name p.position p.function =
          u.registry.put d.name p.position { p.function with labels := p.function.labels } := rfl
      exact .entered regular placing registry
    | @defined p body labels store' placing filled compiled saved =>
      obtain ⟨serialise, record⟩ := placed_eq placing labels
      rw [saveMetadata_of_open isOpen, serialise, record] at saved
      by_cases serialised : d.function.serialise
      · rw [if_pos serialised] at saved
        have written := (Definition.ends_read_written legible).ok read
        obtain ⟨e, entry⟩ : ∃ e : Saving, e = ⟨k, seen, u.id, d.name, d.function⟩ := ⟨_, rfl⟩
        have row : Record.ofFunction u.id d.name d.function = e.record := by
          rw [entry]
          rfl
        have sound : e.Sound := by
          rw [entry]
          exact ⟨regular.name, written, g, declared⟩
        rw [row] at saved
        obtain rfl : some _ = store' := (Prod.mk.inj saved).2
        rw [if_neg (by simp [filled, serialised]), ← entry]
        exact .saved regular placing rfl entry sound
      · rw [if_neg serialised] at saved
        obtain rfl : some w.store = store' := (Prod.mk.inj saved).2
        rw [unchanged rfl (by simp [serialised])]
        exact .entered regular placing rfl

theorem run_induction {P : Workspace → Prop} (start : P {}) (join : ∀ w id, P w → P (w.act (.join id)))
    (compile : ∀ w k u seen n, P w → w.units[k]? = some (u, seen) → n.Legible → P (w.compile k u seen n))
    (actions : List Action) : P (run actions) := by
  have step (w : Workspace) (action : Action) (h : P w) : P (w.act action) := by
    cases action with
    | join id => exact join w id h
    | compile k source code form =>
      cases there : w.units[k]? with
      | none =>
        simp only [act, there]
        exact h
      | some m =>
        cases node : (Node.read source code).nodes[form]? with
        | none =>
          simp only [act, there, node]
          exact h
        | some n =>
          simp only [act, there, node]
          exact compile w k m.1 m.2 n h there (Node.legible_of_mem_read (List.mem_of_getElem? node))
  have steps (w : Workspace) (h : P w) : P (actions.foldl act w) := by
    induction actions generalizing w with
    | nil => exact h
    | cons action actions ih => exact ih (w.act action) (step w action h)
  exact steps {} start

structure Sound (w : Workspace) : Prop where
  isOpen : w.store.isClosed = false
  rows : ∀ r, r ∈ w.store.rows ↔ ∃ i e, Lasting w.history i e ∧ r = e.record
  savings : ∀ e ∈ w.history, e.Sound
  units : ∀ m ∈ w.units, m.1.Arises

theorem forall_units_set {P : CompilationUnit × Nat → Prop} {m : CompilationUnit × Nat} (each : ∀ m ∈ w.units, P m)
    (here : P m) : ∀ o ∈ w.units.set k m, P o := by
  intro o inside
  rcases List.mem_or_eq_of_mem_set inside with old | rfl
  · exact each o old
  · exact here

theorem Sound.compile (h : w.Sound) (there : w.units[k]? = some (u, seen)) (legible : n.Legible) :
    (w.compile k u seen n).Sound := by
  have arises : u.Arises := h.units (u, seen) (List.mem_of_getElem? there)
  have changes : Changes w k u seen _ (w.compile k u seen n) := changes_compile h.isOpen arises.links legible
  have arises' : (u.compileForm (some w.store) n).unit.Arises := .form arises (some w.store) n
  generalize (u.compileForm (some w.store) n).unit = u', w.compile k u seen n = w' at changes arises'
  have units : ∀ m ∈ w.units.set k (u', seen), m.1.Arises := forall_units_set h.units arises'
  cases changes with
  | kept => exact { h with units }
  | entered => exact { h with units }
  | @saved d p labels e _ _ _ _ sound =>
    refine ⟨h.isOpen, ?_, ?_, units⟩
    · intro r
      constructor
      · intro inside
        rcases List.mem_append.mp inside with old | new
        · obtain ⟨inside, apart⟩ := List.mem_filter.mp old
          obtain ⟨i, e', lasting, rfl⟩ := (h.rows r).mp inside
          exact ⟨i, e', Lasting.append_iff.mpr (.inr ⟨lasting, bne_iff_ne.mp apart⟩), rfl⟩
        · exact ⟨w.history.length, e, Lasting.append_iff.mpr (.inl ⟨rfl, rfl⟩), List.mem_singleton.mp new⟩
      · rintro ⟨i, e', lasting, rfl⟩
        rcases Lasting.append_iff.mp lasting with ⟨-, rfl⟩ | ⟨lasting, apart⟩
        · exact List.mem_append_right _ List.mem_cons_self
        · have inside := (h.rows e'.record).mpr ⟨i, e', lasting, rfl⟩
          exact List.mem_append_left _ (List.mem_filter.mpr ⟨inside, bne_iff_ne.mpr apart⟩)
    · intro e' inside
      rcases List.mem_append.mp inside with old | new
      · exact h.savings e' old
      · rw [List.mem_singleton.mp new]
        exact sound

theorem forall_units_join {P : CompilationUnit × Nat → Prop} {id : String} (each : ∀ m ∈ w.units, P m)
    (here : P (w.next id, w.history.length)) : ∀ m ∈ (w.act (.join id)).units, P m :=
  List.forall_mem_append.mpr ⟨each, List.forall_mem_singleton.mpr here⟩

theorem Sound.join (h : w.Sound) (id : String) : (w.act (.join id)).Sound :=
  { h with units := forall_units_join h.units (.withStore id w.store) }

theorem sound_run (actions : List Action) : (run actions).Sound := by
  apply run_induction
  · refine ⟨rfl, ?_, ?_, ?_⟩
    · intro r
      constructor
      · intro none
        cases none
      · rintro ⟨i, e, lasting, -⟩
        cases lasting.there
    · exact List.forall_mem_nil _
    · exact List.forall_mem_nil _
  · exact fun w id h => h.join id
  · exact fun w k u seen n h there legible => h.compile there legible

end Workspace

theorem Linkage.ofName?_name (l : Linkage) : ofName? l.name = some l := by cases l <;> decide

namespace Saving

def Found (e : Saving) (r : Registry) : Prop :=
  ∃ f ∈ r.overloads e.name, f.Restores e.function ∧ f.linkage = e.function.linkage

variable {e : Saving}

theorem importRecord_internal (hidden : e.function.linkage = .internal) (u : CompilationUnit) :
    u.importRecord e.record = u := by
  have linkage : Linkage.ofName? e.record.linkage = some .internal := by
    rw [← hidden]
    exact Linkage.ofName?_name e.function.linkage
  simp only [CompilationUnit.importRecord, linkage]

theorem importRecord_exported (sound : e.Sound) (exported : e.isExported) (u : CompilationUnit) :
    ∃ f g, f.Restores e.function ∧ f.linkage = e.function.linkage ∧ f.declaration = .ok g ∧
      u.importRecord e.record =
        if (u.registry.find? e.name f).isSome then u
        else { u with
          module := { u.module with funcs := u.module.funcs.push g }
          registry := u.registry.insert e.name { f with symbol := some u.module.funcs.size } } := by
  obtain ⟨f, imported, restores, same⟩ :=
    CompilationUnit.importFunction_ofFunction sound.written e.function.linkage e.id e.name
  obtain ⟨g, declared⟩ := sound.declared
  have declared' := restores.declaration_eq declared
  refine ⟨f, g, restores, same, declared', ?_⟩
  have linkage : Linkage.ofName? e.record.linkage = some e.function.linkage :=
    Linkage.ofName?_name e.function.linkage
  have name : e.record.name = e.name := rfl
  have read : CompilationUnit.importFunction e.function.linkage e.record = .ok f := imported
  unfold isExported at exported
  cases l : e.function.linkage with
  | internal => exact absurd l exported
  | external | externalC =>
    rw [l] at linkage read
    simp only [CompilationUnit.importRecord, linkage, read, name, IR.Module.declare, declared']
    rfl

def Supplies (P : Saving → Prop) (r : Registry) : Prop :=
  ∀ n f, f ∈ r.overloads n →
    ∃ e, P e ∧ e.isExported ∧ e.name = n ∧ f.Restores e.function ∧ f.linkage = e.function.linkage

section Import

variable {P : Saving → Prop} (sound : ∀ e, P e → e.Sound)
  (unique : ∀ e e', P e → P e' → e.record.fingerprint = e'.record.fingerprint → e = e')

include sound unique

theorem supplies_importRecord {u : CompilationUnit} (h : Supplies P u.registry) (saved : P e) :
    Supplies P (u.importRecord e.record).registry ∧ (e.isExported → e.Found (u.importRecord e.record).registry) ∧
      ∀ e' : Saving, e'.Found u.registry → e'.Found (u.importRecord e.record).registry := by
  by_cases hidden : e.function.linkage = .internal
  · rw [importRecord_internal hidden]
    exact ⟨h, fun exported => absurd hidden exported, fun _ found => found⟩
  obtain ⟨f, g, restores, linkage, -, imported⟩ := importRecord_exported (sound e saved) hidden u
  rw [imported]
  cases known : u.registry.find? e.name f with
  | some found =>
    obtain ⟨registered, same⟩ := Registry.find?_eq_some (i := found.2) known
    refine ⟨h, fun _ => ?_, fun _ found => found⟩
    -- The function that is there already comes from something saved under the same fingerprint, which is this.
    obtain ⟨e', saved', -, name, restores', linkage'⟩ := h e.name found.1 registered
    have here : e'.Of e.name e.function :=
      ⟨name, Function.sameAs_trans (Function.sameAs_symm restores'.same) (Function.sameAs_trans same restores.same)⟩
    obtain rfl := unique e' e saved' saved (fingerprint_of here)
    exact ⟨found.1, registered, restores', linkage'⟩
  | none =>
    simp only [Option.isSome_none, Bool.false_eq_true, if_false, Registry.insert]
    have new := Registry.overloads_put_new u.registry e.name { f with symbol := some u.module.funcs.size }
    have restores' : Function.Restores { f with symbol := some u.module.funcs.size } e.function :=
      ⟨restores.same, restores.names, restores.internalName, restores.alwaysInline, restores.compileTimeOnly⟩
    refine ⟨?_, fun _ => ⟨_, by rw [new]; exact List.mem_append_right _ List.mem_cons_self, restores', linkage⟩, ?_⟩
    · intro n f' inside
      by_cases here : n = e.name
      · subst here
        rw [new] at inside
        rcases List.mem_append.mp inside with old | last
        · exact h e.name f' old
        · rw [List.mem_singleton.mp last]
          exact ⟨e, saved, hidden, rfl, restores', linkage⟩
      · rw [Registry.overloads_put_other _ here] at inside
        exact h n f' inside
    · rintro e' ⟨f', inside, restores, linkage⟩
      refine ⟨f', ?_, restores, linkage⟩
      by_cases here : e'.name = e.name
      · rw [here] at inside ⊢
        rw [new]
        exact List.mem_append_left _ inside
      · rw [Registry.overloads_put_other _ here]
        exact inside

theorem supplies_importRecords {u : CompilationUnit} (h : Supplies P u.registry) {rows : List Record}
    (each : ∀ r ∈ rows, ∃ e, P e ∧ r = e.record) :
    Supplies P (rows.foldl CompilationUnit.importRecord u).registry ∧
      (∀ e, P e → e.record ∈ rows → e.isExported →
        e.Found (rows.foldl CompilationUnit.importRecord u).registry) ∧
      ∀ e : Saving, e.Found u.registry → e.Found (rows.foldl CompilationUnit.importRecord u).registry := by
  induction rows generalizing u with
  | nil => exact ⟨h, fun _ _ none => (List.not_mem_nil none).elim, fun _ found => found⟩
  | cons r rows ih =>
    obtain ⟨e, saved, rfl⟩ := each r List.mem_cons_self
    obtain ⟨supplies, first, keeps⟩ := supplies_importRecord sound unique h saved
    obtain ⟨supplies', later, keeps'⟩ := ih supplies fun r inside => each r (List.mem_cons_of_mem _ inside)
    refine ⟨supplies', ?_, fun e' found => keeps' e' (keeps e' found)⟩
    intro e' saved' inside exported
    rcases List.mem_cons.mp inside with same | inside
    · obtain rfl := unique e' e saved' saved (congrArg Record.fingerprint same)
      exact keeps' e' (first exported)
    · exact later e' saved' inside exported

end Import

end Saving

namespace Workspace

theorem Sound.next_eq (h : w.Sound) (id : String) :
    w.next id = (w.store.rows.mergeSort Store.rowLe).foldl CompilationUnit.importRecord (.new id) := by
  simp only [Workspace.next, CompilationUnit.withStore, Storage.load, Store.load_of_open h.isOpen]

theorem Sound.exists_lasting (h : w.Sound) :
    ∀ r ∈ w.store.rows.mergeSort Store.rowLe, ∃ e, (∃ i, Lasting w.history i e) ∧ r = e.record := by
  intro r inside
  obtain ⟨i, e, lasting, rfl⟩ := (h.rows r).mp (List.mem_mergeSort.mp inside)
  exact ⟨e, ⟨i, lasting⟩, rfl⟩

theorem Sound.next (h : w.Sound) (id : String) :
    Saving.Supplies (fun e => ∃ i, Lasting w.history i e) (w.next id).registry ∧
      ∀ i e, Lasting w.history i e → e.isExported → e.Found (w.next id).registry := by
  have sound : ∀ e, (∃ i, Lasting w.history i e) → e.Sound := by
    rintro e ⟨i, lasting⟩
    exact h.savings e lasting.mem
  have unique : ∀ e e', (∃ i, Lasting w.history i e) → (∃ i, Lasting w.history i e') →
      e.record.fingerprint = e'.record.fingerprint → e = e' := by
    intro e e' saved saved' same
    obtain ⟨i, lasting⟩ := saved
    obtain ⟨j, lasting'⟩ := saved'
    exact (lasting.unique lasting' same).2
  have empty : Saving.Supplies (fun e => ∃ i, Lasting w.history i e) (CompilationUnit.new id).registry := by
    intro n f none
    cases none
  obtain ⟨supplies, found, -⟩ := Saving.supplies_importRecords sound unique empty h.exists_lasting
  rw [h.next_eq]
  refine ⟨supplies, ?_⟩
  intro i e lasting exported
  have inside : e.record ∈ w.store.rows.mergeSort Store.rowLe :=
    List.mem_mergeSort.mpr ((h.rows e.record).mpr ⟨i, e, lasting, rfl⟩)
  exact found e ⟨i, lasting⟩ inside exported

/-- What was saved and is exported is there in the unit that is opened next, unless a later definition of its
fingerprint hides it. -/
theorem exported_definition_found_iff (actions : List Action) (id : String) {i : Nat} {e : Saving}
    (saved : (run actions).history[i]? = some e) (exported : e.isExported) :
    (∃ f ∈ ((run actions).next id).registry.overloads e.name, f.sameAs e.function = true) ↔
      ¬∃ j e', i < j ∧ Lasting (run actions).history j e' ∧ e'.record.fingerprint = e.record.fingerprint ∧
        (e'.function.linkage = .internal ∨ ¬e'.Of e.name e.function) := by
  obtain ⟨supplies, found⟩ := (sound_run actions).next id
  constructor
  · intro known displaced
    obtain ⟨f, inside, same⟩ := known
    obtain ⟨j, e', -, lasting, digest, other⟩ := displaced
    obtain ⟨e'', ⟨k, lasting'⟩, exported', name, restores, -⟩ := supplies e.name f inside
    have here : e''.Of e.name e.function :=
      ⟨name, Function.sameAs_trans (Function.sameAs_symm restores.same) same⟩
    obtain ⟨-, rfl⟩ := lasting.unique lasting' (digest.trans (Saving.fingerprint_of here).symm)
    rcases other with hidden | apart
    · exact exported' hidden
    · exact apart here
  · intro kept
    obtain ⟨j, e', after, lasting, digest⟩ := Lasting.exists_last saved
    have last : e'.function.linkage ≠ .internal ∧ e'.Of e.name e.function := by
      rcases Nat.lt_or_eq_of_le after with later | here
      · refine ⟨fun hidden => kept ⟨j, e', later, lasting, digest, .inl hidden⟩, Decidable.byContradiction ?_⟩
        exact fun apart => kept ⟨j, e', later, lasting, digest, .inr apart⟩
      · subst here
        obtain rfl : e = e' := Option.some.inj (saved.symm.trans lasting.there)
        exact ⟨exported, rfl, Function.sameAs_iff.mpr ⟨rfl, rfl⟩⟩
    obtain ⟨f, inside, restores, -⟩ := found j e' lasting last.1
    rw [last.2.1] at inside
    exact ⟨f, inside, Function.sameAs_trans restores.same last.2.2⟩

/-- What a unit keeps for itself without saving it leaves what another has exported where it is. -/
theorem exported_definition_found_unsaved :
    let w := run [.join "1", .join "2", .compile 0 "" "(def f (fn extern (retval int) (...) (return 1)))" 0,
      .compile 1 "" "(def f (fn intern (attr noserialise) (retval int) (...) (return 1)))" 0]
    w.units.map (fun u => u.1.registry.functions.map (·.linkage)) = [[.external], [.internal]] ∧
      ∃ e, w.history = [e] ∧ e.isExported ∧
        ∃ f ∈ (w.next "3").registry.overloads e.name, f.sameAs e.function = true := by
  intro w
  obtain ⟨linkages, length, exported⟩ : w.units.map (fun u => u.1.registry.functions.map (·.linkage)) =
      [[.external], [.internal]] ∧ w.history.length = 1 ∧ ∀ e ∈ w.history, e.isExported := by decide +kernel
  obtain ⟨e, history⟩ := List.length_eq_one_iff.mp length
  have saved : w.history[0]? = some e := by simp [history]
  have inside : e ∈ w.history := by simp [history]
  refine ⟨linkages, e, history, exported e inside, ?_⟩
  apply (exported_definition_found_iff _ "3" saved (exported e inside)).mpr
  rintro ⟨j, e', later, lasting, -⟩
  have bound : j < w.history.length := lasting.lt
  omega

/-- Two units that do not know of each other define the same function. The second keeps it for itself, and the
next one finds none. -/
theorem internal_definition_displaces_exported :
    let w := run [.join "1", .join "2", .compile 0 "" "(def f (fn extern int () (return 1)))" 0,
      .compile 1 "" "(def f (fn intern int () (return 1)))" 0]
    w.history.map (fun e => (e.unit, e.name, e.function.linkage)) = [(0, "f", .external), (1, "f", .internal)] ∧
      (w.next "3").registry.overloads "f" = [] := by
  decide +kernel

end Workspace

end FormCompiler
