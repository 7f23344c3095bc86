import FormCompiler.Proofs.Linking

namespace FormCompiler

variable {known : Function} {i : Nat}

namespace CompilationUnit

open IR

variable {σ : Type} [Storage σ] {u : CompilationUnit} {s s' : σ} {n : Node} {d : Definition} {p : Placed} {body : Body}
  {e : Store.Failure}

structure Unsaved (u : CompilationUnit) (s : σ) (n : Node) (d : Definition) (p : Placed) (body : Body)
    (e : Store.Failure) (s' : σ) : Prop where
  read : Definition.read n = .ok d
  placed : u.place d = .ok (some p)
  filled : d.body.isEmpty = false
  compiled : Body.compile (u.context d p) d.body = .ok body
  serialise : d.function.serialise = true
  refused : Storage.save s (.ofFunction u.id d.name d.function) = (.error e, s')

def saveFault (d : Definition) (e : Store.Failure) : Fault := .complaint (.store d.name e.text) d.function.token

theorem saveMetadata_of_refused {unit name : String} {f : Function} (serialise : f.serialise = true)
    (refused : Storage.save s (.ofFunction unit name f) = (.error e, s')) :
    saveMetadata unit name f (some s) = (.error (.complaint (.store name e.text) f.token), some s') := by
  simp only [saveMetadata, serialise, if_true, refused]
  rfl

namespace Unsaved

variable (h : u.Unsaved s n d p body e s')

include h

theorem placing : u.Placing d p := placing_of_place h.placed

theorem compileForm_eq :
    u.compileForm (some s) n =
      ⟨u.afterFault (install p.module p.function body) (saveFault d e), some s', some (saveFault d e)⟩ := by
  have saved (labels : List String) :
      saveMetadata u.id d.name { p.function with labels } (some s) = (.error (saveFault d e), some s') := by
    cases h.placing with
    | new => exact saveMetadata_of_refused h.serialise h.refused
    | known => exact saveMetadata_of_refused h.serialise h.refused
  simp only [compileForm, h.read, define, h.placed, h.filled, Bool.false_eq_true, if_false, h.compiled, saved]
  rfl

theorem module_of_new (unknown : u.registry.find? d.name d.function = none) :
    (u.compileForm (some s) n).unit.module = u.module := by
  rw [h.compileForm_eq]
  cases h.placing with
  | new => simp only [afterFault, addReports, install, take_modify_push]
  | known found =>
    rw [found] at unknown
    cases unknown

section Known

variable (found : u.registry.find? d.name d.function = some (known, i))

include found

theorem module_of_known {k : Nat} (symbol : known.symbol = some k) :
    (u.compileForm (some s) n).unit.module = { u.module with
      funcs := u.module.funcs.modify k fun g =>
        { g with blocks := body.blocks, internal := d.function.linkage == .internal } } := by
  rw [h.compileForm_eq]
  cases h.placing with
  | new unknown =>
    rw [found] at unknown
    cases unknown
  | known found' =>
    obtain ⟨rfl, rfl⟩ := Prod.mk.inj (Option.some.inj (found.symm.trans found'))
    have whole := take_size (install u.module { d.function with symbol := known.symbol } body)
    rw [size_install] at whole
    simp only [afterFault, addReports, whole]
    simp only [install, symbol]

theorem checkKnown_of_known : checkKnown d.name known d.function = .ok () := by
  have placed := h.placed
  unfold place at placed
  rw [found] at placed
  cases check : checkKnown d.name known d.function with
  | ok => rfl
  | error f =>
    simp only [check] at placed
    cases placed

theorem isDeclaration_of_known : known.isDeclaration u.module = true := by
  cases h.placing with
  | new unknown =>
    rw [found] at unknown
    cases unknown
  | known found' _ _ bare =>
    obtain ⟨rfl, rfl⟩ := Prod.mk.inj (Option.some.inj (found.symm.trans found'))
    exact bare

theorem isDefined_of_known {k : Nat} (symbol : known.symbol = some k) {g : Func}
    (there : u.module.funcs[k]? = some g) : known.isDeclaration (u.compileForm (some s) n).unit.module = false := by
  have filled : body.blocks.isEmpty = false := by
    rw [Array.isEmpty_eq_false_iff]
    intro empty
    have size := Body.size_pos_of_compile h.compiled
    rw [empty] at size
    exact Nat.lt_irrefl 0 size
  rw [h.module_of_known found symbol, Function.isDeclaration, symbol, Option.bind_some, Array.getElem?_modify,
    if_pos rfl, there]
  exact filled

end Known

end Unsaved

theorem fault_of_redefined (read : Definition.read n = .ok d)
    (found : u.registry.find? d.name d.function = some (known, i))
    (check : checkKnown d.name known d.function = .ok ()) (filled : d.body.isEmpty = false)
    (defined : known.isDeclaration u.module = false) (store : Option σ) :
    (u.compileForm store n).fault = some (.complaint (.redefined d.name) d.function.token) := by
  have place : u.place d = .error (.complaint (.redefined d.name) d.function.token) := by
    rw [place, found]
    simp only [check, filled, defined]
    rfl
  simp only [compileForm, read, define, place]

/-- A form that cannot be saved leaves its report, and the registry as it was. A function that was declared before
keeps the body that was not saved, and can no longer be defined. -/
theorem unsaved_body_stays (arises : u.Arises) (h : u.Unsaved s n d p body e s') :
    let o := u.compileForm (some s) n
    (o.fault = some (saveFault d e) ∧ o.store = some s' ∧ o.unit.registry = u.registry ∧
      o.unit.reports = u.reports ++ [(Complaint.store d.name e.text).report d.function.token]) ∧
    (o.unit.module = u.module ↔ u.registry.find? d.name d.function = none) ∧
    ∀ known i, u.registry.find? d.name d.function = some (known, i) →
      ∃ (k : Nat) (g : Func), known.symbol = some k ∧ u.module.funcs[k]? = some g ∧ g.isDeclaration = true ∧
        o.unit.module = { u.module with
          funcs := u.module.funcs.modify k fun g =>
            { g with blocks := body.blocks, internal := d.function.linkage == .internal } } ∧
        known.isDeclaration o.unit.module = false ∧
        ∀ {τ : Type} [Storage τ] (store : Option τ),
          (o.unit.compileForm store n).fault = some (.complaint (.redefined d.name) d.function.token) := by
  intro o
  have outcome : o = _ := h.compileForm_eq
  have registry : o.unit.registry = u.registry := by
    rw [outcome]
    rfl
  have linked {known : Function} {i : Nat} (found : u.registry.find? d.name d.function = some (known, i)) :
      ∃ k g, known.symbol = some k ∧ u.module.funcs[k]? = some g :=
    arises.links.exists_symbol (Registry.mem_functions_of_overloads (Registry.find?_eq_some found).1)
  refine ⟨?_, ⟨?_, h.module_of_new⟩, ?_⟩
  · rw [outcome]
    exact ⟨rfl, rfl, rfl, rfl⟩
  · intro same
    cases found : u.registry.find? d.name d.function with
    | none => rfl
    | some place =>
      -- What was declared is defined now, so the module cannot be the same.
      obtain ⟨known, i⟩ := place
      obtain ⟨k, g, symbol, there⟩ := linked found
      have defined := h.isDefined_of_known found symbol there
      rw [same, h.isDeclaration_of_known found] at defined
      cases defined
  · intro known i found
    obtain ⟨k, g, symbol, there⟩ := linked found
    have bare : g.isDeclaration = true := by
      simpa [Function.isDeclaration, symbol, there] using h.isDeclaration_of_known found
    have defined := h.isDefined_of_known found symbol there
    refine ⟨k, g, symbol, there, bare, h.module_of_known found symbol, defined, ?_⟩
    intro τ _ store
    exact fault_of_redefined h.read (registry ▸ found) (h.checkKnown_of_known found) h.filled defined store

def comesToSave (u : CompilationUnit) (n : Node) : Bool :=
  (Definition.read n).toOption.any fun d => !d.body.isEmpty && d.function.serialise &&
    (u.place d).toOption.any fun q => q.any fun p => (Body.compile (u.context d p) d.body).toOption.isSome

theorem exists_unsaved (comes : u.comesToSave n = true) {s : Store} (closed : s.isClosed = true) :
    ∃ d p body, u.Unsaved s n d p body (.refused .begin .closed) s := by
  unfold comesToSave at comes
  cases read : Definition.read n with
  | error r =>
    rw [read] at comes
    cases comes
  | ok d =>
    rw [read] at comes
    obtain ⟨known, comes⟩ := Bool.and_eq_true_iff.mp comes
    obtain ⟨filled, serialise⟩ := Bool.and_eq_true_iff.mp known
    rw [Bool.not_eq_true'] at filled
    cases place : u.place d with
    | error f =>
      rw [place] at comes
      cases comes
    | ok q =>
      rw [place] at comes
      cases q with
      | none => cases comes
      | some p =>
        cases compiled : Body.compile (u.context d p) d.body with
        | error f =>
          change (Body.compile (u.context d p) d.body).toOption.isSome = true at comes
          rw [compiled] at comes
          cases comes
        | ok body =>
          refine ⟨d, p, body, read, place, filled, compiled, serialise, ?_⟩
          simp only [Storage.save, Store.save, closed, if_true]

/-- A function that is declared, and defined when its store is closed. -/
theorem unsaved_body_stays_closed :
    let u := ((new "1").compileSource (some ({} : Store)) "" "(def f (fn extern int ()))").unit
    let s : Store := { isClosed := true }
    ∃ n d p body, (Node.read "" "(def f (fn extern int () (return 1)))").nodes = [n] ∧
      u.Unsaved s n d p body (.refused .begin .closed) s ∧
      (u.compileForm (some s) n).unit.registry = u.registry ∧ (u.compileForm (some s) n).unit.module ≠ u.module := by
  intro u s
  obtain ⟨one, fine⟩ : (Node.read "" "(def f (fn extern int () (return 1)))").nodes.length = 1 ∧
      (Node.read "" "(def f (fn extern int () (return 1)))").nodes.all (fun n => u.comesToSave n &&
        (Definition.read n).toOption.all fun d => (u.registry.find? d.name d.function).isSome) = true := by
    decide +kernel
  obtain ⟨n, nodes⟩ := List.length_eq_one_iff.mp one
  rw [nodes, List.all_cons, List.all_nil, Bool.and_true, Bool.and_eq_true] at fine
  obtain ⟨comes, known⟩ := fine
  obtain ⟨d, p, body, unsaved⟩ := exists_unsaved comes (s := s) rfl
  rw [unsaved.read] at known
  have arises : u.Arises := .source (.new "1") _ _ _
  obtain ⟨⟨-, -, registry, -⟩, module, -⟩ := unsaved_body_stays arises unsaved
  refine ⟨n, d, p, body, nodes, unsaved, registry, ?_⟩
  intro same
  change (u.registry.find? d.name d.function).isSome = true at known
  rw [module.mp same] at known
  cases known

/-- The registry is restored, and still the declaration has become a definition. -/
theorem declaration_defined_unsaved :
    let u := ((new "1").compileSource (some ({} : Store)) "" "(def f (fn extern int ()))").unit
    let v := (u.compileSource (some ({ isClosed := true } : Store)) "" "(def f (fn extern int () (return 1)))").unit
    v.reports.map (·.id) = ["comp/store"] ∧ v.registry = u.registry ∧
      u.registry.functions.map (·.isDeclaration u.module) = [true] ∧
      v.registry.functions.map (·.isDeclaration v.module) = [false] := by
  decide +kernel

end CompilationUnit

end FormCompiler
