import FormCompiler.Proofs.ControlFlow
import FormCompiler.Proofs.Typing
import FormCompiler.Unit.Compile

namespace FormCompiler

variable {f : Function} {r : Registry} {p : Placed}

namespace Function

theorem ends_paramLayouts (ps : List Parameter) :
    Ends (paramLayouts ps) (fun _ => ∀ t ∈ (ps.map (·.type)).takeWhile (!·.isVariadic), ∃ l, t.layout = .ok l)
      Fault.Single := by
  induction ps with
  | nil => simp [paramLayouts, Ends]
  | cons p ps ih =>
    unfold paramLayouts
    rw [List.map_cons, List.takeWhile_cons]
    cases variadic : p.type.isVariadic with
    | true => simp [Ends]
    | false =>
      simp only [Bool.false_eq_true, if_false, Bool.not_false, if_true, List.forall_mem_cons]
      split
      · exact Fault.complaint_single _ _
      · rename_i l laid
        exact ih.map fun _ others => ⟨⟨l, laid⟩, others⟩

theorem ends_slotLayout (f : Function) :
    Ends f.slotLayout (fun _ => f.hasSlot = true → ∃ l, f.returnType.unmark.layout = .ok l) Fault.Single := by
  unfold slotLayout
  refine .ite (fun slot => ?_) fun none => fun slot => absurd slot none
  split
  · exact Fault.complaint_single _ _
  · rename_i l laid
    exact fun _ => ⟨l, laid⟩

theorem ends_declaration (f : Function) :
    Ends f.declaration (fun g => f.Laid ∧ g.internal = false) Fault.Single := by
  refine .bind (ends_paramLayouts f.params) fun params laid => .bind (ends_slotLayout f) fun slot slotted => ?_
  split
  · exact Fault.complaint_single _ _
  · rename_i result returned
    refine ⟨⟨laid, slotted, fun none value => ⟨result, ?_⟩⟩, rfl⟩
    simpa [Ty.returnLayout, show f.returnType.isMarked = false from none, value] using returned

theorem Laid.of_same {g : Function} (h : f.Laid) (same : f.sameAs g = true) : g.Laid := by
  simp only [sameAs, Bool.and_eq_true, beq_iff_eq] at same
  obtain ⟨returns, params⟩ := same
  refine ⟨?_, ?_, ?_⟩
  · simpa only [params] using h.params
  · simpa only [hasSlot, returns] using h.slot
  · simpa only [hasSlot, returns] using h.returned

theorem Laid.withSymbol (h : f.Laid) {symbol : Option Nat} (declared : symbol.isSome) :
    Sound { f with symbol } := ⟨⟨h.params, h.slot, h.returned⟩, declared⟩

theorem Sound.withLabels (h : f.Sound) (labels : List String) : Sound { f with labels } :=
  ⟨⟨h.params, h.slot, h.returned⟩, h.declared⟩

end Function

namespace Registry

theorem find?_eq_some {name : String} {known : Function} {i : Nat} (h : r.find? name f = some (known, i)) :
    known ∈ r.overloads name ∧ known.sameAs f = true := by
  rw [find?] at h
  have same := List.find?_some h
  exact ⟨List.fst_mem_of_mem_zipIdx (List.mem_of_find?_eq_some h), same⟩

theorem Sound.assign (h : r.Sound) {name : String} {fs : List Function} (each : ∀ f ∈ fs, f.Sound) :
    (r.assign name fs).Sound := by
  unfold Registry.assign
  split
  · intro e inside
    obtain ⟨old, member, rfl⟩ := List.mem_map.mp inside
    split
    · exact each
    · exact h old member
  · intro e inside
    rcases List.mem_append.mp inside with old | new
    · exact h e old
    · obtain rfl := List.mem_singleton.mp new
      exact each

theorem Sound.put (h : r.Sound) (hf : f.Sound) (name : String) (i : Nat) : (r.put name i f).Sound := by
  refine h.assign ?_
  intro g inside
  split at inside
  · rcases List.mem_or_eq_of_mem_set inside with old | rfl
    · exact h.overloads old
    · exact hf
  · rcases List.mem_append.mp inside with old | new
    · exact h.overloads old
    · obtain rfl := List.mem_singleton.mp new
      exact hf

end Registry

theorem Fault.Proper.reports : ∀ {f : Fault}, f.Proper → ∀ r ∈ f.reports, r.Proper
  | .reported _ _, proper => List.forall_mem_cons.mpr proper

def IR.Module.Tidy (m : IR.Module) : Prop := ∀ g ∈ m.funcs, g.isDeclaration = true → g.internal = false

namespace IR.Module.Tidy

variable {m : IR.Module}

theorem push (h : m.Tidy) {g : Func} (plain : g.internal = false) : Tidy { m with funcs := m.funcs.push g } := by
  intro f inside bare
  rcases Array.mem_push.mp inside with old | rfl
  · exact h f old bare
  · exact plain

theorem take (h : m.Tidy) (n : Nat) : Tidy { m with funcs := m.funcs.take n } := by
  intro f inside
  obtain ⟨i, there⟩ := Array.mem_iff_getElem?.mp inside
  simp only [Array.take_eq_extract, Array.getElem?_extract] at there
  split at there
  · exact h f (Array.mem_of_getElem? there)
  · cases there

theorem modify (h : m.Tidy) (n : Nat) {change : Func → Func}
    (kept : ∀ f, (change f).isDeclaration = true → (change f).internal = false) :
    Tidy { m with funcs := m.funcs.modify n change } := by
  intro f inside bare
  obtain ⟨i, there⟩ := Array.mem_iff_getElem?.mp inside
  rw [Array.getElem?_modify] at there
  split at there
  · obtain ⟨g, -, rfl⟩ := Option.map_eq_some_iff.mp there
    exact kept g bare
  · exact h f (Array.mem_of_getElem? there) bare

end IR.Module.Tidy

structure CompilationUnit.Sound (u : CompilationUnit) : Prop where
  registry : u.registry.Sound
  module : u.module.Tidy
  reports : ∀ r ∈ u.reports, r.Proper

namespace CompilationUnit

open IR

variable {u : CompilationUnit} {d : Definition}

/-- What a definition is placed as: as a new function, or as the one that it is the definition of. -/
inductive Places (u : CompilationUnit) (d : Definition) : Placed → Prop
  | new {g : Func} (declared : d.function.declaration = .ok g) :
    Places u d ⟨{ u.module with funcs := u.module.funcs.push g },
      { d.function with symbol := some u.module.funcs.size }, (u.registry.overloads d.name).length⟩
  | known {f : Function} {i : Nat} (found : u.registry.find? d.name d.function = some (f, i))
    (bare : f.isDeclaration u.module = true) : Places u d ⟨u.module, { d.function with symbol := f.symbol }, i⟩

theorem ends_checkNew (u : CompilationUnit) (name : String) (f : Function) :
    Ends (u.checkNew name f) (fun _ => True) Fault.Single := by
  unfold checkNew
  split
  · exact Fault.complaint_single _ _
  · exact .ite (fun _ => Fault.complaint_single _ _) fun _ => trivial

theorem ends_checkKnown (name : String) (known f : Function) :
    Ends (checkKnown name known f) (fun _ => True) Fault.Single :=
  .ite (fun _ => Fault.complaint_single _ _) fun _ => .ite (fun _ => Fault.complaint_single _ _) fun _ => trivial

theorem ends_place (u : CompilationUnit) (d : Definition) :
    Ends (u.place d) (fun p => ∀ q ∈ p, u.Places d q) Fault.Single := by
  unfold place
  split
  · refine .bind (u.ends_checkNew _ _) fun _ _ => ?_
    have declared := d.function.ends_declaration
    cases outcome : d.function.declaration with
    | error f =>
      simp only [Module.declare, outcome]
      exact declared.error outcome
    | ok g =>
      simp only [Module.declare, outcome]
      intro q placed
      obtain rfl := Option.mem_some.mp placed
      exact .new outcome
  · rename_i f i found
    refine .bind (ends_checkKnown _ _ _) fun _ _ => .ite (fun _ => ?_) fun _ => .ite (fun _ => ?_) fun bare => ?_
    · simp [Ends]
    · exact Fault.complaint_single _ _
    · intro q placed
      obtain rfl := Option.mem_some.mp placed
      exact .known found (by simpa using bare)

theorem Places.function_sound (placed : u.Places d p) (h : u.registry.Sound) : p.function.Sound := by
  cases placed with
  | new declared => exact (d.function.ends_declaration.ok declared).1.withSymbol rfl
  | known found bare =>
    obtain ⟨inside, same⟩ := Registry.find?_eq_some found
    have sound := h.overloads inside
    exact (sound.toLaid.of_same same).withSymbol sound.declared

theorem Places.module_tidy (placed : u.Places d p) (h : u.module.Tidy) : p.module.Tidy := by
  cases placed with
  | new declared => exact h.push (d.function.ends_declaration.ok declared).2
  | known => exact h

theorem Places.context_sound (placed : u.Places d p) (h : u.registry.Sound) : (u.context d p).Sound :=
  have sound := placed.function_sound h
  ⟨h.put sound _ _, sound⟩

theorem tidy_retract {m : Module} (h : m.Tidy) (f : Function) : (retract m f).Tidy := by
  unfold retract
  split
  · exact h.modify _ fun _ _ => rfl
  · exact h

theorem tidy_install {m : Module} (h : m.Tidy) (f : Function) {body : Body} (filled : 0 < body.blocks.size) :
    (install m f body).Tidy := by
  unfold install
  split
  · refine h.modify _ fun g bare => ?_
    have none : body.blocks.size = 0 := by simpa [Func.isDeclaration] using bare
    omega
  · exact h

theorem ends_saveMetadata {σ : Type} [Storage σ] (unit name : String) (f : Function) (store : Option σ) :
    Ends (saveMetadata unit name f store).1 (fun _ => True) Fault.Single := by
  unfold saveMetadata
  split
  · split
    · exact .mapError (.of_all (fun _ => trivial) fun _ => Fault.complaint_single _ _)
    · trivial
  · trivial

inductive Defines {σ : Type} (u : CompilationUnit) (store : Option σ) (d : Definition) : Defined σ → Prop
  | refused {f : Fault} (proper : f.Proper) : Defines u store d ⟨u.module, store, .error f⟩
  | repeated : Defines u store d ⟨u.module, store, .ok u.registry⟩
  | declared {p : Placed} (placed : u.Places d p) :
    Defines u store d ⟨p.module, store, .ok (u.context d p).registry⟩
  | failed {p : Placed} {f : Fault} (placed : u.Places d p) (proper : f.Proper) :
    Defines u store d ⟨retract p.module p.function, store, .error f⟩
  | defined {p : Placed} {body : Body} {saved : Except Fault Unit} {store' : Option σ} (placed : u.Places d p)
    (filled : 0 < body.blocks.size) (proper : Ends saved (fun _ => True) Fault.Proper)
    (unsaved : store = none → saved = .ok ()) (labels : List String) :
    Defines u store d ⟨install p.module { p.function with labels } body, store',
      saved.map fun _ => u.registry.put d.name p.position { p.function with labels }⟩

theorem defines_define {σ : Type} [Storage σ] (h : u.registry.Sound) (store : Option σ) (d : Definition) :
    u.Defines store d (u.define store d) := by
  have placing := u.ends_place d
  unfold define
  split
  · rename_i f outcome
    exact .refused (placing.error outcome).proper
  · exact .repeated
  · rename_i p outcome
    have placed := placing.ok outcome p rfl
    have compiling := Body.ends_compile (placed.context_sound h) d.body
    dsimp only
    split
    · exact .declared placed
    · split
      · rename_i f failing
        exact .failed placed (compiling.error failing)
      · rename_i body compiled
        have saves := ends_saveMetadata u.id d.name { p.function with labels := body.labels.map (·.1) } store
        have unsaved : store = none → (saveMetadata u.id d.name { p.function with labels := body.labels.map (·.1) }
            store).1 = .ok () := by rintro rfl; rfl
        exact .defined placed (Body.size_pos_of_compile compiled)
          (saves.mono (fun _ h => h) fun _ h => h.proper) unsaved _

section Defined

variable {σ : Type} {store : Option σ} {o : Defined σ}

theorem Defines.ends_result (h : u.Defines store d o) (sound : u.registry.Sound) :
    Ends o.result Registry.Sound Fault.Proper := by
  cases h with
  | refused proper | failed _ proper => exact proper
  | repeated => exact sound
  | declared placed => exact (placed.context_sound sound).registry
  | defined placed _ proper _ labels =>
    have known := placed.function_sound sound
    exact proper.map fun _ _ => sound.put (known.withLabels labels) _ _

theorem Defines.tidy (h : u.Defines store d o) (tidy : u.module.Tidy) : o.module.Tidy := by
  cases h with
  | refused | repeated => exact tidy
  | declared placed => exact placed.module_tidy tidy
  | failed placed => exact tidy_retract (placed.module_tidy tidy) _
  | defined placed filled => exact tidy_install (placed.module_tidy tidy) _ filled

end Defined

theorem sound_addReports (h : u.Sound) {rs : List Report} (proper : ∀ r ∈ rs, r.Proper) :
    (u.addReports rs).Sound := by
  refine ⟨h.registry, h.module, fun r inside => ?_⟩
  rcases List.mem_append.mp inside with old | new
  · exact h.reports r old
  · exact proper r new

section Compile

variable {σ : Type} [Storage σ]

theorem sound_compileForm (h : u.Sound) (store : Option σ) (n : Node) :
    (u.compileForm store n).unit.Sound ∧ ∀ f ∈ (u.compileForm store n).fault, f.Proper := by
  have reading := Definition.ends_read n
  unfold compileForm
  split
  · rename_i r outcome
    have proper := reading.error outcome
    exact ⟨sound_addReports h (by simpa using proper), by simpa [Fault.Proper] using proper⟩
  · rename_i d outcome
    have defines := defines_define h.registry store d
    have result := defines.ends_result h.registry
    have tidy := defines.tidy h.module
    split
    · rename_i module store' registry same
      rw [same] at result tidy
      exact ⟨⟨result, tidy, h.reports⟩, by simp⟩
    · rename_i module store' f same
      rw [same] at result tidy
      have proper : f.Proper := result
      have restored : Sound { u with module := { module with funcs := module.funcs.take u.module.funcs.size } } :=
        ⟨h.registry, tidy.take _, h.reports⟩
      exact ⟨sound_addReports restored proper.reports, by simpa using proper⟩

theorem stopped_compileForm (h : u.Sound) (store : Option σ) (n : Node) : (u.compileForm store n).stopped = none := by
  rw [Outcome.stopped, Option.filter_eq_none_iff]
  intro f failed
  simp [((sound_compileForm h store n).2 f failed).isUserFault]

theorem sound_compileForms (h : u.Sound) (store : Option σ) (ns : List Node) :
    (u.compileForms store ns).unit.Sound ∧ (u.compileForms store ns).fault = none := by
  induction ns generalizing u store with
  | nil => exact ⟨h, rfl⟩
  | cons n ns ih =>
    have goesOn := stopped_compileForm h store n
    simp only [compileForms, goesOn, Option.isSome_none, Bool.false_eq_true, if_false]
    exact ih (sound_compileForm h store n).1 _

theorem sound_compileSource (h : u.Sound) (store : Option σ) (source code : String) :
    (u.compileSource store source code).unit.Sound ∧ (u.compileSource store source code).fault = none :=
  sound_compileForms (sound_addReports h (Node.proper_read source code)) store _

end Compile

/-- The units that come about from a new one by compiling texts and forms, with a store or without one,
and by clearing the reports. -/
inductive Reached : CompilationUnit → Prop
  | new (id : String) : Reached (.new id)
  | source {u : CompilationUnit} {σ : Type} [Storage σ] (before : Reached u) (store : Option σ)
    (source code : String) : Reached (u.compileSource store source code).unit
  | form {u : CompilationUnit} {σ : Type} [Storage σ] (before : Reached u) (store : Option σ) (n : Node) :
    Reached (u.compileForm store n).unit
  | clear {u : CompilationUnit} (before : Reached u) : Reached u.clearReports

theorem Reached.sound (h : u.Reached) : u.Sound := by
  induction h with
  | new id =>
    exact ⟨by simp [Registry.Sound, CompilationUnit.new], by simp [Module.Tidy, CompilationUnit.new],
      by simp [CompilationUnit.new]⟩
  | source _ store source code ih => exact (sound_compileSource ih store source code).1
  | form _ store n ih => exact (sound_compileForm ih store n).1
  | clear _ ih => exact ⟨ih.registry, ih.module, by simp [clearReports]⟩

/-- Compiling a text never stops: whatever is wrong is reported properly, and where a form succeeds, its result has a
value laid out as its type says. -/
theorem compileSource_never_stops (reached : u.Reached) :
    (∀ {σ : Type} [Storage σ] (store : Option σ) (source code : String),
      (u.compileSource store source code).fault = none ∧
        ∀ r ∈ (u.compileSource store source code).unit.reports, r.Proper) ∧
    ∀ d p, u.place d = .ok (some p) → ∀ alarm,
      Body.fill (u.context d p) (Form.operandsUnder (Monitor.typing alarm) (u.context d p) d.body) {} =
        Body.fill (u.context d p) (Form.operands (u.context d p) d.body) {} := by
  have sound := reached.sound
  refine ⟨fun store source code => ?_, fun d p placed alarm => ?_⟩
  · have compiled := sound_compileSource sound store source code
    exact ⟨compiled.2, compiled.1.reports⟩
  · have places := (u.ends_place d).ok placed p rfl
    exact (Body.typed_fill (places.context_sound sound.registry) d.body alarm).1.symm

/-- A function that returns an array through a slot, and one that follows a pointer into what it returned. -/
theorem compileSource_never_stops_slot :
    let u := ((CompilationUnit.new "0").compileSource (none : Option Store) ""
      "(def make (fn intern (retval (array-of 4 int32)) () (var a (array-of 4 int32)) (return a)))").unit
    let f : Function := { returnType := .int32, params := [⟨"n", .int32, none⟩], internalName := .ofString "at_i" }
    let d : Definition := ⟨"at", f, (Node.read "" "(return (@ (p+ (make) n)))").nodes⟩
    (u.compileSource (none : Option Store) "" "(def at (fn extern int32 ((n int32)) (return (make))))").fault = none ∧
    ∃ p, u.place d = .ok (some p) ∧ ∀ alarm,
      Body.fill (u.context d p) (Form.operandsUnder (Monitor.typing alarm) (u.context d p) d.body) {} =
        Body.fill (u.context d p) (Form.operands (u.context d p) d.body) {} := by
  intro u f d
  have reached : u.Reached := .source (.new "0") none "" _
  have safe := compileSource_never_stops reached
  have fits : (u.place d).toOption.any (·.isSome) = true := by decide +kernel
  refine ⟨(safe.1 none "" _).1, ?_⟩
  rcases outcome : u.place d with f | _ | p
  · simp [outcome, Except.toOption] at fits
  · simp [outcome, Except.toOption] at fits
  · exact ⟨p, rfl, safe.2 d p outcome⟩

end CompilationUnit

end FormCompiler
