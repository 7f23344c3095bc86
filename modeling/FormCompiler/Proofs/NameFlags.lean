import FormCompiler.Proofs.Marks
import FormCompiler.Proofs.SharedStore

namespace FormCompiler

variable {f : Function} {name : String}

namespace Function

structure Titled (name : String) (f : Function) : Prop where
  destructor : f.isDestructor = (name == "destroy")
  setter : f.isSetter = name.startsWith "setf-"

structure Untitled (f : Function) : Prop where
  destructor : f.isDestructor = false
  setter : f.isSetter = false

end Function

namespace Definition

theorem ends_readSignature_titled (name : String) (fn : Node) (linkage : Linkage) (attributes : List String)
    (ns : List Node) :
    Ends (readSignature name fn linkage attributes ns) (fun f => f.1.Titled name) fun _ => True := by
  unfold readSignature
  split
  · exact (Ends.any _).bind fun _ _ => (Ends.any _).bind fun _ _ => ⟨rfl, rfl⟩
  · trivial

theorem ends_readFunction_titled (name : String) (fn : Node) :
    Ends (readFunction name fn) (fun f => f.1.Titled name) fun _ => True := by
  unfold readFunction
  split
  · split
    · trivial
    · refine .ite (fun _ => ?_) fun _ => ends_readSignature_titled _ _ _ _ _
      exact (Ends.any _).bind fun _ _ => ends_readSignature_titled _ _ _ _ _
  · trivial

theorem ends_read_titled (n : Node) : Ends (read n) (fun d => d.function.Titled d.name) fun _ => True := by
  unfold read
  refine .ite (fun _ => trivial) fun _ => ?_
  split
  · split
    · exact (ends_readFunction_titled _ _).bind fun f titled => ⟨titled.destructor, titled.setter⟩
    · trivial
  · trivial

end Definition

namespace CompilationUnit

theorem ends_importFunction_untitled (linkage : Linkage) (record : Record) :
    Ends (importFunction linkage record) Function.Untitled fun _ => True :=
  (Ends.any _).bind fun _ _ => (Ends.any _).bind fun _ _ => (Ends.any _).bind fun _ _ =>
    (Ends.any _).bind fun _ _ => ⟨rfl, rfl⟩

theorem untitled_importRecords {u : CompilationUnit} (h : ∀ n, ∀ f ∈ u.registry.overloads n, f.Untitled)
    (records : List Record) : ∀ n, ∀ f ∈ (records.foldl importRecord u).registry.overloads n, f.Untitled := by
  induction records generalizing u with
  | nil => exact h
  | cons record records ih =>
    refine ih fun n f inside => ?_
    rcases importRecord_cases u record with ⟨-, registry⟩ | ⟨linkage, g, -, read, -, -, registry⟩
    · rw [registry] at inside
      exact h n f inside
    · rw [registry] at inside
      rcases Registry.mem_overloads_of_put inside with old | ⟨-, rfl⟩
      · exact h n f old
      · have untitled := (ends_importFunction_untitled linkage record).ok read
        exact ⟨untitled.destructor, untitled.setter⟩

/-- The units that sources can be compiled in: new ones, and those that know what a store holds. -/
inductive Opened : CompilationUnit → Prop
  | new (id : String) : Opened (.new id)
  | withStore {σ : Type} [Storage σ] (id : String) (store : σ) : Opened (CompilationUnit.withStore id store).1

theorem Opened.untitled {u : CompilationUnit} (opened : u.Opened) {n : String} (inside : f ∈ u.registry.overloads n) :
    f.Untitled := by
  have new (id : String) : ∀ n, ∀ f ∈ (CompilationUnit.new id).registry.overloads n, f.Untitled := by
    simp [CompilationUnit.new, Registry.overloads]
  cases opened with
  | new id => exact new id n f inside
  | withStore id store =>
    unfold CompilationUnit.withStore at inside
    split at inside
    · exact untitled_importRecords (new id) _ n f inside
    · exact new id n f inside

/-- What becomes of a unit by compiling texts and forms, with a store or without one, and by clearing the reports. -/
inductive Becomes (u : CompilationUnit) : CompilationUnit → Prop
  | same : Becomes u u
  | source {u' : CompilationUnit} {σ : Type} [Storage σ] (before : Becomes u u') (store : Option σ)
    (source code : String) : Becomes u (u'.compileSource store source code).unit
  | form {u' : CompilationUnit} {σ : Type} [Storage σ] (before : Becomes u u') (store : Option σ) (n : Node) :
    Becomes u (u'.compileForm store n).unit
  | clear {u' : CompilationUnit} (before : Becomes u u') : Becomes u u'.clearReports

section Step

variable {σ : Type} [Storage σ] {u : CompilationUnit}

theorem Placing.titled {d : Definition} {p : Placed} (placing : u.Placing d p) (titled : d.function.Titled d.name) :
    p.function.Titled d.name := by
  cases placing with
  | new => exact ⟨titled.destructor, titled.setter⟩
  | known => exact ⟨titled.destructor, titled.setter⟩

theorem Accepts.titled {u' : CompilationUnit} {store store' : Option σ} {d : Definition}
    (accepts : Accepts u store d u' store') (titled : d.function.Titled d.name)
    (inside : f ∈ u'.registry.overloads name) : f ∈ u.registry.overloads name ∨ f.Titled name := by
  have put {i : Nat} {g : Function} (marked : g.Titled d.name)
      (inside : f ∈ (u.registry.put d.name i g).overloads name) : f ∈ u.registry.overloads name ∨ f.Titled name := by
    rcases Registry.mem_overloads_of_put inside with old | ⟨rfl, rfl⟩
    · exact .inl old
    · exact .inr marked
  -- A definition that takes the place of an imported one brings its own marks along.
  cases accepts with
  | repeated => exact .inl inside
  | declared placing => exact put (placing.titled titled) inside
  | @defined p _ labels _ placing =>
    have placed := placing.titled titled
    exact put (g := { p.function with labels }) ⟨placed.destructor, placed.setter⟩ inside

theorem titled_compileForm (store : Option σ) (n : Node)
    (inside : f ∈ (u.compileForm store n).unit.registry.overloads name) :
    f ∈ u.registry.overloads name ∨ f.Titled name := by
  cases fault : (u.compileForm store n).fault with
  | some _ =>
    rw [registry_of_fault fault] at inside
    exact .inl inside
  | none =>
    obtain ⟨d, read⟩ := exists_definition_of_accepted fault
    exact (accepts_of_compileForm fault read).titled ((Definition.ends_read_titled n).ok read) inside

theorem titled_compileForms (store : Option σ) (ns : List Node)
    (inside : f ∈ (u.compileForms store ns).unit.registry.overloads name) :
    f ∈ u.registry.overloads name ∨ f.Titled name := by
  induction ns generalizing u store with
  | nil => exact .inl inside
  | cons n ns ih =>
    rw [compileForms] at inside
    split at inside
    · exact titled_compileForm store n inside
    · rcases ih _ inside with earlier | titled
      · exact titled_compileForm store n earlier
      · exact .inr titled

theorem Becomes.titled {u' : CompilationUnit} (becomes : u.Becomes u') (inside : f ∈ u'.registry.overloads name) :
    f ∈ u.registry.overloads name ∨ f.Titled name := by
  induction becomes with
  | same => exact .inl inside
  | source _ store source code ih =>
    rcases titled_compileForms store _ inside with earlier | titled
    · exact ih earlier
    · exact .inr titled
  | form _ store n ih =>
    rcases titled_compileForm store n inside with earlier | titled
    · exact ih earlier
    · exact .inr titled
  | clear _ ih => exact ih inside

end Step

/-- A function has the marks of its name unless it is one of those that the unit was opened with: these have none. -/
theorem titled_unless_opened {opened u : CompilationUnit} (start : opened.Opened) (becomes : opened.Becomes u)
    {name : String} {f : Function} (registered : f ∈ u.registry.overloads name) :
    (f.isDestructor = true ↔ name = "destroy" ∧ f ∉ opened.registry.overloads name) ∧
      (f.isSetter = true ↔ name.startsWith "setf-" = true ∧ f ∉ opened.registry.overloads name) := by
  by_cases old : f ∈ opened.registry.overloads name
  · have untitled := start.untitled old
    simp [old, untitled.destructor, untitled.setter]
  · have titled := (becomes.titled registered).resolve_left old
    simp [old, titled.destructor, titled.setter]

end CompilationUnit

namespace Workspace

def saving : List Action :=
  [.join "1", .compile 0 "" "(def destroy (fn extern void () (return)))" 0,
    .compile 0 "" "(def setf-x (fn extern void () (return)))" 0]

def redefine (u : CompilationUnit) : CompilationUnit :=
  (u.compileSource (none : Option Store) "" "(def destroy (fn extern void () (return)))").unit

theorem next_saving : ∃ u, (run saving).next "2" = u ∧
    (u.registry.overloads "destroy").map (·.isDestructor) = [false] ∧
    (u.registry.overloads "setf-x").map (·.isSetter) = [false] ∧
    ((redefine u).registry.overloads "destroy").map (·.isDestructor) = [true] ∧
    ((redefine u).registry.overloads "setf-x").map (·.isSetter) = [false] := by
  have loaded : let u := (run saving).store.rows.foldl CompilationUnit.importRecord (.new "2")
      (run saving).store.rows.Pairwise (fun a b => Store.rowLe a b = true) ∧
      (u.registry.overloads "destroy").map (·.isDestructor) = [false] ∧
      (u.registry.overloads "setf-x").map (·.isSetter) = [false] ∧
      ((redefine u).registry.overloads "destroy").map (·.isDestructor) = [true] ∧
      ((redefine u).registry.overloads "setf-x").map (·.isSetter) = [false] := by
    decide +kernel
  refine ⟨_, ?_, loaded.2⟩
  rw [(sound_run _).next_eq, List.mergeSort_of_pairwise loaded.1]

/-- The unit that is opened next knows both by their names, and neither as what it is. -/
theorem marks_not_imported :
    (∃ f ∈ ((run saving).next "2").registry.overloads "destroy", f.isDestructor = false) ∧
      ∃ f ∈ ((run saving).next "2").registry.overloads "setf-x", f.isSetter = false := by
  obtain ⟨u, opened, destructors, setters, -, -⟩ := next_saving
  rw [opened]
  exact ⟨List.mem_map.mp (destructors ▸ List.mem_singleton_self _),
    List.mem_map.mp (setters ▸ List.mem_singleton_self _)⟩

/-- Of the two, only the one that the unit has not defined itself is one of those it was opened with. -/
theorem titled_unless_opened_redefined : ∃ u, (run saving).next "2" = u ∧
    (∃ f ∈ (redefine u).registry.overloads "destroy", f ∉ u.registry.overloads "destroy") ∧
    ∃ f ∈ (redefine u).registry.overloads "setf-x", f ∈ u.registry.overloads "setf-x" := by
  obtain ⟨u, opened, -, -, destructors, setters⟩ := next_saving
  have start : u.Opened := opened ▸ .withStore "2" (run saving).store
  have becomes : u.Becomes (redefine u) := .source .same _ _ _
  obtain ⟨f, inside, marked⟩ : ∃ f ∈ (redefine u).registry.overloads "destroy", f.isDestructor = true :=
    List.mem_map.mp (destructors ▸ List.mem_singleton_self _)
  obtain ⟨g, inside', unmarked⟩ : ∃ f ∈ (redefine u).registry.overloads "setf-x", f.isSetter = false :=
    List.mem_map.mp (setters ▸ List.mem_singleton_self _)
  have both := CompilationUnit.titled_unless_opened start becomes inside
  have both' := CompilationUnit.titled_unless_opened start becomes inside'
  have setter : "setf-x".startsWith "setf-" = true := by decide +kernel
  rw [unmarked] at both'
  exact ⟨u, opened, ⟨f, inside, (both.1.mp marked).2⟩, g, inside', by simpa [setter] using both'.2⟩

end Workspace

end FormCompiler
