import FormCompiler.Proofs.Units

namespace FormCompiler

namespace Fault

def Accounted : Fault → Prop
  | .reported first more => more = [] ∨ ∀ r ∈ first :: more, r.id = "comp/goto/undefined"
  | f => f.isUserFault = false

theorem Single.accounted : ∀ {f : Fault}, f.Single → f.Accounted
  | .reported _ [], _ => .inl rfl

theorem accounted_of_not_isUserFault : ∀ {f : Fault}, f.isUserFault = false → f.Accounted
  | .defect _, other | .broken _, other => other

end Fault

theorem Body.accounted_compile (ctx : Context) (forms : List Node) :
    Ends (Body.compile ctx forms) (fun _ => True) Fault.Accounted := by
  have known : True ∨ ctx.Sound := .inl trivial
  have filled := (Body.refused_fill known (Contract.grants_silent _) forms).2
  refine Body.ends_compile_of (filled.mono (fun _ _ _ => trivial) fun f c refused => ?_) ?_
  · rcases refused.2 with single | ⟨-, other⟩
    · exact single.accounted
    · exact Fault.accounted_of_not_isUserFault other
  · intro first more each
    refine .inr fun r inside => ?_
    obtain ⟨_, _, _, rfl⟩ := each r inside
    rfl

namespace CompilationUnit

open IR

variable {u v : CompilationUnit} {d : Definition}

structure SameCode (u v : CompilationUnit) : Prop where
  module : u.module = v.module
  registry : u.registry = v.registry

theorem SameCode.trans {w : CompilationUnit} (h : u.SameCode v) (k : v.SameCode w) : u.SameCode w :=
  ⟨h.module.trans k.module, h.registry.trans k.registry⟩

theorem SameCode.symm (h : u.SameCode v) : v.SameCode u := ⟨h.module.symm, h.registry.symm⟩

theorem modify_of_bare {m : Module} (tidy : m.Tidy) {n : Nat} (bare : m.funcs[n]?.all Func.isDeclaration = true) :
    m.funcs.modify n (fun g => { g with blocks := #[], internal := false }) = m.funcs := by
  apply Array.ext_getElem?
  intro i
  rw [Array.getElem?_modify]
  split
  · rename_i here
    subst here
    cases there : m.funcs[n]? with
    | none => rfl
    | some g =>
      have declaration : g.isDeclaration = true := by simpa [there] using bare
      have plain := tidy g (Array.mem_of_getElem? there) declaration
      have empty : g.blocks = #[] := by simpa [Func.isDeclaration] using declaration
      rw [Option.map_some, ← plain, ← empty]
  · rfl

theorem take_modify_push {α : Type} (xs : Array α) (x : α) (f : α → α) :
    ((xs.push x).modify xs.size f).take xs.size = xs := by
  apply Array.ext_getElem?
  intro i
  rw [Array.take_eq_extract, Array.getElem?_extract, Array.getElem?_modify, Array.getElem?_push]
  simp only [Array.size_modify, Array.size_push, Nat.zero_add]
  split
  · rename_i old
    rw [if_neg (by omega), if_neg (by omega)]
  · rename_i beyond
    rw [Array.getElem?_eq_none (by omega)]

theorem Places.take_retract {p : Placed} (placed : u.Places d p) (tidy : u.module.Tidy) :
    { retract p.module p.function with
      funcs := (retract p.module p.function).funcs.take u.module.funcs.size } = u.module := by
  cases placed with
  | new declared => simp only [retract, take_modify_push]
  | @known f i found bare =>
    have restored : (retract u.module { d.function with symbol := f.symbol }) = u.module := by
      cases symbol : f.symbol with
      | none => rfl
      | some n =>
        have declaration : u.module.funcs[n]?.all Func.isDeclaration = true := by
          simpa [Function.isDeclaration, symbol] using bare
        simp only [retract, modify_of_bare tidy declaration]
    simp [restored]

theorem Defines.restored {σ : Type} {o : Defined σ} {f : Fault} (h : u.Defines none d o) (tidy : u.module.Tidy)
    (failing : o.result = .error f) :
    { o.module with funcs := o.module.funcs.take u.module.funcs.size } = u.module := by
  cases h with
  | refused => simp
  | repeated | declared => cases failing
  | failed placed => exact placed.take_retract tidy
  | defined _ _ _ unsaved =>
    simp only [unsaved rfl] at failing
    cases failing

section Alone

variable {σ : Type} [Storage σ]

theorem sameCode_of_fault (h : u.Sound) {n : Node} (failed : (u.compileForm (none : Option σ) n).fault.isSome) :
    (u.compileForm (none : Option σ) n).unit.SameCode u := by
  unfold compileForm at failed ⊢
  split
  · exact ⟨rfl, rfl⟩
  · rename_i d outcome
    have defines := defines_define h.registry (none : Option σ) d
    simp only [outcome] at failed
    split
    · rename_i same
      simp [same] at failed
    · rename_i module store f same
      rw [same] at defines
      exact ⟨defines.restored h.module rfl, rfl⟩

theorem SameCode.define (same : u.SameCode v) (store : Option σ) (d : Definition) :
    u.define store d = v.define store d := by
  obtain ⟨module, registry, reports⟩ := u
  obtain ⟨module', registry', reports'⟩ := v
  obtain ⟨rfl, rfl⟩ := same
  rfl

theorem SameCode.compileForm (same : u.SameCode v) (store : Option σ) (n : Node) :
    (u.compileForm store n).fault = (v.compileForm store n).fault ∧
      (u.compileForm store n).unit.SameCode (v.compileForm store n).unit := by
  unfold CompilationUnit.compileForm
  cases Definition.read n with
  | error r => exact ⟨rfl, same.module, same.registry⟩
  | ok d =>
    dsimp only
    rw [same.define store d]
    split
    · exact ⟨rfl, rfl, rfl⟩
    · refine ⟨rfl, ?_, same.registry⟩
      simp only [afterFault, addReports, same.module]

theorem reports_of_accepted {n : Node} (accepted : (u.compileForm (none : Option σ) n).fault = none) :
    (u.compileForm (none : Option σ) n).unit.reports = u.reports := by
  unfold compileForm at accepted ⊢
  split
  · rename_i outcome
    simp [outcome] at accepted
  · rename_i d outcome
    simp only [outcome] at accepted
    split
    · rfl
    · rename_i same
      simp [same] at accepted

end Alone

section Accounts

variable {σ : Type} [Storage σ]

theorem accounted_define (u : CompilationUnit) (store : Option σ) (d : Definition) :
    Ends (u.define store d).result (fun _ => True) Fault.Accounted := by
  unfold define
  split
  · rename_i f outcome
    exact ((u.ends_place d).error outcome).accounted
  · trivial
  · rename_i p outcome
    dsimp only
    split
    · trivial
    · split
      · rename_i f failing
        exact (Body.accounted_compile (u.context d p) d.body).error failing
      · refine .map (.mono (ends_saveMetadata _ _ _ _) (fun _ h => h) fun _ single => single.accounted) ?_
        exact fun _ _ => trivial

/-- A form that is compiled leaves the reports as they are. One that fails because of the user adds what it fails
with, or reports about gotos without a label. -/
theorem reports_of_compileForm (u : CompilationUnit) (store : Option σ) (n : Node) :
    match (u.compileForm store n).fault with
    | none => (u.compileForm store n).unit.reports = u.reports
    | some (.reported first more) =>
      (u.compileForm store n).unit.reports = u.reports ++ first :: more ∧
        (more = [] ∨ ∀ r ∈ first :: more, r.id = "comp/goto/undefined")
    | some f => f.isUserFault = false := by
  cases outcome : Definition.read n with
  | error r =>
    simp only [compileForm, outcome]
    exact ⟨rfl, .inl trivial⟩
  | ok d =>
    have accounted := u.accounted_define store d
    cases defined : u.define store d with
    | mk module store' result =>
      rw [defined] at accounted
      simp only [compileForm, outcome, defined]
      match result, accounted with
      | .ok _, _ => rfl
      | .error (.reported _ _), accounted => exact ⟨rfl, accounted⟩
      | .error (.unsized _), accounted | .error (.defect _), accounted | .error (.broken _), accounted =>
        exact accounted

end Accounts

def compileEach (u : CompilationUnit) (ns : List Node) : CompilationUnit :=
  ns.foldl (fun u n => (u.compileForm (none : Option Store) n).unit) u

def accepted (u : CompilationUnit) : List Node → List Node
  | [] => []
  | n :: ns =>
    let o := u.compileForm (none : Option Store) n
    if o.fault.isNone then n :: accepted o.unit ns else accepted o.unit ns

theorem SameCode.compileEach_accepted (same : v.SameCode u) (h : u.Sound) (ns : List Node) :
    v.accepted (u.accepted ns) = u.accepted ns ∧ (v.compileEach (u.accepted ns)).reports = v.reports ∧
      (v.compileEach (u.accepted ns)).SameCode (u.compileEach ns) := by
  induction ns generalizing u v with
  | nil => exact ⟨rfl, rfl, same⟩
  | cons n ns ih =>
    have sound := (sound_compileForm h (none : Option Store) n).1
    obtain ⟨sameFault, sameAfter⟩ := same.compileForm (none : Option Store) n
    cases outcome : (u.compileForm (none : Option Store) n).fault with
    | none =>
      obtain ⟨again, quiet, ends⟩ := ih sameAfter sound
      have fine : (v.compileForm (none : Option Store) n).fault = none := sameFault.trans outcome
      have split : u.accepted (n :: ns) = n :: (u.compileForm (none : Option Store) n).unit.accepted ns := by
        simp only [accepted, outcome, Option.isNone_none, if_true]
      rw [split]
      refine ⟨?_, quiet.trans (reports_of_accepted fine), ends⟩
      simp only [accepted, fine, Option.isNone_none, if_true, again]
    | some f =>
      have undone := sameCode_of_fault h (n := n) (σ := Store) (by simp [outcome])
      have split : u.accepted (n :: ns) = (u.compileForm (none : Option Store) n).unit.accepted ns := by
        simp only [accepted, outcome, Option.isNone_some, Bool.false_eq_true, if_false]
      rw [split]
      exact ih (same.trans undone.symm) sound

/-- Forms that do not fail come to the same registry and the same module, without a report, if they are given alone.
-/
theorem failed_forms_invisible (reached : u.Reached) (ns : List Node) :
    u.accepted (u.accepted ns) = u.accepted ns ∧ (u.compileEach (u.accepted ns)).reports = u.reports ∧
      (u.compileEach (u.accepted ns)).registry = (u.compileEach ns).registry ∧
      (u.compileEach (u.accepted ns)).module = (u.compileEach ns).module := by
  obtain ⟨again, quiet, same⟩ := SameCode.compileEach_accepted (v := u) ⟨rfl, rfl⟩ reached.sound ns
  exact ⟨again, quiet, same.registry, same.module⟩

/-- A function that is declared, defined with a goto that leads nowhere, and then defined. -/
theorem failed_forms_invisible_goto :
    let u := CompilationUnit.new "0"
    let ns := (Node.read "" ("(def f (fn intern int ((n int))))" ++
      "(def f (fn intern int ((n int)) (label a) (goto b) (return n)))" ++
      "(def f (fn intern int ((n int)) (return n)))")).nodes
    (ns.length = 3 ∧ (u.accepted ns).length = 2) ∧ u.accepted (u.accepted ns) = u.accepted ns ∧
      (u.compileEach (u.accepted ns)).reports = [] ∧
      (u.compileEach (u.accepted ns)).registry = (u.compileEach ns).registry ∧
      (u.compileEach (u.accepted ns)).module = (u.compileEach ns).module := by
  intro u ns
  exact ⟨by decide +kernel, failed_forms_invisible (.new "0") ns⟩

end CompilationUnit

end FormCompiler
