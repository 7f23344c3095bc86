import FormCompiler.Proofs.Linking

namespace FormCompiler

open IR (Block Func Inst Module Term)

namespace IR.Func

def blockNames (g : Func) : List String := (g.blocks.toList.map (·.name)).filter (· ≠ "")

def localNames (g : Func) : List String := (g.params.map (·.name)).filter (· ≠ "") ++ g.blockNames

def ownNames (slot : Bool) (labels : List String) : List String :=
  (if slot then ["retval"] else []) ++ "entry" :: labels.map ("label." ++ ·)

theorem head?_label (name : String) : ("label." ++ name).toList.head? = some 'l' := by
  rw [String.toList_append]
  rfl

theorem empty_notMem_ownNames (slot : Bool) (labels : List String) : "" ∉ ownNames slot labels := by
  cases slot <;> simp [ownNames]

theorem nodup_ownNames (slot : Bool) {labels : List String} (once : labels.Nodup) : (ownNames slot labels).Nodup := by
  have different {name : String} (other : name.toList.head? ≠ some 'l') : name ∉ labels.map ("label." ++ ·) := by
    intro inside
    obtain ⟨l, -, same⟩ := List.mem_map.mp inside
    exact other (same ▸ head?_label l)
  have apart : (labels.map ("label." ++ ·)).Nodup :=
    List.Pairwise.map _ (fun _ _ other same => other ((String.append_right_inj _).mp same)) once
  have entry : "entry" ∉ labels.map ("label." ++ ·) := different (by decide)
  have retval : "retval" ∉ labels.map ("label." ++ ·) := different (by decide)
  cases slot with
  | false => exact List.nodup_cons.mpr ⟨entry, apart⟩
  | true =>
    have other : "retval" ∉ "entry" :: labels.map ("label." ++ ·) := by
      rw [List.mem_cons, not_or]
      exact ⟨by decide, retval⟩
    exact List.nodup_cons.mpr ⟨other, List.nodup_cons.mpr ⟨entry, apart⟩⟩

end IR.Func

namespace Body

variable {b c : Body}

def names (b : Body) : List String := b.blocks.toList.map (·.name)

theorem getElem?_names (b : Body) (k : Nat) : b.names[k]? = b.name? k := by
  rw [names, List.getElem?_map, Array.getElem?_toList, name?]

theorem names_eq (same : ∀ k, c.name? k = b.name? k) : c.names = b.names := by
  refine List.ext_getElem? fun k => ?_
  rw [getElem?_names, getElem?_names, same]

theorem names_addBlock (b : Body) (name : String) : (b.addBlock name).names = b.names ++ [name] := by
  simp [names, addBlock]

structure Labelled (b : Body) : Prop where
  names : b.names.filter (· ≠ "") = "entry" :: (b.labels.map fun l => "label." ++ l.1).reverse
  once : (b.labels.map (·.1)).Nodup

namespace Labelled

theorem of_same (h : b.Labelled) (same : ∀ k, c.name? k = b.name? k) (labels : c.labels = b.labels) : c.Labelled := by
  refine ⟨?_, labels ▸ h.once⟩
  rw [names_eq same, labels]
  exact h.names

theorem startBlock (h : b.Labelled) : (b.startBlock "").Labelled := by
  refine ⟨?_, h.once⟩
  have names : (b.startBlock "").names = b.names ++ [""] := names_addBlock b ""
  rw [names, List.filter_append, h.names]
  exact List.append_nil _

theorem startLabel (h : b.Labelled) {name : String} (fresh : b.label? name = none) : (b.startLabel name).Labelled := by
  have labels : (b.startLabel name).labels = (name, b.blocks.size) :: b.labels := by
    have still : ((b.addBlock ("label." ++ name)).fallInto b.blocks.size).label? name = none := by
      rw [label?, labels_fallInto]
      exact fresh
    have added := labels_addLabel still b.blocks.size
    rw [labels_fallInto] at added
    exact added
  have names : (b.startLabel name).names = b.names ++ ["label." ++ name] := by
    rw [← names_addBlock]
    refine names_eq fun k => ?_
    show ((b.addBlock ("label." ++ name)).fallInto b.blocks.size).name? k = _
    unfold fallInto
    split
    · exact name?_terminate _ _ _ _
    · rfl
  refine ⟨?_, ?_⟩
  · rw [names, labels, List.filter_append, h.names]
    simp
  · rw [labels]
    exact List.nodup_cons.mpr ⟨notMem_labels_of_label? fresh, h.once⟩

theorem step {o : Body} (next : Step o b c) (h : b.Labelled) : c.Labelled := by
  cases next with
  | emit i _ => exact h.of_same (fun k => name?_append _ _ _ _) rfl
  | finish _ => exact startBlock (h.of_same (fun k => name?_terminate _ _ _ _) rfl)
  | wait _ => exact startBlock (h.of_same (fun _ => rfl) rfl)
  | label fresh => exact h.startLabel fresh
  | scope e => exact h.of_same (fun _ => rfl) rfl

theorem entry : Body.entry.Labelled := ⟨by decide, by decide⟩

end Labelled

theorem labelled_of_compile {ctx : Context} {forms : List Node} (h : Body.compile ctx forms = .ok b) : b.Labelled := by
  obtain ⟨filled, run, met, rfl⟩ := compile_eq_ok h
  have evolves := ((agree_fill_flow ctx forms (.broken .incomplete)).2.ok run).evolves
  have labelled : filled.Labelled := evolves.keeps (fun _ _ _ next => Labelled.step next) Labelled.entry
  have jumped := (evolves.flow flow_entry).jumped met
  exact labelled.of_same (fun k => (name?_close _ _ k).trans (jumped.names k)) jumped.labels

theorem Labelled.exists_labels (h : b.Labelled) : ∃ labels : List String, labels.Nodup ∧
    (b.blocks.toList.map (·.name)).filter (· ≠ "") = "entry" :: labels.map ("label." ++ ·) := by
  refine ⟨(b.labels.map (·.1)).reverse, (List.reverse_perm _).nodup_iff.mpr h.once, ?_⟩
  refine h.names.trans ?_
  rw [List.map_reverse, List.map_map]
  rfl

end Body

namespace Function

variable {f f' : Function} {g : Func}

theorem declaration_params (declared : f.declaration = .ok g) :
    ∃ fixed slot, paramLayouts f.params = .ok fixed ∧ f.slotLayout = .ok slot ∧ g.params = fixed ++ slot := by
  unfold declaration at declared
  cases fixed : paramLayouts f.params with
  | error e => simp [fixed, bind, Except.bind] at declared
  | ok ps =>
    cases slot : f.slotLayout with
    | error e => simp [fixed, slot, bind, Except.bind] at declared
    | ok qs =>
      simp only [fixed, slot, bind, Except.bind] at declared
      split at declared
      · cases declared
      · cases declared
        exact ⟨ps, qs, rfl, rfl, rfl⟩

theorem slotLayout_names {slot : List IR.Param} (h : f.slotLayout = .ok slot) :
    slot.map (·.name) = if f.hasSlot then ["retval"] else [] := by
  unfold slotLayout at h
  cases has : f.hasSlot with
  | false =>
    simp only [has, Bool.false_eq_true, if_false] at h
    cases h
    rfl
  | true =>
    simp only [has, if_true] at h
    split at h
    · cases h
    · cases h
      rfl

/-- What the parameters of a function of a module are called: what they were given as names when it was declared. -/
def NamedAs (f : Function) (g : Func) : Prop :=
  ∃ chosen, chosen.length = f.required ∧ g.params.map (·.name) = chosen ++ if f.hasSlot then ["retval"] else []

theorem namedAs_of_declaration (orderly : f.Orderly) (declared : f.declaration = .ok g) : f.NamedAs g := by
  obtain ⟨fixed, slot, laid, laidSlot, params⟩ := declaration_params declared
  have length : fixed.length = f.required := by
    have types := congrArg List.length (paramLayouts_eq_ok laid)
    rw [List.length_map, List.length_map] at types
    rw [← types, ← paramTypes, orderly.takeWhile_eq, List.length_take, Nat.min_eq_left f.required_le]
  refine ⟨fixed.map (·.name), by rw [List.length_map, length], ?_⟩
  rw [params, List.map_append, slotLayout_names laidSlot]

theorem lasts_namedAs : CompilationUnit.Lasts NamedAs where
  declared := namedAs_of_declaration
  same {f f' g} h same := by
    unfold NamedAs
    rw [← required_of_same same, ← hasSlot_of_same same]
    exact h
  given h _ _ _ := h

end Function

namespace CompilationUnit

variable {u : CompilationUnit}

/-- The names that a function gives out itself are different, so that all are different exactly if the parameters are
named apart from each other and from them. -/
theorem local_names_distinct_iff (arises : u.Arises) {n : Nat} {g : Func} (there : u.module.funcs[n]? = some g)
    (defined : g.isDeclaration = false) :
    ∃ f ∈ u.registry.functions, f.symbol = some n ∧ ∃ chosen labels : List String,
      (chosen.length = f.required ∧ g.params.map (·.name) = chosen ++ if f.hasSlot then ["retval"] else []) ∧
      (labels.Nodup ∧ g.blockNames = "entry" :: labels.map ("label." ++ ·)) ∧
      (Func.ownNames f.hasSlot labels).Nodup ∧
      (g.localNames.Nodup ↔
        (chosen.filter (· ≠ "")).Nodup ∧ ∀ name ∈ chosen, name ∉ Func.ownNames f.hasSlot labels) := by
  obtain ⟨f, registered, symbol, -⟩ := arises.exists_function there
  obtain ⟨chosen, length, params⟩ := arises.relates Function.lasts_namedAs f registered n g symbol there
  obtain ⟨ctx, forms, body, compiled, given⟩ := arises.exists_body there defined
  obtain ⟨labels, once, blocks⟩ := (Body.labelled_of_compile compiled).exists_labels
  have blocks : g.blockNames = "entry" :: labels.map ("label." ++ ·) := by
    rw [Func.blockNames, given]
    exact blocks
  have own := Func.nodup_ownNames f.hasSlot once
  refine ⟨f, registered, symbol, chosen, labels, ⟨length, params⟩, ⟨once, blocks⟩, own, ?_⟩
  have names : g.localNames = chosen.filter (· ≠ "") ++ Func.ownNames f.hasSlot labels := by
    rw [Func.localNames, params, blocks, List.filter_append, List.append_assoc, Func.ownNames]
    cases f.hasSlot <;> rfl
  rw [names, List.nodup_append]
  constructor
  · rintro ⟨apart, -, disjoint⟩
    refine ⟨apart, fun name inside taken => ?_⟩
    have named : name ≠ "" := fun empty => Func.empty_notMem_ownNames _ _ (empty ▸ taken)
    exact disjoint name (List.mem_filter.mpr ⟨inside, decide_eq_true named⟩) name taken rfl
  · rintro ⟨apart, disjoint⟩
    refine ⟨apart, own, fun name inside other taken same => ?_⟩
    exact disjoint name (List.mem_filter.mp inside).1 (same ▸ taken)

/-- The parameters are called what they were when the function was declared. -/
theorem local_names_distinct_iff_declared :
    let u := ((CompilationUnit.new "0").compileSource (none : Option Store) ""
      "(def f (fn extern (retval int) ((a int)))) (def f (fn extern (retval int) ((b int)) (label x) (return b)))").unit
    ∃ g : Func, u.module.funcs[0]? = some g ∧ g.isDeclaration = false ∧
      g.localNames = ["a", "retval", "entry", "label.x"] ∧
      ∃ f ∈ u.registry.functions, f.symbol = some 0 ∧ ∃ chosen labels : List String,
        (chosen.length = f.required ∧ g.params.map (·.name) = chosen ++ if f.hasSlot then ["retval"] else []) ∧
        (labels.Nodup ∧ g.blockNames = "entry" :: labels.map ("label." ++ ·)) ∧
        (Func.ownNames f.hasSlot labels).Nodup ∧
        (g.localNames.Nodup ↔
          (chosen.filter (· ≠ "")).Nodup ∧ ∀ name ∈ chosen, name ∉ Func.ownNames f.hasSlot labels) := by
  intro u
  have facts : (u.module.funcs[0]?.map fun g => (g.isDeclaration, g.localNames)) =
      some (false, ["a", "retval", "entry", "label.x"]) := by decide +kernel
  obtain ⟨g, there, facts⟩ := Option.map_eq_some_iff.mp facts
  obtain ⟨defined, names⟩ := Prod.mk.inj facts
  exact ⟨g, there, defined, names, local_names_distinct_iff (.source (.new "0") none "" _) there defined⟩

/-- A parameter may be called as the slot is. -/
theorem parameter_named_like_slot :
    let u := ((CompilationUnit.new "0").compileSource (none : Option Store) ""
      "(def f (fn extern (retval int) ((retval int)) (return retval)))").unit
    u.reports = [] ∧ ∃ g : Func, u.module.funcs[0]? = some g ∧ g.isDeclaration = false ∧ ¬g.localNames.Nodup := by
  intro u
  have facts : u.reports = [] ∧ (u.module.funcs[0]?.map fun g => (g.isDeclaration, decide g.localNames.Nodup)) =
      some (false, false) := by decide +kernel
  obtain ⟨quiet, facts⟩ := facts
  obtain ⟨g, there, facts⟩ := Option.map_eq_some_iff.mp facts
  obtain ⟨defined, names⟩ := Prod.mk.inj facts
  exact ⟨quiet, g, there, defined, of_decide_eq_false names⟩

end CompilationUnit

end FormCompiler
