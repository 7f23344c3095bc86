import FormCompiler.Proofs.FailedForms
import FormCompiler.Proofs.Signatures

namespace FormCompiler

theorem Function.sameAs_symm {f g : Function} (h : f.sameAs g = true) : g.sameAs f = true := by
  obtain ⟨returns, params⟩ := sameAs_iff.mp h
  exact sameAs_iff.mpr ⟨returns.symm, params.symm⟩

theorem Function.sameAs_trans {f g k : Function} (h : f.sameAs g = true) (h' : g.sameAs k = true) :
    f.sameAs k = true := by
  obtain ⟨returns, params⟩ := sameAs_iff.mp h
  obtain ⟨returns', params'⟩ := sameAs_iff.mp h'
  exact sameAs_iff.mpr ⟨returns.trans returns', params.trans params'⟩

namespace Registry

variable {r : Registry} {name : String} {f known : Function} {i : Nat}

theorem exists_functions_assign (once : r.names.Nodup) (name : String) :
    ∃ front back, r.functions = front ++ r.overloads name ++ back ∧
      ∀ fs, (r.assign name fs).functions = front ++ fs ++ back := by
  obtain ⟨entries⟩ := r
  cases has : Registry.has ⟨entries⟩ name with
  | false =>
    have absent : ∀ e ∈ entries, (name != e.1) = true := by
      intro e inside
      have other : e.1 ≠ name := by simpa using List.any_eq_false.mp has e inside
      exact bne_iff_ne.mpr other.symm
    have none : Registry.overloads ⟨entries⟩ name = [] := by
      rw [overloads, List.lookup_eq_none_iff.mpr absent]
      rfl
    exact ⟨Registry.functions ⟨entries⟩, [], by simp [none], by simp [assign, has, functions]⟩
  | true =>
    obtain ⟨⟨key, gs⟩, inside, same⟩ := List.any_eq_true.mp has
    obtain rfl : key = name := eq_of_beq same
    obtain ⟨front, back, rfl⟩ := List.append_of_mem inside
    -- The name has no other entry, so that nothing else changes.
    have others : ∀ e ∈ front ++ back, e.1 ≠ key := by
      intro e other
      simp only [names, List.map_append, List.map_cons, List.nodup_append, List.nodup_cons, List.mem_cons] at once
      rcases List.mem_append.mp other with before | after
      · exact once.2.2 e.1 (List.mem_map_of_mem before) key (.inl rfl)
      · exact fun eq => once.2.1.1 (eq ▸ List.mem_map_of_mem after)
    have found : Registry.overloads ⟨front ++ (key, gs) :: back⟩ key = gs := by
      have first : (front ++ (key, gs) :: back).lookup key = some gs :=
        List.lookup_eq_some_iff.mpr ⟨front, back, rfl, fun e before =>
          bne_iff_ne.mpr (others e (List.mem_append_left _ before)).symm⟩
      rw [overloads, first]
      rfl
    have keep (fs : List Function) (es : List (String × List Function)) (apart : ∀ e ∈ es, e.1 ≠ key) :
        es.map (fun e => if e.1 == key then (key, fs) else e) = es := by
      conv => rhs; rw [← List.map_id es]
      refine List.map_congr_left fun e inside => ?_
      simp [apart e inside]
    refine ⟨front.flatMap (·.2), back.flatMap (·.2), by simp [found, functions], fun fs => ?_⟩
    rw [assign, if_pos has, functions, List.map_append, List.map_cons,
      keep fs front fun e before => others e (List.mem_append_left _ before),
      keep fs back fun e after => others e (List.mem_append_right _ after)]
    simp

theorem exists_functions_put_new (once : r.names.Nodup) (name : String) :
    ∃ front back, r.functions = front ++ back ∧
      ∀ f, (r.put name (r.overloads name).length f).functions = front ++ f :: back := by
  obtain ⟨front, back, before, after⟩ := exists_functions_assign once name
  exact ⟨front ++ r.overloads name, back, before, fun f => by simp [put, after]⟩

theorem exists_functions_put_known (once : r.names.Nodup) (there : (r.overloads name)[i]? = some known) :
    ∃ front back, r.functions = front ++ known :: back ∧ ∀ f, (r.put name i f).functions = front ++ f :: back := by
  obtain ⟨inside, rfl⟩ := List.getElem?_eq_some_iff.mp there
  obtain ⟨front, back, before, after⟩ := exists_functions_assign once name
  refine ⟨front ++ (r.overloads name).take i, (r.overloads name).drop (i + 1) ++ back, ?_, fun f => ?_⟩
  · have split : (r.overloads name).take i ++ (r.overloads name)[i] :: (r.overloads name).drop (i + 1) =
        r.overloads name := by rw [← List.drop_eq_getElem_cons inside, List.take_append_drop]
    calc r.functions
        = front ++ ((r.overloads name).take i ++ (r.overloads name)[i] :: (r.overloads name).drop (i + 1)) ++ back := by
          rw [split, before]
      _ = _ := by simp only [List.append_assoc, List.cons_append]
  · rw [put, if_pos inside, after, List.set_eq_take_append_cons_drop, if_pos inside]
    simp

theorem names_assign (r : Registry) (name : String) (fs : List Function) :
    (r.assign name fs).names = if r.has name then r.names else r.names ++ [name] := by
  unfold assign
  split
  · simp only [names, List.map_map]
    refine List.map_congr_left fun e _ => ?_
    simp only [Function.comp_apply]
    split
    · rename_i same
      exact (eq_of_beq same).symm
    · rfl
  · simp [names]

theorem nodup_names_put (once : r.names.Nodup) (name : String) (i : Nat) (f : Function) :
    (r.put name i f).names.Nodup := by
  rw [put, names_assign]
  split
  · exact once
  · rename_i new
    rw [List.nodup_append]
    refine ⟨once, by simp, fun key old last here => ?_⟩
    obtain ⟨e, inside, rfl⟩ := List.mem_map.mp old
    obtain rfl := List.mem_singleton.mp here
    exact fun same => new (List.any_eq_true.mpr ⟨e, inside, beq_iff_eq.mpr same⟩)

theorem getElem?_of_find? (h : r.find? name f = some (known, i)) : (r.overloads name)[i]? = some known := by
  have inside := List.mem_of_find?_eq_some h
  exact List.mem_zipIdx_iff_getElem?.mp inside

theorem mem_functions_of_find? (h : r.find? name f = some (known, i)) : known ∈ r.functions :=
  mem_functions_of_overloads (List.mem_of_getElem? (getElem?_of_find? h))

def Covers (r r' : Registry) : Prop := ∀ f ∈ r.functions, ∃ f' ∈ r'.functions, f'.symbol = f.symbol ∧ f.sameAs f' = true

theorem covers_of_subset {r' : Registry} (h : ∀ f ∈ r.functions, f ∈ r'.functions) : r.Covers r' :=
  fun f inside => ⟨f, h f inside, rfl, Function.sameAs_iff.mpr ⟨rfl, rfl⟩⟩

theorem covers_of_split {r' : Registry} {front back : List Function} {f' : Function}
    (before : r.functions = front ++ f :: back) (after : r'.functions = front ++ f' :: back)
    (symbol : f'.symbol = f.symbol) (same : f.sameAs f' = true) : r.Covers r' := by
  intro g inside
  rw [before, List.mem_append, List.mem_cons] at inside
  rw [after]
  rcases inside with early | rfl | late
  · exact ⟨g, List.mem_append_left _ early, rfl, Function.sameAs_iff.mpr ⟨rfl, rfl⟩⟩
  · exact ⟨f', by simp, symbol, same⟩
  · exact ⟨g, by simp [late], rfl, Function.sameAs_iff.mpr ⟨rfl, rfl⟩⟩

theorem mem_functions_put (once : r.names.Nodup) {f' : Function} (inside : f' ∈ (r.put name i f).functions) :
    f' = f ∨ f' ∈ r.functions := by
  obtain ⟨front, back, before, after⟩ := exists_functions_assign once name
  rw [put, after, List.mem_append, List.mem_append] at inside
  rw [before, List.mem_append, List.mem_append]
  rcases inside with (early | here) | late
  · exact .inr (.inl (.inl early))
  · split at here
    · rcases List.mem_or_eq_of_mem_set here with old | new
      · exact .inr (.inl (.inr old))
      · exact .inl new
    · rcases List.mem_append.mp here with old | new
      · exact .inr (.inl (.inr old))
      · exact .inl (List.mem_singleton.mp new)
  · exact .inr (.inr late)

structure Numbers (r : Registry) (size : Nat) : Prop where
  names : r.names.Nodup
  symbols : (r.functions.map (·.symbol)).Perm ((List.range size).map some)

namespace Numbers

variable {size n : Nat}

theorem exists_symbol (h : r.Numbers size) (registered : f ∈ r.functions) : ∃ n < size, f.symbol = some n := by
  have inside : f.symbol ∈ (List.range size).map some := h.symbols.mem_iff.mp (List.mem_map_of_mem registered)
  obtain ⟨n, range, symbol⟩ := List.mem_map.mp inside
  exact ⟨n, List.mem_range.mp range, symbol.symm⟩

theorem exists_function (h : r.Numbers size) (inside : n < size) : ∃ f ∈ r.functions, f.symbol = some n := by
  have member : some n ∈ r.functions.map (·.symbol) :=
    h.symbols.mem_iff.mpr (List.mem_map_of_mem (List.mem_range.mpr inside))
  simpa using member

theorem eq_of_symbol (h : r.Numbers size) (registered : f ∈ r.functions) (registered' : known ∈ r.functions)
    (same : known.symbol = f.symbol) : known = f := by
  have once : (r.functions.map (·.symbol)).Nodup :=
    h.symbols.nodup_iff.mpr (List.Pairwise.map some (fun _ _ apart eq => apart (Option.some.inj eq)) List.nodup_range)
  obtain ⟨front, back, split⟩ := List.append_of_mem registered
  rw [split, List.mem_append, List.mem_cons] at registered'
  simp only [split, List.map_append, List.map_cons, List.nodup_append, List.nodup_cons, List.mem_cons] at once
  rcases registered' with early | here | late
  · exact absurd same (once.2.2 _ (List.mem_map_of_mem early) _ (.inl rfl))
  · exact here
  · exact absurd (same ▸ List.mem_map_of_mem late) once.2.1.1

theorem putNew (h : r.Numbers size) (symbol : f.symbol = some size) (name : String) :
    (r.put name (r.overloads name).length f).Numbers (size + 1) := by
  obtain ⟨front, back, before, after⟩ := exists_functions_put_new h.names name
  refine ⟨nodup_names_put h.names _ _ _, ?_⟩
  have symbols := h.symbols
  rw [before, List.map_append] at symbols
  rw [after, List.map_append, List.map_cons, symbol, List.range_succ, List.map_append]
  refine List.perm_middle.trans ((symbols.cons _).trans ?_)
  simpa using (List.perm_append_singleton _ _).symm

theorem putKnown (h : r.Numbers size) (there : (r.overloads name)[i]? = some known) (symbol : f.symbol = known.symbol) :
    (r.put name i f).Numbers size := by
  obtain ⟨front, back, before, after⟩ := exists_functions_put_known h.names there
  refine ⟨nodup_names_put h.names _ _ _, ?_⟩
  have symbols := h.symbols
  rw [before, List.map_append, List.map_cons] at symbols
  rw [after, List.map_append, List.map_cons, symbol]
  exact symbols

end Numbers

section Overloads

variable {n : String} {g : Function}

theorem overloads_assign_self (r : Registry) (name : String) (fs : List Function) :
    (r.assign name fs).overloads name = fs := by
  obtain ⟨entries⟩ := r
  by_cases has : Registry.has ⟨entries⟩ name
  · rw [assign, if_pos has, overloads]
    induction entries with
    | nil => cases has
    | cons e entries ih =>
      obtain ⟨key, gs⟩ := e
      by_cases here : key = name
      · simp [here]
      · have later : Registry.has ⟨entries⟩ name := by simpa [Registry.has, here] using has
        simpa [List.lookup_cons, here, beq_eq_false_iff_ne.mpr (Ne.symm here)] using ih later
  · have absent : entries.lookup name = none := by
      rw [List.lookup_eq_none_iff]
      intro e inside
      have other : e.1 ≠ name := fun same => has (List.any_eq_true.mpr ⟨e, inside, beq_iff_eq.mpr same⟩)
      exact bne_iff_ne.mpr other.symm
    rw [assign, if_neg has, overloads, List.lookup_append, absent]
    simp

theorem overloads_assign_other (r : Registry) (other : n ≠ name) (fs : List Function) :
    (r.assign name fs).overloads n = r.overloads n := by
  obtain ⟨entries⟩ := r
  by_cases has : Registry.has ⟨entries⟩ name
  · rw [assign, if_pos has, overloads, overloads]
    refine congrArg (fun found : Option (List Function) => found.getD []) ?_
    clear has
    induction entries with
    | nil => rfl
    | cons e entries ih =>
      obtain ⟨key, gs⟩ := e
      by_cases here : key = name
      · simpa [List.lookup_cons, here, beq_eq_false_iff_ne.mpr other] using ih
      · simp only [List.map_cons, List.lookup_cons, beq_eq_false_iff_ne.mpr here, Bool.false_eq_true, if_false, ih]
  · rw [assign, if_neg has, overloads, overloads, List.lookup_append]
    simp [List.lookup_cons, beq_eq_false_iff_ne.mpr other]

theorem overloads_put_other (r : Registry) (other : n ≠ name) (i : Nat) (f : Function) :
    (r.put name i f).overloads n = r.overloads n := overloads_assign_other r other _

theorem overloads_put_new (r : Registry) (name : String) (f : Function) :
    (r.put name (r.overloads name).length f).overloads name = r.overloads name ++ [f] := by
  rw [put, overloads_assign_self, if_neg (Nat.lt_irrefl _)]

theorem mem_overloads_put_self (r : Registry) (name : String) (i : Nat) (f : Function) :
    f ∈ (r.put name i f).overloads name := by
  rw [put, overloads_assign_self]
  by_cases inside : i < (r.overloads name).length
  · rw [if_pos inside]
    exact List.mem_set inside f
  · rw [if_neg inside]
    exact List.mem_append_right _ List.mem_cons_self

theorem mem_overloads_of_put (h : g ∈ (r.put name i f).overloads n) : g ∈ r.overloads n ∨ (n = name ∧ g = f) := by
  by_cases here : n = name
  · subst here
    rw [put, overloads_assign_self] at h
    split at h
    · rcases List.mem_or_eq_of_mem_set h with old | new
      · exact .inl old
      · exact .inr ⟨rfl, new⟩
    · rcases List.mem_append.mp h with old | new
      · exact .inl old
      · exact .inr ⟨rfl, List.mem_singleton.mp new⟩
  · rw [overloads_put_other r here] at h
    exact .inl h

theorem mem_overloads_put (h : g ∈ r.overloads n) (name : String) (i : Nat) (f : Function) :
    g ∈ (r.put name i f).overloads n ∨ (n = name ∧ (r.overloads name)[i]? = some g) := by
  by_cases here : n = name
  · subst here
    rw [put, overloads_assign_self]
    obtain ⟨j, there⟩ := List.getElem?_of_mem h
    split
    · by_cases same : i = j
      · subst same
        exact .inr ⟨rfl, there⟩
      · refine .inl (List.mem_of_getElem? (i := j) ?_)
        rw [List.getElem?_set_ne same, there]
    · exact .inl (List.mem_append_left _ h)
  · rw [overloads_put_other r here]
    exact .inl h

theorem exists_overloads_of_mem_functions (once : r.names.Nodup) (h : f ∈ r.functions) : ∃ n, f ∈ r.overloads n := by
  obtain ⟨e, inside, member⟩ := List.mem_flatMap.mp h
  obtain ⟨front, back, entries⟩ := List.append_of_mem inside
  have first : r.entries.lookup e.1 = some e.2 := by
    refine List.lookup_eq_some_iff.mpr ⟨front, back, entries, ?_⟩
    intro e' before
    simp only [names, entries, List.map_append, List.map_cons, List.nodup_append] at once
    exact bne_iff_ne.mpr (once.2.2 e'.1 (List.mem_map_of_mem before) e.1 List.mem_cons_self).symm
  refine ⟨e.1, ?_⟩
  rw [overloads, first]
  exact member

theorem not_sameAs_of_find? (unknown : r.find? name f = none) (registered : g ∈ r.overloads name) :
    g.sameAs f = false := by
  obtain ⟨i, there⟩ := List.getElem?_of_mem registered
  have other := List.find?_eq_none.mp unknown (g, i) (List.mem_zipIdx_iff_getElem?.mpr there)
  exact (Bool.not_eq_true _).mp other

end Overloads

end Registry

theorem Function.orderly_of_dropLast {f : Function} (h : ∀ p ∈ f.params.dropLast, p.type.isVariadic = false) :
    f.Orderly := by
  intro t inside
  have first : ∀ u ∈ f.paramTypes.dropLast, u.isVariadic = false := by
    intro u member
    rw [paramTypes, ← List.map_dropLast] at member
    obtain ⟨p, early, rfl⟩ := List.mem_map.mp member
    exact h p early
  have length : f.paramTypes.length = f.params.length := List.length_map _
  cases variadic : f.isVariadic with
  | true =>
    rw [required, if_pos variadic, ← length, ← List.dropLast_eq_take] at inside
    exact first t inside
  | false =>
    rw [required, variadic, if_neg Bool.false_ne_true, ← length, List.take_length] at inside
    cases ends : f.paramTypes.getLast? with
    | none => simp [List.getLast?_eq_none_iff.mp ends] at inside
    | some last =>
      have plain : last.isVariadic = false := by simpa [isVariadic, ends] using variadic
      obtain ⟨front, split⟩ := List.getLast?_eq_some_iff.mp ends
      rw [split, List.dropLast_concat] at first
      rw [split, List.mem_append, List.mem_singleton] at inside
      rcases inside with early | rfl
      · exact first t early
      · exact plain

namespace Definition

/-- A definition as it is read: the marker stands last, and the internal name is made from what it is of. -/
structure Regular (d : Definition) : Prop where
  orderly : d.function.Orderly
  name : d.function.internalName = internalName d.function.linkage d.name d.function.params

theorem ends_readParam_type (n : Node) :
    Ends (readParam n) (fun p => p.type.isVariadic = false) fun _ => True := by
  unfold readParam
  split
  · split
    · trivial
    · rename_i typeNode _ _ _
      have any : Ends (Ty.read typeNode) (fun _ => True) fun _ => True := .of_all (fun _ => trivial) fun _ => trivial
      refine any.bind fun t _ => .ite (fun _ => trivial) fun fine => ?_
      simp only [Bool.or_eq_true, not_or, Bool.not_eq_true] at fine
      exact fine.1.2
  · trivial

theorem ends_readParams_last (ns : List Node) :
    Ends (readParams ns) (fun ps => ∀ p ∈ ps.dropLast, p.type.isVariadic = false) fun _ => True := by
  induction ns with
  | nil => simp [readParams, Ends]
  | cons n ns ih =>
    refine .ite (fun _ => .ite (fun _ => trivial) fun _ => by simp [Ends]) fun _ => ?_
    refine .bind (ends_readParam_type n) fun p plain => ih.bind fun ps others => ?_
    show ∀ q ∈ (p :: ps).dropLast, q.type.isVariadic = false
    cases ps with
    | nil => simp
    | cons q ps => simpa [plain] using others

theorem ends_readSignature_regular (name : String) (fn : Node) (linkage : Linkage) (attributes : List String)
    (ns : List Node) :
    Ends (readSignature name fn linkage attributes ns) (fun f => Regular ⟨name, f.1, f.2⟩) fun _ => True := by
  unfold readSignature
  split
  · rename_i returnNode paren paramNodes body
    have any : Ends (readReturnType returnNode) (fun _ => True) fun _ => True :=
      .of_all (fun _ => trivial) fun _ => trivial
    exact any.bind fun _ _ => (ends_readParams_last paramNodes).bind fun ps plain =>
      ⟨Function.orderly_of_dropLast plain, rfl⟩
  · trivial

theorem ends_readFunction_regular (name : String) (fn : Node) :
    Ends (readFunction name fn) (fun f => Regular ⟨name, f.1, f.2⟩) fun _ => True := by
  unfold readFunction
  split
  · split
    · trivial
    · refine .ite (fun _ => ?_) fun _ => ends_readSignature_regular _ _ _ _ _
      have any (ns : List Node) : Ends (readAttributes ns) (fun _ => True) fun _ => True :=
        .of_all (fun _ => trivial) fun _ => trivial
      exact (any _).bind fun _ _ => ends_readSignature_regular _ _ _ _ _
  · trivial

theorem ends_read_regular (n : Node) : Ends (read n) Regular fun _ => True := by
  unfold read
  refine .ite (fun _ => trivial) fun _ => ?_
  split
  · split
    · exact (ends_readFunction_regular _ _).bind fun f regular => ⟨regular.orderly, regular.name⟩
    · trivial
  · trivial

end Definition

namespace CompilationUnit

open IR

variable {u : CompilationUnit} {d : Definition}

inductive Placing (u : CompilationUnit) (d : Definition) : Placed → Prop
  | new {g : Func} (unknown : u.registry.find? d.name d.function = none)
    (different : u.registry.exact d.name d.function.paramTypes = none)
    (free : u.module.usesSymbol d.function.internalName = false) (declared : d.function.declaration = .ok g) :
    Placing u d ⟨{ u.module with funcs := u.module.funcs.push g },
      { d.function with symbol := some u.module.funcs.size }, (u.registry.overloads d.name).length⟩
  | known {f : Function} {i : Nat} (found : u.registry.find? d.name d.function = some (f, i))
    (linkage : f.linkage = d.function.linkage) (filled : d.body.isEmpty = false)
    (bare : f.isDeclaration u.module = true) : Placing u d ⟨u.module, { d.function with symbol := f.symbol }, i⟩

theorem placing_of_place {p : Placed} (h : u.place d = .ok (some p)) : u.Placing d p := by
  unfold place at h
  split at h
  · rename_i unknown
    cases check : u.checkNew d.name d.function with
    | error f => simp [check, bind, Except.bind] at h
    | ok =>
      cases declared : d.function.declaration with
      | error f => simp [check, bind, Except.bind, Module.declare, declared, Except.map] at h
      | ok g =>
        simp only [check, bind, Except.bind, Module.declare, declared, Except.map, Except.ok.injEq,
          Option.some.injEq] at h
        subst h
        unfold checkNew at check
        split at check
        · cases check
        · rename_i different
          split at check
          · cases check
          · rename_i free
            exact .new unknown different ((Bool.not_eq_true _).mp free) declared
  · rename_i f i found
    cases check : checkKnown d.name f d.function with
    | error e => simp [check, bind, Except.bind] at h
    | ok =>
      simp only [check, bind, Except.bind] at h
      split at h
      · cases h
      · rename_i body
        split at h
        · cases h
        · rename_i bare
          cases h
          have linkage : f.linkage = d.function.linkage := by
            unfold checkKnown at check
            split at check
            · cases check
            · rename_i same
              exact Decidable.not_not.mp same
          exact .known found linkage ((Bool.not_eq_true _).mp body) (by simpa using bare)

theorem Placing.places {p : Placed} (h : u.Placing d p) : u.Places d p := by
  cases h with
  | new _ _ _ declared => exact .new declared
  | known found _ _ bare => exact .known found bare

/-- What can become of the module and the registry of a unit by one form. A body whose function could not be
saved stays if the function had been declared before. -/
inductive Advances (u : CompilationUnit) : Module → Registry → Prop
  | kept : Advances u u.module u.registry
  | declared {d : Definition} {p : Placed} (regular : d.Regular) (placing : u.Placing d p)
    (bare : d.body.isEmpty = true) : Advances u p.module (u.registry.put d.name p.position p.function)
  | defined {d : Definition} {p : Placed} {body : Body} (regular : d.Regular) (placing : u.Placing d p)
    (compiled : Body.compile (u.context d p) d.body = .ok body) (labels : List String) :
    Advances u (install p.module p.function body) (u.registry.put d.name p.position { p.function with labels })
  | unsaved {d : Definition} {f : Function} {i : Nat} {body : Body} (regular : d.Regular)
    (found : u.registry.find? d.name d.function = some (f, i)) (linkage : f.linkage = d.function.linkage)
    (filled : d.body.isEmpty = false) (bare : f.isDeclaration u.module = true)
    (compiled : Body.compile (u.context d ⟨u.module, { d.function with symbol := f.symbol }, i⟩) d.body = .ok body) :
    Advances u (install u.module { d.function with symbol := f.symbol } body) u.registry

theorem size_install (m : Module) (f : Function) (body : Body) :
    (install m f body).funcs.size = m.funcs.size := by
  unfold install
  split
  · exact Array.size_modify
  · rfl

theorem take_size (m : Module) : { m with funcs := m.funcs.take m.funcs.size } = m := by simp

theorem advances_define {σ : Type} [Storage σ] (tidy : u.module.Tidy) (regular : d.Regular) (store : Option σ) :
    Ends (u.define store d).result (u.Advances (u.define store d).module) fun _ =>
      u.Advances { (u.define store d).module with
        funcs := (u.define store d).module.funcs.take u.module.funcs.size } u.registry := by
  cases place : u.place d with
  | error f =>
    simp only [define, place, take_size]
    exact .kept
  | ok found =>
    cases found with
    | none =>
      simp only [define, place]
      exact .kept
    | some p =>
      have placing := placing_of_place place
      simp only [define, place]
      cases bare : d.body.isEmpty with
      | true =>
        simp only [if_true]
        exact .declared regular placing bare
      | false =>
        simp only [Bool.false_eq_true, if_false]
        cases compiled : Body.compile (u.context d p) d.body with
        | error f =>
          simp only
          show u.Advances _ _
          rw [placing.places.take_retract tidy]
          exact .kept
        | ok body =>
          simp only
          cases saved : (saveMetadata u.id d.name { p.function with labels := body.labels.map (·.1) } store).1 with
          | ok =>
            simp only [Except.map]
            exact .defined regular placing compiled _
          | error f =>
            simp only [Except.map]
            show u.Advances _ _
            cases placing with
            | new =>
              have dropped (change : Func → Func) (g : Func) : { u.module with
                  funcs := ((u.module.funcs.push g).modify u.module.funcs.size change).take u.module.funcs.size } =
                    u.module := by rw [take_modify_push]
              simp only [install, dropped]
              exact .kept
            | @known f i found linkage filled bare =>
              rw [← size_install u.module _ body, take_size]
              exact .unsaved (f := f) (i := i) regular found linkage filled bare compiled

theorem advances_compileForm {σ : Type} [Storage σ] (tidy : u.module.Tidy) (store : Option σ) (n : Node) :
    u.Advances (u.compileForm store n).unit.module (u.compileForm store n).unit.registry := by
  unfold compileForm
  split
  · exact .kept
  · rename_i d outcome
    have advances := advances_define tidy ((Definition.ends_read_regular n).ok outcome) store
    split
    · rename_i same
      rw [same] at advances
      exact advances
    · rename_i same
      rw [same] at advances
      exact advances

end CompilationUnit

end FormCompiler
