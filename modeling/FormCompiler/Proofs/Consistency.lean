import FormCompiler.Proofs.Linking

namespace FormCompiler

open IR (Func Module)

namespace Octets

theorem ofString_inj {s t : String} (same : ofString s = ofString t) : s = t :=
  String.toByteArray_inj.mp (ByteArray.ext (Array.toList_inj.mp same))

theorem ofString_eq_flatMap (s : String) : ofString s = s.toList.flatMap String.utf8EncodeChar := by
  show s.toByteArray.data.toList = _
  rw [← String.utf8Encode_toList, List.utf8Encode]
  simp

theorem characters_encodeChar (c : Char) (rest : Octets) :
    characters (String.utf8EncodeChar c ++ rest) = .ok c :: characters rest := by
  cases encoded : String.utf8EncodeChar c with
  | nil => exact absurd encoded String.utf8EncodeChar_ne_nil
  | cons b more =>
    have size : more.length + 1 = c.utf8Size := by rw [← String.length_utf8EncodeChar, encoded, List.length_cons]
    have short : more.length ≤ 3 := by
      have := c.utf8Size_le_four
      omega
    have front : b :: (more ++ rest).take 3 = String.utf8EncodeChar c ++ rest.take (3 - more.length) := by
      rw [List.take_append, List.take_of_length_le short, encoded, List.cons_append]
    have first : character? b (more ++ rest) = some (c, more.length) := by
      rw [character?, front, List.toByteArray_append, ByteArray.utf8DecodeChar?_utf8EncodeChar_append, Option.map_some,
        ← size, Nat.add_sub_cancel]
    rw [List.cons_append, characters, first]
    simp

theorem text_ofString (s : String) : (ofString s).text = s := by
  have read (cs : List Char) : characters (cs.flatMap String.utf8EncodeChar) = cs.map .ok := by
    induction cs with
    | nil => simp [characters]
    | cons c cs ih => rw [List.flatMap_cons, characters_encodeChar, ih, List.map_cons]
  rw [text, ofString_eq_flatMap, read, List.map_map]
  simp [Function.comp_def]

end Octets

namespace IR.Name

/-- A name that is shown as another: one that is empty, and one that reads as an integer of 64 bits. -/
def Disguised (name : Octets) : Prop := name = [] ∨ (Text.Numeral.read? 64 name.text).isSome

theorem shown_of_not_disguised {name : Octets} (plain : ¬Disguised name) (number : Nat) : shown name number = name := by
  obtain ⟨filled, other⟩ := not_or.mp plain
  have other : Text.Numeral.read? 64 name.text = none := by simpa using other
  simp [shown, filled, other]

theorem not_disguised_mangle (name : String) (types : List Ty) :
    ¬Disguised (Octets.ofString (Mangle.mangle name types)) := by
  have first : ∃ rest, (Mangle.mangle name types).toList = '_' :: rest := by
    simp only [Mangle.mangle, String.toList_append]
    exact ⟨_, rfl⟩
  obtain ⟨rest, first⟩ := first
  have unread : Text.Numeral.read? 64 (Mangle.mangle name types) = none := by
    simp [Text.Numeral.read?, first, Text.Numeral.signed?, Text.Numeral.magnitude?]
  refine not_or.mpr ⟨fun none => ?_, by simp [Octets.text_ofString, unread]⟩
  have none : Mangle.mangle name types = "" := Octets.ofString_inj none
  simp [none] at first

end IR.Name

namespace Registry

variable {r : Registry} {name : String} {f : Function} {i : Nat} {P : String × List Function → Prop}

theorem forall_assign (h : ∀ e ∈ r.entries, P e) {fs : List Function} (new : P (name, fs)) :
    ∀ e ∈ (r.assign name fs).entries, P e := by
  unfold assign
  split
  · intro e inside
    obtain ⟨old, member, rfl⟩ := List.mem_map.mp inside
    split
    · exact new
    · exact h old member
  · intro e inside
    rcases List.mem_append.mp inside with old | last
    · exact h e old
    · obtain rfl := List.mem_singleton.mp last
      exact new

end Registry

theorem CompilationUnit.names_install (m : Module) (f : Function) (body : Body) :
    (install m f body).funcs.toList.map (·.name) = m.funcs.toList.map (·.name) := by
  unfold install
  split
  · refine List.ext_getElem? fun k => ?_
    simp only [List.getElem?_map, Array.getElem?_toList, Array.getElem?_modify]
    split
    · simp [Function.comp_def]
    · rfl
  · rfl

abbrev Function.NamedBy (f : Function) (name : String) : Prop :=
  f.internalName = Definition.internalName f.linkage name f.params

def Registry.Named (r : Registry) : Prop := ∀ e ∈ r.entries, ∀ f ∈ e.2, f.NamedBy e.1

/-- A registry whose functions go by the names that follow from what they are, here and in the module. -/
structure IR.Module.Named (m : Module) (r : Registry) : Prop where
  named : r.Named
  linked : m.Relates r fun f g => g.name = f.internalName

structure IR.Module.Consistent (m : Module) (r : Registry) : Prop extends m.Named r where
  apart : ∀ e ∈ r.entries, (e.2.map Function.paramTypes).Nodup
  internal : m.Relates r fun f g => g.internal = true ↔ f.linkage = .internal ∧ g.isDeclaration = false
  distinct : (m.funcs.toList.map (·.name)).Pairwise fun a b => a ≠ b ∨ Name.Disguised a

section Kept

variable {m : Module} {r : Registry} {f known : Function} {g : Func} {name : String} {i : Nat}

theorem Registry.Named.overloads (h : r.Named) (registered : f ∈ r.overloads name) : f.NamedBy name :=
  Registry.forall_overloads (P := fun e => ∀ f ∈ e.2, f.NamedBy e.1) h (by simp) f registered

theorem Registry.Named.put (h : r.Named) (called : f.NamedBy name) (i : Nat) : (r.put name i f).Named := by
  apply Registry.forall_assign h
  intro f' inside
  split at inside
  · rcases List.mem_or_eq_of_mem_set inside with earlier | here
    · exact h.overloads earlier
    · rw [here]
      exact called
  · rcases List.mem_append.mp inside with earlier | here
    · exact h.overloads earlier
    · rw [List.mem_singleton.mp here]
      exact called

namespace IR.Module.Named

theorem declareNew (h : m.Named r) (numbers : r.Numbers m.funcs.size) (symbol : f.symbol = some m.funcs.size)
    (called : f.NamedBy name) (declared : f.declaration = .ok g) :
    Named { m with funcs := m.funcs.push g } (r.put name (r.overloads name).length f) :=
  ⟨h.named.put called _, h.linked.declareNew numbers symbol (Function.declaration_eq_ok declared).2.1 name⟩

theorem replace (h : m.Named r) (once : r.names.Nodup) (there : (r.overloads name)[i]? = some known)
    (symbol : f.symbol = known.symbol) (same : known.internalName = f.internalName) (called : f.NamedBy name) :
    m.Named (r.put name i f) :=
  ⟨h.named.put called i, h.linked.replace once there symbol fun _ old => old.trans same⟩

theorem install (h : m.Named r) (numbers : r.Numbers m.funcs.size) (registered : f ∈ r.functions) {f' : Function}
    (symbol : f'.symbol = f.symbol) (body : Body) : (CompilationUnit.install m f' body).Named r :=
  ⟨h.named, h.linked.install numbers registered symbol fun n g here there => h.linked f registered n g here there⟩

end IR.Module.Named

namespace IR.Module.Consistent

theorem apart_overloads (h : m.Consistent r) (name : String) : ((r.overloads name).map Function.paramTypes).Nodup :=
  Registry.forall_overloads (P := fun e => (e.2.map Function.paramTypes).Nodup) h.apart (by simp)

theorem declareNew (h : m.Consistent r) (numbers : r.Numbers m.funcs.size) (symbol : f.symbol = some m.funcs.size)
    (called : f.NamedBy name) (different : r.exact name f.paramTypes = none)
    (free : m.usesSymbol f.internalName = false) (declared : f.declaration = .ok g) :
    Consistent { m with funcs := m.funcs.push g } (r.put name (r.overloads name).length f) := by
  obtain ⟨-, named, -, plain, bare⟩ := Function.declaration_eq_ok declared
  refine ⟨h.toNamed.declareNew numbers symbol called declared, ?_,
    h.internal.declareNew numbers symbol (by simp [plain, bare, Func.isDeclaration]) name, ?_⟩
  · have put : r.put name (r.overloads name).length f = r.assign name (r.overloads name ++ [f]) := by
      simp [Registry.put]
    rw [put]
    refine Registry.forall_assign h.apart ?_
    rw [List.map_append, List.nodup_append]
    refine ⟨h.apart_overloads name, by simp, fun types old last here => ?_⟩
    obtain ⟨other, registered, rfl⟩ := List.mem_map.mp old
    obtain rfl := List.mem_singleton.mp here
    simpa using List.find?_eq_none.mp different other registered
  · simp only [Array.toList_push, List.map_append, List.pairwise_append]
    refine ⟨h.distinct, by simp, fun a old b here => ?_⟩
    obtain ⟨g', inside, rfl⟩ := List.mem_map.mp old
    obtain rfl : b = g.name := by simpa using here
    -- The new name was compared with what the others are shown as, which is their name unless it is disguised.
    refine Classical.or_iff_not_imp_right.mpr fun plain same => ?_
    have other : Name.shown g'.name 0 ≠ f.internalName := by
      simpa using Array.any_eq_false'.mp free g' (Array.mem_def.mpr inside)
    rw [Name.shown_of_not_disguised plain, same, named] at other
    exact other rfl

theorem replace (h : m.Consistent r) (once : r.names.Nodup) (there : (r.overloads name)[i]? = some known)
    (symbol : f.symbol = known.symbol) (same : known.paramTypes = f.paramTypes) (linkage : known.linkage = f.linkage)
    (named : known.internalName = f.internalName) (called : f.NamedBy name) : m.Consistent (r.put name i f) := by
  refine ⟨h.toNamed.replace once there symbol named called, ?_,
    h.internal.replace once there symbol fun g internal => linkage ▸ internal, h.distinct⟩
  obtain ⟨inside, rfl⟩ := List.getElem?_eq_some_iff.mp there
  have put : r.put name i f = r.assign name ((r.overloads name).set i f) := by simp [Registry.put, inside]
  have types : ((r.overloads name).set i f).map Function.paramTypes = (r.overloads name).map Function.paramTypes := by
    have bound : i < ((r.overloads name).map Function.paramTypes).length := by simpa using inside
    have self : (r.overloads name)[i].paramTypes = ((r.overloads name).map Function.paramTypes)[i] := by simp
    rw [List.map_set, ← same, self, List.set_getElem_self]
  rw [put]
  refine Registry.forall_assign h.apart ?_
  rw [types]
  exact h.apart_overloads name

theorem install (h : m.Consistent r) (numbers : r.Numbers m.funcs.size) (registered : f ∈ r.functions)
    {f' : Function} (symbol : f'.symbol = f.symbol) (linkage : f'.linkage = f.linkage) {body : Body}
    (filled : 0 < body.blocks.size) : (CompilationUnit.install m f' body).Consistent r := by
  refine ⟨h.toNamed.install numbers registered symbol body, h.apart,
    h.internal.install numbers registered symbol fun n g here there => ?_, ?_⟩
  · have body : body.blocks.isEmpty = false := by simp [Array.isEmpty, Nat.ne_of_gt filled]
    simp [linkage, Func.isDeclaration, body]
  · rw [CompilationUnit.names_install]
    exact h.distinct

end IR.Module.Consistent

end Kept

namespace CompilationUnit

variable {u : CompilationUnit} {d : Definition} {p : Placed} {m : Module} {r : Registry} {f : Function} {i : Nat}

-- The internal name depends on the types of the parameters only, not on their names.
theorem internalName_of_found (named : u.module.Named u.registry) (regular : d.Regular)
    (found : u.registry.find? d.name d.function = some (f, i)) (linkage : f.linkage = d.function.linkage) :
    f.internalName = d.function.internalName := by
  obtain ⟨registered, same⟩ := Registry.find?_eq_some found
  have types : f.params.map (·.type) = d.function.params.map (·.type) := (Function.sameAs_iff.mp same).2
  rw [named.named.overloads registered, regular.name, Definition.internalName, Definition.internalName, linkage, types]

theorem Placing.named (placing : u.Placing d p) (numbers : u.registry.Numbers u.module.funcs.size)
    (h : u.module.Named u.registry) (regular : d.Regular) (labels : List String) :
    p.module.Named (u.registry.put d.name p.position { p.function with labels }) := by
  cases placing with
  | new _ _ _ declared =>
    exact h.declareNew (f := { d.function with symbol := some u.module.funcs.size, labels }) numbers rfl regular.name
      declared
  | known found linkage =>
    exact h.replace numbers.names (Registry.getElem?_of_find? found) rfl
      (internalName_of_found h regular found linkage) regular.name

theorem Placing.consistent (placing : u.Placing d p) (numbers : u.registry.Numbers u.module.funcs.size)
    (h : u.module.Consistent u.registry) (regular : d.Regular) (labels : List String) :
    p.module.Consistent (u.registry.put d.name p.position { p.function with labels }) := by
  cases placing with
  | new _ different free declared =>
    exact h.declareNew (f := { d.function with symbol := some u.module.funcs.size, labels }) numbers rfl regular.name
      different free declared
  | known found linkage =>
    have same := (Function.sameAs_iff.mp (Registry.find?_eq_some found).2).2
    exact h.replace numbers.names (Registry.getElem?_of_find? found) rfl same linkage
      (internalName_of_found h.toNamed regular found linkage) regular.name

theorem Advances.named (advances : u.Advances m r) (links : u.module.Links u.registry) (h : u.module.Named u.registry) :
    m.Named r := by
  cases advances with
  | kept => exact h
  | @declared d p regular placing _ => exact placing.named links.numbers h regular p.function.labels
  | @defined d p body regular placing compiled labels =>
    have self := placing.mem_functions links.numbers.names { p.function with labels }
    exact (placing.named links.numbers h regular labels).install
      (placing.links links regular labels).numbers self rfl body
  | @unsaved d f i body _ found linkage _ _ compiled =>
    have symbol : Function.symbol { d.function with symbol := f.symbol } = f.symbol := rfl
    exact h.install links.numbers (Registry.mem_functions_of_find? found) symbol body

theorem Advances.consistent (advances : u.Advances m r) (links : u.module.Links u.registry)
    (h : u.module.Consistent u.registry) : m.Consistent r := by
  cases advances with
  | kept => exact h
  | @declared d p regular placing _ => exact placing.consistent links.numbers h regular p.function.labels
  | @defined d p body regular placing compiled labels =>
    have self := placing.mem_functions links.numbers.names { p.function with labels }
    exact (placing.consistent links.numbers h regular labels).install (placing.links links regular labels).numbers self
      rfl rfl (Body.size_pos_of_compile compiled)
  | @unsaved d f i body _ found linkage _ _ compiled =>
    have symbol : Function.symbol { d.function with symbol := f.symbol } = f.symbol := rfl
    exact h.install links.numbers (Registry.mem_functions_of_find? found) symbol linkage.symm
      (Body.size_pos_of_compile compiled)

theorem Reached.consistent (reached : u.Reached) : u.module.Links u.registry ∧ u.module.Consistent u.registry := by
  induction reached with
  | new id =>
    refine ⟨links_new id, ⟨?_, ?_⟩, ?_, ?_, ?_⟩ <;>
      simp [CompilationUnit.new, Registry.Named, Module.Relates, Registry.functions]
  | source _ store source code ih =>
    exact kept_compileForms (u := CompilationUnit.addReports _ _) (fun m r => m.Links r ∧ m.Consistent r)
      (fun h => h.1.tidy) (fun h next => ⟨next.links h.1, next.consistent h.1 h.2⟩) ih store _
  | form _ store n ih =>
    have next := advances_compileForm ih.1.tidy store n
    exact ⟨next.links ih.1, next.consistent ih.1 ih.2⟩
  | clear _ ih => exact ih

/-- The overloads of a name differ in their parameter types, and each of them is one function of the module, with the
signature that it is declared with. Names are different as long as they do not read as numbers. -/
theorem registry_matches_module (reached : u.Reached) :
    u.registry.names.Nodup ∧ (∀ e ∈ u.registry.entries, (e.2.map Function.paramTypes).Nodup) ∧
    (u.registry.functions.map (·.symbol)).Perm ((List.range u.module.funcs.size).map some) ∧
    (u.module.funcs.toList.map (·.name)).Pairwise (fun a b => a ≠ b ∨ IR.Name.Disguised a) ∧
    ∀ e ∈ u.registry.entries, ∀ f ∈ e.2, ∃ n g d, f.symbol = some n ∧ u.module.funcs[n]? = some g ∧
      (g.name = f.internalName ∧ f.internalName = Definition.internalName f.linkage e.1 f.params ∧
        (IR.Name.Disguised g.name → f.linkage = .externalC)) ∧
      (f.declaration = .ok d ∧ g.params.map (·.layout) = d.params.map (·.layout) ∧ g.result = d.result ∧
        g.variadic = d.variadic) ∧
      (g.internal = true ↔ f.linkage = .internal ∧ g.isDeclaration = false) := by
  obtain ⟨links, h⟩ := reached.consistent
  refine ⟨links.numbers.names, h.apart, links.numbers.symbols, h.distinct, fun e inside f member => ?_⟩
  have registered : f ∈ u.registry.functions := List.mem_flatMap.mpr ⟨e, inside, member⟩
  obtain ⟨n, g, symbol, there⟩ := links.exists_symbol registered
  obtain ⟨⟨s, has, params, result⟩, variadic⟩ := links.declared f registered n g symbol there
  have name := h.linked f registered n g symbol there
  have internal := h.internal f registered n g symbol there
  obtain ⟨d, declared, params', result'⟩ := has.exists_declaration
  have variadic' := (Function.declaration_eq_ok declared).1.variadic
  have named := h.named e inside f member
  refine ⟨n, g, d, symbol, there, ⟨name, named, fun disguised => ?_⟩,
    ⟨declared, params.trans params'.symm, result.trans result'.symm, variadic.trans variadic'.symm⟩, internal⟩
  refine Decidable.byContradiction fun mangled => ?_
  rw [name, named, Definition.internalName, if_neg mangled] at disguised
  exact IR.Name.not_disguised_mangle _ _ disguised

/-- A plain name that is taken already, between overloads of which one has a body. -/
theorem registry_matches_module_overloads :
    let u := ((CompilationUnit.new "0").compileSource (none : Option Store) ""
      "(def f (fn intern int () (return 1))) (def _Z1fv (fn extern-c int ())) (def f (fn extern int ((a int))))").unit
    u.Reached ∧ u.module.funcs.size = 2 ∧ u.reports.length = 1 ∧
      (u.registry.functions.map (·.symbol)).Perm ((List.range u.module.funcs.size).map some) ∧
      (u.module.funcs.toList.map (·.name)).Pairwise (fun a b => a ≠ b ∨ IR.Name.Disguised a) ∧
      ∀ e ∈ u.registry.entries, (e.2.map Function.paramTypes).Nodup ∧
        ∀ f ∈ e.2, ∃ n g, f.symbol = some n ∧ u.module.funcs[n]? = some g ∧ g.name = f.internalName ∧
          (g.internal = true ↔ f.linkage = .internal ∧ g.isDeclaration = false) := by
  intro u
  have reached : u.Reached := .source (.new "0") none "" _
  obtain ⟨-, apart, symbols, distinct, each⟩ := registry_matches_module reached
  obtain ⟨size, reports⟩ : u.module.funcs.size = 2 ∧ u.reports.length = 1 := by decide +kernel
  refine ⟨reached, size, reports, symbols, distinct, fun e inside => ⟨apart e inside, ?_⟩⟩
  intro f member
  obtain ⟨n, g, d, symbol, there, named, -, internal⟩ := each e inside f member
  exact ⟨n, g, symbol, there, named.1, internal⟩

/-- A name that reads as a number is not found to be taken. -/
theorem number_names_two_functions :
    let u := ((CompilationUnit.new "0").compileSource (none : Option Store) ""
      "(def +5 (fn extern-c void ())) (def +5 (fn extern-c void ((a int))))").unit
    u.reports = [] ∧ u.module.funcs.toList.map (·.name) = [.ofString "+5", .ofString "+5"] := by
  decide +kernel

end CompilationUnit

end FormCompiler
