import FormCompiler.Proofs.Code
import FormCompiler.Proofs.Registration
import FormCompiler.Unit.Import

namespace FormCompiler

open IR (Func Inst Layout Module Place Term Value)

namespace Function

variable {f g : Function}

theorem required_of_same (same : f.sameAs g = true) : f.required = g.required := by
  have length : f.params.length = g.params.length := by
    simpa [paramTypes] using congrArg List.length (sameAs_iff.mp same).2
  rw [required, required, isVariadic_of_same same, length]

theorem hasSlot_of_same (same : f.sameAs g = true) : f.hasSlot = g.hasSlot := by
  rw [hasSlot, hasSlot, (sameAs_iff.mp same).1]

theorem Orderly.of_same (h : f.Orderly) (same : f.sameAs g = true) : g.Orderly := by
  have params := (sameAs_iff.mp same).2
  rw [Orderly, ← params, ← required_of_same same]
  exact h

theorem Called.of_same {result : Layout} {args : List Layout} (h : f.Called result args) (same : f.sameAs g = true) :
    g.Called result args := by
  obtain ⟨s, more, has, returned, passed, plain⟩ := h
  exact ⟨s, more, has.of_same same, returned, passed, fun fixed => plain (isVariadic_of_same same ▸ fixed)⟩

end Function

/-- A function of a module whose body calls what is registered, and returns as `f` does. -/
structure IR.Func.Coded (r : Registry) (f : Function) (g : Func) : Prop where
  insts : ∀ p i, g.inst? p = some i → i.Typed g.layoutOf?
  terms : ∀ k t, g.term? k = some t → t.Typed g.result g.layoutOf?
  used : ∀ p i, g.inst? p = some i → ∀ v ∈ i.operands, g.layoutOf? v = some v.layout
  before : ∀ p i, g.inst? p = some i → ∀ q l, Value.inst q l ∈ i.operands → q.Before p
  returned : ∀ k t, g.term? k = some t → ∀ v ∈ t.operands, g.layoutOf? v = some v.layout
  early : ∀ k t, g.term? k = some t → ∀ q l, Value.inst q l ∈ t.operands → q.block ≤ k
  calls : ∀ p result n args, g.inst? p = some (.call result n args) → ∃ h ∈ r.functions, h.symbol = some n ∧
    ∃ layouts, args.map g.layoutOf? = layouts.map some ∧ h.Called result layouts
  slot : f.hasSlot = true → ∀ k v, g.term? k = some (.ret v) →
    ∃ index w l, g.inst? ⟨k, index⟩ = some (.store w (.param f.required l))

namespace IR.Func

variable {r r' : Registry} {f : Function} {g : Func}

theorem Coded.covered (h : g.Coded r f) (covers : r.Covers r') : g.Coded r' f := by
  refine { h with calls := fun p result n args there => ?_ }
  obtain ⟨callee, registered, symbol, layouts, passed, called⟩ := h.calls p result n args there
  obtain ⟨other, registered', symbol', same⟩ := covers callee registered
  exact ⟨other, registered', symbol'.trans symbol, layouts, passed, called.of_same same⟩

theorem Coded.of_same {f' : Function} (h : g.Coded r f) (same : f.sameAs f' = true) : g.Coded r f' := by
  refine { h with slot := fun slot k v ends => ?_ }
  rw [← Function.required_of_same same]
  exact h.slot (Function.hasSlot_of_same same ▸ slot) k v ends

theorem coded_of_bare (bare : g.blocks = #[]) : g.Coded r f := by
  have empty (p : Place) : g.inst? p = none := by simp [inst?, bare]
  have endless (k : Nat) : g.term? k = none := by simp [term?, bare]
  constructor <;> simp [empty, endless]

section Code

variable {ctx : Context} {s : Signature} {b : Body} (blocks : g.blocks = b.blocks)
  (params : g.params.map (·.layout) = s.params)

include blocks params

theorem layoutOf?_of_provides {near : Place → Prop} {v : Value} (h : b.Provides s near v) :
    g.layoutOf? v = some v.layout := by
  cases v with
  | const => rfl
  | param n l =>
    have here : s.params[n]? = some l := h
    rw [← params, List.getElem?_map] at here
    exact here
  | inst p l =>
    obtain ⟨-, i, there, layout⟩ := h
    have here : g.inst? p = some i := by
      rw [inst?, blocks]
      exact there
    simp [layoutOf?, here, layout, Value.layout]

theorem coded_of_code (code : b.Code ctx s) (result : g.result = s.result) (covers : ctx.registry.Covers r)
    (same : ctx.function.sameAs f = true) : g.Coded r f := by
  have insts (p : Place) : g.inst? p = b.inst? p := by rw [inst?, blocks]; rfl
  have terms (k : Nat) : g.term? k = b.term? k := by rw [term?, blocks]; rfl
  have used {p : Place} {i : Inst} (there : g.inst? p = some i) :
      ∀ v ∈ i.operands, g.layoutOf? v = some v.layout := fun v used =>
    layoutOf?_of_provides blocks params ((code.insts p i (insts p ▸ there)).operands v used)
  have returned {k : Nat} {t : Term} (ends : g.term? k = some t) :
      ∀ v ∈ t.operands, g.layoutOf? v = some v.layout := fun v used =>
    layoutOf?_of_provides blocks params ((code.terms k t (terms k ▸ ends)).operands v used)
  refine {
    insts p i there := (code.insts p i (insts p ▸ there)).typed.congr fun v inside => (used there v inside).symm
    terms k t ends := by
      rw [result]
      exact (code.terms k t (terms k ▸ ends)).typed.congr fun v inside => (returned ends v inside).symm
    used _ _ := used
    before p i there q l inside := ((code.insts p i (insts p ▸ there)).operands (.inst q l) inside).1
    returned _ _ := returned
    early k t ends q l inside := ((code.terms k t (terms k ▸ ends)).operands (.inst q l) inside).1
    calls p result n args there := ?_
    slot slot k v ends := ?_ }
  · obtain ⟨callee, registered, symbol, called⟩ := (code.insts p _ (insts p ▸ there)).calls
    obtain ⟨other, registered', symbol', same'⟩ := covers callee registered
    refine ⟨other, registered', symbol'.trans symbol, args.map Value.layout, ?_, called.of_same same'⟩
    rw [List.map_map]
    exact List.map_congr_left (used there)
  · have allows := code.terms k _ (terms k ▸ ends)
    obtain ⟨index, w, l, there⟩ := allows.slot (Function.hasSlot_of_same same ▸ slot) v rfl
    exact ⟨index, w, l, by rw [insts, there, Function.required_of_same same]⟩

end Code

end IR.Func

/-- Whether that holds between each registered function and the one of the module that has its number. -/
def IR.Module.Relates (m : Module) (r : Registry) (P : Function → Func → Prop) : Prop :=
  ∀ f ∈ r.functions, ∀ n g, f.symbol = some n → m.funcs[n]? = some g → P f g

namespace IR.Module.Relates

variable {m : Module} {r : Registry} {P : Function → Func → Prop} {f known : Function} {g : Func} {name : String}
  {i : Nat}

theorem declareNew (h : m.Relates r P) (numbers : r.Numbers m.funcs.size) (symbol : f.symbol = some m.funcs.size)
    (new : P f g) (name : String) :
    Relates { m with funcs := m.funcs.push g } (r.put name (r.overloads name).length f) P := by
  intro f' inside n g' symbol' there
  rcases Registry.mem_functions_put numbers.names inside with rfl | registered
  · obtain rfl : n = m.funcs.size := Option.some.inj (symbol'.symm.trans symbol)
    obtain rfl : g = g' := by simpa using there
    exact new
  · obtain ⟨n', range, eq⟩ := numbers.exists_symbol registered
    obtain rfl : n' = n := Option.some.inj (eq.symm.trans symbol')
    rw [Array.getElem?_push, if_neg (Nat.ne_of_lt range)] at there
    exact h f' registered n' g' symbol' there

theorem replace (h : m.Relates r P) (once : r.names.Nodup) (there : (r.overloads name)[i]? = some known)
    (symbol : f.symbol = known.symbol) (new : ∀ g, P known g → P f g) : m.Relates (r.put name i f) P := by
  intro f' inside n g symbol' there'
  rcases Registry.mem_functions_put once inside with rfl | registered
  · have known' := Registry.mem_functions_of_overloads (List.mem_of_getElem? there)
    exact new g (h known known' n g (symbol ▸ symbol') there')
  · exact h f' registered n g symbol' there'

theorem install (h : m.Relates r P) (numbers : r.Numbers m.funcs.size) (registered : f ∈ r.functions) {f' : Function}
    (symbol : f'.symbol = f.symbol) {body : Body}
    (new : ∀ n g, f.symbol = some n → m.funcs[n]? = some g →
      P f { g with blocks := body.blocks, internal := f'.linkage == .internal }) :
    (CompilationUnit.install m f' body).Relates r P := by
  obtain ⟨n, -, here⟩ := numbers.exists_symbol registered
  intro k inside n' g symbol' there
  simp only [CompilationUnit.install, symbol.trans here, Array.getElem?_modify] at there
  split at there
  · rename_i same
    subst same
    -- No other function has the number.
    obtain rfl : k = f := numbers.eq_of_symbol registered inside (symbol'.trans here.symm)
    obtain ⟨old, before, rfl⟩ := Option.map_eq_some_iff.mp there
    exact new n old here before
  · exact h k inside n' g symbol' there

end IR.Module.Relates

/-- A registry of the functions of a module, each as it is declared there and with a body as it may be. -/
structure IR.Module.Links (m : Module) (r : Registry) : Prop where
  tidy : m.Tidy
  numbers : r.Numbers m.funcs.size
  orderly : ∀ f ∈ r.functions, f.Orderly
  declared : m.Relates r Function.DeclaredAs
  coded : m.Relates r fun f g => g.Coded r f

namespace IR.Module.Links

variable {m : Module} {r : Registry} {f known : Function} {g : Func} {name : String} {i n : Nat}

theorem exists_symbol (h : m.Links r) (registered : f ∈ r.functions) :
    ∃ n g, f.symbol = some n ∧ m.funcs[n]? = some g := by
  obtain ⟨n, inside, symbol⟩ := h.numbers.exists_symbol registered
  exact ⟨n, _, symbol, Array.getElem?_eq_getElem inside⟩

theorem callable (h : m.Links r) (registered : f ∈ r.functions) : f.Callable := by
  obtain ⟨n, g, symbol, there⟩ := h.exists_symbol registered
  obtain ⟨s, has, -⟩ := (h.declared f registered n g symbol there).signature
  exact ⟨⟨s, has⟩, h.orderly f registered, by simp [symbol]⟩

theorem declareNew (h : m.Links r) (orderly : f.Orderly) (declared : f.declaration = .ok g)
    (symbol : f.symbol = some m.funcs.size) (name : String) :
    Links { m with funcs := m.funcs.push g } (r.put name (r.overloads name).length f) := by
  obtain ⟨front, back, before, after⟩ := Registry.exists_functions_put_new h.numbers.names name
  obtain ⟨stated, -, -, plain, bare⟩ := Function.declaration_eq_ok declared
  have covers : r.Covers (r.put name (r.overloads name).length f) := by
    refine Registry.covers_of_subset fun f' inside => ?_
    rw [before, List.mem_append] at inside
    rw [after, List.mem_append, List.mem_cons]
    exact inside.imp id .inr
  refine ⟨h.tidy.push plain, ?_, fun f' inside => ?_, h.declared.declareNew h.numbers symbol stated name, ?_⟩
  · rw [Array.size_push]
    exact h.numbers.putNew symbol name
  · rcases Registry.mem_functions_put h.numbers.names inside with rfl | registered
    · exact orderly
    · exact h.orderly f' registered
  · have still : m.Relates r fun f' g' => g'.Coded (r.put name (r.overloads name).length f) f' :=
      fun f' inside n g' symbol' there => (h.coded f' inside n g' symbol' there).covered covers
    exact still.declareNew h.numbers symbol (Func.coded_of_bare bare) name

theorem replace (h : m.Links r) (there : (r.overloads name)[i]? = some known) (symbol : f.symbol = known.symbol)
    (same : known.sameAs f = true) : m.Links (r.put name i f) := by
  obtain ⟨front, back, before, after⟩ := Registry.exists_functions_put_known h.numbers.names there
  have covers : r.Covers (r.put name i f) := Registry.covers_of_split before (after f) symbol same
  refine ⟨h.tidy, h.numbers.putKnown there symbol, fun f' inside => ?_, ?_, ?_⟩
  · rcases Registry.mem_functions_put h.numbers.names inside with rfl | registered
    · exact (h.orderly known (by simp [before])).of_same same
    · exact h.orderly f' registered
  · exact h.declared.replace h.numbers.names there symbol fun g stated => stated.of_same same
  · have still : m.Relates r fun f' g' => g'.Coded (r.put name i f) f' :=
      fun f' inside n g' symbol' there' => (h.coded f' inside n g' symbol' there').covered covers
    exact still.replace h.numbers.names there symbol fun g coded => coded.of_same same

theorem install (h : m.Links r) (registered : f ∈ r.functions) {f' : Function} (symbol : f'.symbol = f.symbol)
    {ctx : Context} {s : Signature} (linked : ctx.Linked s) (covers : ctx.registry.Covers r)
    (same : ctx.function.sameAs f = true) {forms : List Node} {body : Body}
    (compiled : Body.compile ctx forms = .ok body) : (CompilationUnit.install m f' body).Links r := by
  refine ⟨CompilationUnit.tidy_install h.tidy f' (Body.size_pos_of_compile compiled), ?_, h.orderly, ?_, ?_⟩
  · rw [CompilationUnit.size_install]
    exact h.numbers
  · refine h.declared.install h.numbers registered symbol fun n g here there => ?_
    obtain ⟨signature, variadic⟩ := h.declared f registered n g here there
    exact ⟨signature, variadic⟩
  · refine h.coded.install h.numbers registered symbol fun n g here there => ?_
    -- What is declared has the signature that the body was compiled for: both follow from the same types.
    obtain ⟨⟨s', has, params, result⟩, -⟩ := h.declared f registered n g here there
    obtain rfl : s = s' := (linked.signature.of_same same).unique has
    exact Func.coded_of_code rfl params (Body.code_of_compile linked compiled) result covers same

end IR.Module.Links

namespace CompilationUnit

variable {u : CompilationUnit} {d : Definition} {p : Placed} {m : Module} {r : Registry}

theorem Placing.exists_functions (placing : u.Placing d p) (once : u.registry.names.Nodup) :
    ∃ front back, ∀ f, (u.registry.put d.name p.position f).functions = front ++ f :: back := by
  cases placing with
  | new =>
    obtain ⟨front, back, -, after⟩ := Registry.exists_functions_put_new once d.name
    exact ⟨front, back, after⟩
  | known found =>
    obtain ⟨front, back, -, after⟩ := Registry.exists_functions_put_known once (Registry.getElem?_of_find? found)
    exact ⟨front, back, after⟩

theorem Placing.mem_functions (placing : u.Placing d p) (once : u.registry.names.Nodup) (f : Function) :
    f ∈ (u.registry.put d.name p.position f).functions := by
  obtain ⟨front, back, after⟩ := placing.exists_functions once
  simp [after]

theorem Placing.links (placing : u.Placing d p) (h : u.module.Links u.registry) (regular : d.Regular)
    (labels : List String) : p.module.Links (u.registry.put d.name p.position { p.function with labels }) := by
  cases placing with
  | new _ _ _ declared =>
    exact h.declareNew (f := { d.function with symbol := some u.module.funcs.size, labels }) regular.orderly declared
      rfl d.name
  | known found =>
    have same := (Registry.find?_eq_some found).2
    exact h.replace (Registry.getElem?_of_find? found) rfl (Function.sameAs_iff.mpr (Function.sameAs_iff.mp same))

theorem Placing.linked (placing : u.Placing d p) (h : u.module.Links u.registry) (regular : d.Regular) :
    ∃ s, (u.context d p).Linked s := by
  have links := placing.links h regular p.function.labels
  obtain ⟨⟨s, has⟩, orderly, -⟩ := links.callable (placing.mem_functions h.numbers.names p.function)
  exact ⟨s, fun f registered => links.callable registered, has, orderly⟩

theorem Advances.links (advances : u.Advances m r) (h : u.module.Links u.registry) : m.Links r := by
  cases advances with
  | kept => exact h
  | @declared d p regular placing _ => exact placing.links h regular p.function.labels
  | @defined d p body regular placing compiled labels =>
    obtain ⟨s, linked⟩ := placing.linked h regular
    obtain ⟨front, back, after⟩ := placing.exists_functions h.numbers.names
    have self := placing.mem_functions h.numbers.names { p.function with labels }
    have same : p.function.sameAs { p.function with labels } = true := Function.sameAs_iff.mpr ⟨rfl, rfl⟩
    have covers := Registry.covers_of_split (after p.function) (after { p.function with labels }) rfl same
    exact (placing.links h regular labels).install self rfl linked covers same compiled
  | @unsaved d f i body regular found linkage filled bare compiled =>
    -- The body was compiled where the definition is registered. The declaration that is kept is the same function.
    have placing : u.Placing d ⟨u.module, { d.function with symbol := f.symbol }, i⟩ :=
      .known found linkage filled bare
    obtain ⟨s, linked⟩ := placing.linked h regular
    obtain ⟨front, back, before, after⟩ :=
      Registry.exists_functions_put_known h.numbers.names (Registry.getElem?_of_find? found)
    have same := Function.sameAs_symm (Registry.find?_eq_some found).2
    have covers := Registry.covers_of_split (after { d.function with symbol := f.symbol }) before rfl same
    have symbol : Function.symbol { d.function with symbol := f.symbol } = f.symbol := rfl
    exact h.install (Registry.mem_functions_of_find? found) symbol linked covers same compiled

/-- The units that come about from a new one, or from what a store holds, by compiling texts and forms, with a
store or without one, and by clearing the reports. -/
inductive Arises : CompilationUnit → Prop
  | new (id : String) : Arises (.new id)
  | withStore {σ : Type} [Storage σ] (id : String) (store : σ) : Arises (CompilationUnit.withStore id store).1
  | source {u : CompilationUnit} {σ : Type} [Storage σ] (before : Arises u) (store : Option σ)
    (source code : String) : Arises (u.compileSource store source code).unit
  | form {u : CompilationUnit} {σ : Type} [Storage σ] (before : Arises u) (store : Option σ) (n : Node) :
    Arises (u.compileForm store n).unit
  | clear {u : CompilationUnit} (before : Arises u) : Arises u.clearReports

theorem links_new (id : String) : (CompilationUnit.new id).module.Links (CompilationUnit.new id).registry := by
  refine ⟨?_, ⟨?_, ?_⟩, ?_, ?_, ?_⟩ <;>
    simp [CompilationUnit.new, Registry.names, Registry.functions, Module.Tidy, Module.Relates]

theorem ends_importFunction (linkage : Linkage) (record : Record) :
    Ends (importFunction linkage record) Function.Orderly fun _ => True := by
  have any {α : Type} (x : Except String α) : Ends x (fun _ => True) fun _ => True :=
    .of_all (fun _ => trivial) fun _ => trivial
  refine (any _).bind fun _ _ => (any _).bind fun _ _ => (any _).bind fun paramsNode _ => ?_
  have params : Ends ((Definition.readParams paramsNode.items).mapError (·.message))
      (fun ps => ∀ p ∈ ps.dropLast, p.type.isVariadic = false) fun _ => True :=
    .mapError (Definition.ends_readParams_last paramsNode.items)
  exact params.bind fun ps plain => Function.orderly_of_dropLast plain

theorem importRecord_cases (u : CompilationUnit) (record : Record) :
    ((u.importRecord record).module = u.module ∧ (u.importRecord record).registry = u.registry) ∨
      ∃ linkage f g, importFunction linkage record = .ok f ∧ f.declaration = .ok g ∧
        (u.importRecord record).module = { u.module with funcs := u.module.funcs.push g } ∧
        (u.importRecord record).registry = u.registry.put record.name (u.registry.overloads record.name).length
          { f with symbol := some u.module.funcs.size } := by
  unfold importRecord
  split
  · exact .inl ⟨rfl, rfl⟩
  · exact .inl ⟨rfl, rfl⟩
  · rename_i linkage _ _
    split
    · exact .inl ⟨rfl, rfl⟩
    · rename_i f read
      split
      · exact .inl ⟨rfl, rfl⟩
      · cases declared : f.declaration with
        | error fault =>
          simp only [Module.declare, declared, Except.map]
          exact .inl ⟨rfl, rfl⟩
        | ok g =>
          simp only [Module.declare, declared, Except.map]
          exact .inr ⟨linkage, f, g, read, declared, rfl, rfl⟩

theorem links_importRecord (h : u.module.Links u.registry) (record : Record) :
    (u.importRecord record).module.Links (u.importRecord record).registry := by
  rcases importRecord_cases u record with ⟨module, registry⟩ | ⟨linkage, f, g, read, declared, module, registry⟩
  · rw [module, registry]
    exact h
  · have orderly := (ends_importFunction linkage record).ok read
    rw [module, registry]
    exact h.declareNew (f := { f with symbol := some u.module.funcs.size }) orderly declared rfl record.name

theorem links_importRecords (h : u.module.Links u.registry) (records : List Record) :
    (records.foldl importRecord u).module.Links (records.foldl importRecord u).registry := by
  induction records generalizing u with
  | nil => exact h
  | cons record records ih => exact ih (links_importRecord h record)

theorem kept_compileForms {σ : Type} [Storage σ] (kept : Module → Registry → Prop)
    (tidy : ∀ {m r}, kept m r → m.Tidy)
    (step : ∀ {u : CompilationUnit} {m r}, kept u.module u.registry → u.Advances m r → kept m r)
    (h : kept u.module u.registry) (store : Option σ) (ns : List Node) :
    kept (u.compileForms store ns).unit.module (u.compileForms store ns).unit.registry := by
  induction ns generalizing u store with
  | nil => exact h
  | cons n ns ih =>
    have next := step h (advances_compileForm (tidy h) store n)
    simp only [compileForms]
    split
    · exact next
    · exact ih next _

theorem Arises.links (h : u.Arises) : u.module.Links u.registry := by
  induction h with
  | new id => exact links_new id
  | withStore id store =>
    unfold CompilationUnit.withStore
    split
    · exact links_importRecords (links_new id) _
    · exact links_new id
  | source _ store source code ih =>
    exact kept_compileForms (u := CompilationUnit.addReports _ _) Module.Links Module.Links.tidy
      (fun h next => next.links h) ih store _
  | form _ store n ih => exact (advances_compileForm ih.tidy store n).links ih
  | clear _ ih => exact ih

/-- What holds of a function and that of the module as soon as it is declared, and whatever becomes of them. -/
structure Lasts (P : Function → Func → Prop) : Prop where
  declared {f : Function} {g : Func} (orderly : f.Orderly) (stated : f.declaration = .ok g) : P f g
  same {f f' : Function} {g : Func} (h : P f g) (same : f.sameAs f' = true) : P f' g
  given {f : Function} {g : Func} {ctx : Context} {forms : List Node} {body : Body} (h : P f g)
    (same : ctx.function.sameAs f = true) (compiled : Body.compile ctx forms = .ok body) (internal : Bool) :
    P f { g with blocks := body.blocks, internal }

section Lasts

variable {P : Function → Func → Prop} (lasts : Lasts P)

include lasts

theorem Placing.relates (placing : u.Placing d p) (links : u.module.Links u.registry)
    (h : u.module.Relates u.registry P) (regular : d.Regular) (labels : List String) :
    p.module.Relates (u.registry.put d.name p.position { p.function with labels }) P := by
  cases placing with
  | new _ _ _ declared =>
    exact h.declareNew (f := { d.function with symbol := some u.module.funcs.size, labels }) links.numbers rfl
      (lasts.declared regular.orderly declared) d.name
  | known found =>
    have same := Function.sameAs_iff.mp (Registry.find?_eq_some found).2
    exact h.replace links.numbers.names (Registry.getElem?_of_find? found) rfl fun g old =>
      lasts.same old (Function.sameAs_iff.mpr same)

theorem Advances.relates (advances : u.Advances m r) (links : u.module.Links u.registry)
    (h : u.module.Relates u.registry P) : m.Relates r P := by
  cases advances with
  | kept => exact h
  | @declared d p regular placing _ => exact placing.relates lasts links h regular p.function.labels
  | @defined d p body regular placing compiled labels =>
    have self := placing.mem_functions links.numbers.names { p.function with labels }
    have same : p.function.sameAs { p.function with labels } = true := Function.sameAs_iff.mpr ⟨rfl, rfl⟩
    have placed := placing.relates lasts links h regular labels
    exact placed.install (placing.links links regular labels).numbers self rfl fun n g here there =>
      lasts.given (placed _ self n g here there) same compiled _
  | @unsaved d f i body regular found linkage filled bare compiled =>
    have registered := Registry.mem_functions_of_find? found
    have same := Function.sameAs_symm (Registry.find?_eq_some found).2
    have symbol : Function.symbol { d.function with symbol := f.symbol } = f.symbol := rfl
    exact h.install links.numbers registered symbol fun n g here there =>
      lasts.given (h f registered n g here there) same compiled _

theorem relates_importRecords (links : u.module.Links u.registry) (h : u.module.Relates u.registry P)
    (records : List Record) :
    (records.foldl importRecord u).module.Relates (records.foldl importRecord u).registry P := by
  induction records generalizing u with
  | nil => exact h
  | cons record records ih =>
    refine ih (links_importRecord links record) ?_
    rcases importRecord_cases u record with ⟨module, registry⟩ | ⟨linkage, f, g, read, declared, module, registry⟩
    · rw [module, registry]
      exact h
    · have orderly := (ends_importFunction linkage record).ok read
      rw [module, registry]
      exact h.declareNew (f := { f with symbol := some u.module.funcs.size }) links.numbers rfl
        (lasts.declared orderly declared) record.name

theorem Arises.relates (arises : u.Arises) : u.module.Relates u.registry P := by
  have new (id : String) : (CompilationUnit.new id).module.Relates (CompilationUnit.new id).registry P := by
    simp [CompilationUnit.new, Module.Relates, Registry.functions]
  induction arises with
  | new id => exact new id
  | withStore id store =>
    unfold CompilationUnit.withStore
    split
    · exact relates_importRecords lasts (links_new id) (new id) _
    · exact new id
  | source before store source code ih =>
    exact (kept_compileForms (u := CompilationUnit.addReports _ _) (fun m r => m.Links r ∧ m.Relates r P)
      (fun h => h.1.tidy) (fun h next => ⟨next.links h.1, next.relates lasts h.1 h.2⟩) ⟨before.links, ih⟩ store _).2
  | form before store n ih =>
    exact (advances_compileForm before.links.tidy store n).relates lasts before.links ih
  | clear _ ih => exact ih

end Lasts

theorem Arises.exists_body (arises : u.Arises) {n : Nat} {g : Func} (there : u.module.funcs[n]? = some g)
    (defined : g.isDeclaration = false) :
    ∃ ctx forms body, Body.compile ctx forms = .ok body ∧ g.blocks = body.blocks := by
  have lasts : Lasts fun _ g => g.blocks = #[] ∨
      ∃ ctx forms body, Body.compile ctx forms = .ok body ∧ g.blocks = body.blocks :=
    ⟨fun _ stated => .inl (Function.declaration_eq_ok stated).2.2.2.2, fun h _ => h,
      fun _ _ compiled _ => .inr ⟨_, _, _, compiled, rfl⟩⟩
  obtain ⟨f, registered, symbol⟩ := arises.links.numbers.exists_function (Array.getElem?_eq_some_iff.mp there).1
  rcases arises.relates lasts f registered n g symbol there with bare | given
  · simp [Func.isDeclaration, bare] at defined
  · exact given

theorem Arises.exists_function (arises : u.Arises) {n : Nat} {g : Func} (there : u.module.funcs[n]? = some g) :
    ∃ f ∈ u.registry.functions, f.symbol = some n ∧ f.DeclaredAs g ∧ g.Coded u.registry f := by
  have links := arises.links
  obtain ⟨f, registered, symbol⟩ := links.numbers.exists_function (Array.getElem?_eq_some_iff.mp there).1
  exact ⟨f, registered, symbol, links.declared f registered n g symbol there, links.coded f registered n g symbol there⟩

/-- Every call passes what the callee takes for its parameters, then more only to a variadic callee, and the slot
behind everything. That is what the callee takes unless more is passed to one with a slot. -/
theorem calls_pass_slot_last (arises : u.Arises) {k n : Nat} {g : Func} {p : Place} {result : Layout}
    {args : List Value} (there : u.module.funcs[k]? = some g) (call : g.inst? p = some (.call result n args)) :
    ∃ f ∈ u.registry.functions, ∃ h more, f.symbol = some n ∧ u.module.funcs[n]? = some h ∧ result = h.result ∧
      h.params.length = f.required + (if f.hasSlot then 1 else 0) ∧
      args.map g.layoutOf? =
        ((h.params.map (·.layout)).take f.required ++ more ++ (h.params.map (·.layout)).drop f.required).map some ∧
      (h.variadic = false → more = []) ∧ (h.Takes (args.map g.layoutOf?) ↔
        f.hasSlot = false ∨ more = [] ∨ more.head? = h.params[f.required]?.map (·.layout)) := by
  have links := arises.links
  obtain ⟨_, -, -, -, coded⟩ := arises.exists_function there
  obtain ⟨f, registered, symbol, layouts, passed, called⟩ := coded.calls p result n args call
  obtain ⟨n', h, symbol', here⟩ := links.exists_symbol registered
  obtain rfl : n' = n := Option.some.inj (symbol'.symm.trans symbol)
  have declared := links.declared f registered n' h symbol here
  obtain ⟨returned, count, more, args', plain, takes⟩ := called.agrees (links.orderly f registered) declared
  exact ⟨f, registered, h, more, symbol, here, returned, count, args' ▸ passed, plain, passed ▸ takes⟩

/-- A variadic function with a slot that more is passed to than its parameter. -/
theorem calls_pass_slot_last_variadic :
    let u := ((CompilationUnit.new "0").compileSource (none : Option Store) ""
      "(def f (fn extern (retval int) ((a int) ...))) (def g (fn extern int () (f 1) (return (f 1 true))))").unit
    let args : List Value := [.const 32 1, .const 1 1, .inst ⟨0, 2⟩ (.pointer (.int 32))]
    ∃ g, u.module.funcs[1]? = some g ∧ g.inst? ⟨0, 3⟩ = some (.call .void 0 args) ∧
      ∃ f ∈ u.registry.functions, ∃ h more, f.symbol = some 0 ∧ u.module.funcs[0]? = some h ∧
        args.map g.layoutOf? =
          ((h.params.map (·.layout)).take f.required ++ more ++ (h.params.map (·.layout)).drop f.required).map some ∧
        (h.Takes (args.map g.layoutOf?) ↔
          f.hasSlot = false ∨ more = [] ∨ more.head? = h.params[f.required]?.map (·.layout)) := by
  intro u args
  have call : (u.module.funcs[1]?.bind (·.inst? ⟨0, 3⟩)) = some (.call .void 0 args) := by decide +kernel
  obtain ⟨g, there, call⟩ := Option.bind_eq_some_iff.mp call
  obtain ⟨f, registered, h, more, symbol, here, -, -, passed, -, takes⟩ :=
    calls_pass_slot_last (.source (.new "0") none "" _) there call
  exact ⟨g, there, call, f, registered, h, more, symbol, here, passed, takes⟩

/-- What is passed on top of the parameters stands where the callee takes its slot. -/
theorem call_misplaces_slot :
    let u := ((CompilationUnit.new "0").compileSource (none : Option Store) ""
      "(def f (fn extern (retval int) ((a int) ...))) (def g (fn extern int () (return (f 1 true))))").unit
    let args : List Value := [.const 32 1, .const 1 1, .inst ⟨0, 0⟩ (.pointer (.int 32))]
    ∃ g h, u.module.funcs[1]? = some g ∧ g.inst? ⟨0, 1⟩ = some (.call .void 0 args) ∧ u.module.funcs[0]? = some h ∧
      ¬h.Takes (args.map g.layoutOf?) := by
  intro u args
  have facts : (u.module.funcs[1]?.bind fun g => u.module.funcs[0]?.map fun h =>
      (g.inst? ⟨0, 1⟩, decide (h.Takes (args.map g.layoutOf?)))) = some (some (.call .void 0 args), false) := by
    decide +kernel
  obtain ⟨g, there, facts⟩ := Option.bind_eq_some_iff.mp facts
  obtain ⟨h, here, facts⟩ := Option.map_eq_some_iff.mp facts
  obtain ⟨call, takes⟩ := Prod.mk.inj facts
  exact ⟨g, h, there, call, here, of_decide_eq_false takes⟩

/-- Every instruction but a call is given what it needs, by how its operands came about. Blocks return a value exactly
if the function returns one; whoever returns through a slot has stored something in it. -/
theorem instructions_fit_operands (arises : u.Arises) {n : Nat} {g : Func} (there : u.module.funcs[n]? = some g) :
    (∀ p i, g.inst? p = some i → i.Typed g.layoutOf? ∧ ∀ v ∈ i.operands, g.layoutOf? v = some v.layout) ∧
    (∀ k t, g.term? k = some t → t.Typed g.result g.layoutOf? ∧ ∀ v ∈ t.operands, g.layoutOf? v = some v.layout) ∧
    ∀ f ∈ u.registry.functions, f.symbol = some n → f.hasSlot = true → g.result = .void ∧
      ∀ k v, g.term? k = some (.ret v) → v = none ∧ ∃ index w a l,
        g.inst? ⟨k, index⟩ = some (.store w (.param f.required a)) ∧ g.layoutOf? w = some l ∧
          g.params[f.required]?.map (·.layout) = some (.pointer l) := by
  have links := arises.links
  obtain ⟨_, -, -, -, coded⟩ := arises.exists_function there
  refine ⟨fun p i inst => ⟨coded.insts p i inst, coded.used p i inst⟩,
    fun k t ends => ⟨coded.terms k t ends, coded.returned k t ends⟩, fun f registered symbol slot => ?_⟩
  have own := links.coded f registered n g symbol there
  obtain ⟨s, has, -, result⟩ := (links.declared f registered n g symbol there).signature
  have void : g.result = .void := result.trans (has.result_of_slot slot)
  refine ⟨void, fun k v ends => ⟨?_, ?_⟩⟩
  · cases v with
    | none => rfl
    | some w => exact absurd void (own.terms k _ ends).1
  · obtain ⟨index, w, a, stored⟩ := own.slot slot k v ends
    obtain ⟨l, value, target⟩ := own.insts _ _ stored
    exact ⟨index, w, a, l, stored, value, target⟩

/-- A function that returns through its slot what lies before where a pointer points. -/
theorem instructions_fit_operands_slot :
    let u := ((CompilationUnit.new "0").compileSource (none : Option Store) ""
      "(def f (fn extern (retval int) ((n int8) (p (p int))) (return (@ (p- p n)))))").unit
    let base : Value := .inst ⟨0, 4⟩ (.pointer (.int 32))
    let index : Value := .inst ⟨0, 7⟩ (.int 64)
    ∃ g, u.module.funcs[0]? = some g ∧
      (g.inst? ⟨0, 8⟩ = some (.offset (.int 32) base index) ∧
        g.layoutOf? base = some (.pointer (.int 32)) ∧ g.layoutOf? index = some (.int 64)) ∧
      ∃ f ∈ u.registry.functions, (f.symbol = some 0 ∧ f.hasSlot = true ∧ g.term? 0 = some (.ret none)) ∧
        g.result = .void ∧ ∃ index w a l, g.inst? ⟨0, index⟩ = some (.store w (.param f.required a)) ∧
          g.layoutOf? w = some l ∧ g.params[f.required]?.map (·.layout) = some (.pointer l) := by
  intro u base index
  have facts : (u.module.funcs[0]?.map fun g => (g.inst? ⟨0, 8⟩, g.term? 0,
      u.registry.functions.any fun f => f.symbol == some 0 && f.hasSlot)) =
        some (some (.offset (.int 32) base index), some (.ret none), true) := by decide +kernel
  obtain ⟨g, there, facts⟩ := Option.map_eq_some_iff.mp facts
  simp only [Prod.mk.injEq, List.any_eq_true, Bool.and_eq_true, beq_iff_eq] at facts
  obtain ⟨offset, ends, f, registered, symbol, has⟩ := facts
  obtain ⟨fits, -, returns⟩ := instructions_fit_operands (.source (.new "0") none "" _) there
  obtain ⟨void, stored⟩ := returns f registered symbol has
  exact ⟨g, there, ⟨offset, (fits _ _ offset).1⟩, f, registered, ⟨symbol, has, ends⟩, void, (stored 0 none ends).2⟩

end CompilationUnit

end FormCompiler
