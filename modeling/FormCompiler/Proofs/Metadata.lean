import FormCompiler.Proofs.Linking
import FormCompiler.Proofs.Written

namespace FormCompiler

variable {n : Node} {f : Function}

namespace Function

structure Written (f : Function) : Prop where
  returnType : f.returnType.Written
  params : Parameter.Listed f.params

/-- Whether two functions look the same to a caller: apart from where they were read, whether they are saved,
and what is known of their bodies. -/
structure Restores (f g : Function) : Prop where
  same : f.sameAs g = true
  names : f.params.map (·.name) = g.params.map (·.name)
  internalName : f.internalName = g.internalName
  alwaysInline : f.alwaysInline = g.alwaysInline
  compileTimeOnly : f.compileTimeOnly = g.compileTimeOnly

theorem paramLayouts_of_same {ps qs : List Parameter} (names : ps.map (·.name) = qs.map (·.name))
    (types : ps.map (·.type) = qs.map (·.type)) {ls : List IR.Param} (laid : paramLayouts ps = .ok ls) :
    paramLayouts qs = .ok ls := by
  induction ps generalizing qs ls with
  | nil =>
    obtain rfl := List.map_eq_nil_iff.mp names.symm
    exact laid
  | cons p ps ih =>
    obtain ⟨q, qs, rfl, -, -⟩ := List.map_eq_cons_iff.mp names.symm
    simp only [List.map_cons, List.cons.injEq] at names types
    obtain ⟨name, names⟩ := names
    obtain ⟨type, types⟩ := types
    unfold paramLayouts at laid ⊢
    rw [← type, ← name]
    by_cases variadic : p.type.isVariadic
    · rw [if_pos variadic] at laid ⊢
      exact laid
    · rw [if_neg variadic] at laid ⊢
      cases layout : p.type.layout with
      | error t => simp only [layout] at laid; cases laid
      | ok l =>
        simp only [layout] at laid ⊢
        cases rest : paramLayouts ps with
        | error e => rw [rest] at laid; cases laid
        | ok ls' =>
          rw [rest] at laid
          rw [ih names types rest]
          exact laid

theorem Restores.declaration_eq {g : Function} (h : f.Restores g) {d : IR.Func} (declared : g.declaration = .ok d) :
    f.declaration = .ok d := by
  obtain ⟨returns, types⟩ := sameAs_iff.mp h.same
  have variadic : f.isVariadic = g.isVariadic := isVariadic_of_same h.same
  unfold declaration at declared ⊢
  cases laid : paramLayouts g.params with
  | error e => rw [laid] at declared; cases declared
  | ok params =>
    rw [laid] at declared
    rw [paramLayouts_of_same h.names.symm types.symm laid]
    cases slot : g.slotLayout with
    | error e => rw [slot] at declared; cases declared
    | ok slots =>
      have same : f.slotLayout = .ok slots := by
        rw [← slot]
        unfold slotLayout hasSlot at slot ⊢
        rw [returns]
        by_cases marked : g.returnType.isMarked
        · rw [if_pos marked] at slot ⊢
          cases layout : g.returnType.unmark.layout with
          | error t => simp only [layout] at slot; cases slot
          | ok l => simp only [marked, if_true]
        · rw [if_neg marked, if_neg marked]
      rw [slot] at declared
      rw [same, returns]
      cases layout : g.returnType.returnLayout with
      | error t => simp only [layout] at declared; cases declared
      | ok result =>
        simp only [layout] at declared ⊢
        rw [h.internalName, variadic, h.alwaysInline]
        exact declared

end Function

namespace Node

theorem Legible.items (legible : n.Legible) : ∀ m ∈ n.items, m.Legible := by
  cases legible with
  | atom => exact List.forall_mem_nil _
  | list each => exact each

theorem Legible.operands (legible : n.Legible) : ∀ m ∈ n.operands, m.Legible :=
  fun m inside => legible.items m (List.mem_of_mem_tail inside)

end Node

namespace Definition

theorem ends_readSignature_written (name : String) (fn : Node) (linkage : Linkage) (attributes : List String)
    {ns : List Node} (legible : ∀ n ∈ ns, n.Legible) :
    Ends (readSignature name fn linkage attributes ns) (fun f => f.1.Written) fun _ => True := by
  unfold readSignature
  split
  · rename_i returnNode paren paramNodes body
    have returns : Ends (readReturnType returnNode) Ty.Written fun _ => True :=
      (Ty.ends_read_written returnNode).bind fun t written => .ite (fun _ => trivial) fun _ => written
    have paramsNode : (Node.list paren paramNodes).Legible := legible _ (by simp)
    exact returns.bind fun t written => (Parameter.ends_readParams_listed paramsNode.items).bind fun ps listed =>
      ⟨written, listed⟩
  · trivial

theorem ends_readFunction_written (name : String) {fn : Node} (legible : fn.Legible) :
    Ends (readFunction name fn) (fun f => f.1.Written) fun _ => True := by
  have inside := legible.operands
  unfold readFunction
  split
  · rename_i linkageNode second third rest operands
    rw [operands] at inside
    split
    · trivial
    · refine .ite (fun _ => ?_) fun _ => ends_readSignature_written _ _ _ _ fun n later => ?_
      · refine (Ends.any (readAttributes second.operands)).bind fun _ _ => ?_
        refine ends_readSignature_written _ _ _ _ fun n later => ?_
        exact inside n (List.mem_cons_of_mem _ (List.mem_cons_of_mem _ later))
      · exact inside n (List.mem_cons_of_mem _ later)
  · trivial

theorem ends_read_written (legible : n.Legible) : Ends (read n) (fun d => d.function.Written) fun _ => True := by
  unfold read
  refine .ite (fun _ => trivial) fun _ => ?_
  split
  · rename_i nameNode fn operands
    split
    · have inside : fn ∈ n.operands := by simp [operands]
      exact (ends_readFunction_written _ (legible.operands fn inside)).bind fun f written =>
        ⟨written.returnType, written.params⟩
    · trivial
  · trivial

end Definition

namespace Store

/-- A record as the store keeps it: its attributes are one text with blanks between them. -/
def rowOf (r : Record) : Record := { r with attributes := Text.words (" ".intercalate r.attributes) }

theorem rowOf_ofFunction (unit name : String) (f : Function) :
    rowOf (.ofFunction unit name f) = .ofFunction unit name f := by
  have kept : Text.words (" ".intercalate (Record.attributesOf f)) = Record.attributesOf f := by
    unfold Record.attributesOf
    cases f.alwaysInline <;> cases f.compileTimeOnly <;> decide
  show ({ Record.ofFunction unit name f with attributes := _ } : Record) = _
  exact congrArg (fun attributes => { Record.ofFunction unit name f with attributes }) kept

theorem save_of_open {s : Store} (isOpen : s.isClosed = false) (r : Record) :
    s.save r = .ok { s with rows := s.rows.filter (fun o => o.fingerprint != r.fingerprint) ++ [rowOf r] } := by
  rw [save, isOpen]
  rfl

theorem load_of_open {s : Store} (isOpen : s.isClosed = false) : s.load = .ok (s.rows.mergeSort rowLe) := by
  rw [load, isOpen]
  rfl

theorem filter_load_save (rows : List Record) (r : Record) :
    ((rows.filter (fun o => o.fingerprint != r.fingerprint) ++ [rowOf r]).mergeSort rowLe).filter
      (fun o => o.fingerprint == r.fingerprint) = [rowOf r] := by
  apply List.perm_singleton.mp
  refine ((List.mergeSort_perm _ _).filter _).trans (.of_eq ?_)
  have others : (rows.filter (fun o => o.fingerprint != r.fingerprint)).filter
      (fun o => o.fingerprint == r.fingerprint) = [] := by
    rw [List.filter_eq_nil_iff]
    intro o inside
    have apart := (List.mem_filter.mp inside).2
    simpa using apart
  rw [List.filter_append, others, List.nil_append]
  exact List.filter_cons_of_pos (by simp [rowOf])

end Store

namespace CompilationUnit

theorem readStored_of_legible (legible : n.Legible) : ∃ m, readStored n.text = .ok m ∧ m.bare = n.bare := by
  obtain ⟨m, read, same⟩ := legible.exists_readOne storeSource
  refine ⟨m, ?_, same⟩
  rw [readStored, read]
  rfl

theorem importFunction_ofFunction (written : f.Written) (linkage : Linkage) (unit name : String) :
    ∃ g, importFunction linkage (.ofFunction unit name f) = .ok g ∧ g.Restores f ∧ g.linkage = linkage := by
  obtain ⟨typeNode, readType, sameType⟩ := readStored_of_legible written.returnType.legible
  obtain ⟨paramsNode, readParams, sameParams⟩ := readStored_of_legible (Node.legible_form written.params.legible)
  obtain ⟨paren, ms, rfl, items⟩ := Node.form_of_bare sameParams
  obtain ⟨qs, params, names, types⟩ := written.params.readParams items
  have texts : (Node.form (f.params.map Parameter.toNode)).text =
      "(" ++ " ".intercalate (f.params.map Record.paramText) ++ ")" := by
    rw [Node.form, Node.text, Node.textItems_eq_intercalate, List.map_map]
    exact congrArg (fun texts => "(" ++ " ".intercalate texts ++ ")")
      (List.map_congr_left fun p _ => Parameter.text_toNode p)
  rw [Ty.text_toNode] at readType
  rw [texts] at readParams
  have type : (Ty.read typeNode).mapError (·.message) = .ok f.returnType := by
    rw [written.returnType.read sameType]
    rfl
  have listed : (Definition.readParams (Node.list paren ms).items).mapError (·.message) = .ok qs := by
    rw [show (Node.list paren ms).items = ms from rfl, params]
    rfl
  let r := Record.ofFunction unit name f
  let g : Function := {
    returnType := f.returnType, params := qs, linkage, internalName := r.internalName,
    alwaysInline := r.attributes.contains "inline", compileTimeOnly := r.attributes.contains "cto",
    token := some (.synthetic r.name storeSource) }
  have imported : importFunction linkage r = .ok g := by
    rw [importFunction, show readStored r.returnType = _ from readType, show readStored r.params = _ from readParams]
    show ((Ty.read typeNode).mapError _ >>= fun _ =>
      (Definition.readParams (Node.list paren ms).items).mapError _ >>= _) = _
    rw [type, listed]
    rfl
  refine ⟨g, imported, ⟨?_, names, rfl, ?_, ?_⟩, rfl⟩
  · exact Function.sameAs_iff.mpr ⟨rfl, types⟩
  · show (Record.attributesOf f).contains "inline" = f.alwaysInline
    unfold Record.attributesOf
    cases f.alwaysInline <;> cases f.compileTimeOnly <;> decide
  · show (Record.attributesOf f).contains "cto" = f.compileTimeOnly
    unfold Record.attributesOf
    cases f.alwaysInline <;> cases f.compileTimeOnly <;> decide

section Accepts

variable {u : CompilationUnit} {d : Definition} {σ : Type} [Storage σ]

/-- The unit and the store behind a definition that was accepted: one that repeats what is known, one without a
body, and one with a body, which is saved. -/
inductive Accepts (u : CompilationUnit) (store : Option σ) (d : Definition) : CompilationUnit → Option σ → Prop
  | repeated {f : Function} {i : Nat} (found : u.registry.find? d.name d.function = some (f, i))
    (linkage : f.linkage = d.function.linkage) (bare : d.body.isEmpty = true) : Accepts u store d u store
  | declared {p : Placed} (placing : u.Placing d p) (bare : d.body.isEmpty = true) :
    Accepts u store d { u with module := p.module, registry := u.registry.put d.name p.position p.function } store
  | defined {p : Placed} {body : Body} {labels : List String} {store' : Option σ} (placing : u.Placing d p)
    (filled : d.body.isEmpty = false) (compiled : Body.compile (u.context d p) d.body = .ok body)
    (saved : saveMetadata u.id d.name { p.function with labels } store = (.ok (), store')) :
    Accepts u store d
      { u with
        module := install p.module { p.function with labels } body
        registry := u.registry.put d.name p.position { p.function with labels } } store'

theorem repeated_of_place (h : u.place d = .ok none) : ∃ f i, u.registry.find? d.name d.function = some (f, i) ∧
    f.linkage = d.function.linkage ∧ d.body.isEmpty = true := by
  unfold place at h
  split at h
  · cases check : u.checkNew d.name d.function with
    | error f => rw [check] at h; cases h
    | ok =>
      rw [check] at h
      cases declared : u.module.declare d.function with
      | error f => simp only [declared] at h; cases h
      | ok => simp only [declared] at h; cases h
  · rename_i f i found
    refine ⟨f, i, found, ?_⟩
    cases check : checkKnown d.name f d.function with
    | error e => rw [check] at h; cases h
    | ok =>
      rw [check] at h
      constructor
      · unfold checkKnown at check
        split at check
        · cases check
        · rename_i same
          exact Decidable.not_not.mp same
      · by_cases bare : d.body.isEmpty
        · exact bare
        · change (if d.body.isEmpty = true then _ else _) = _ at h
          rw [if_neg bare] at h
          split at h
          · cases h
          · cases h

theorem accepts_of_define {store : Option σ} {registry : Registry}
    (accepted : (u.define store d).result = .ok registry) :
    Accepts u store d { u with module := (u.define store d).module, registry } (u.define store d).store := by
  cases place : u.place d with
  | error f =>
    simp only [define, place] at accepted
    cases accepted
  | ok found =>
    cases found with
    | none =>
      simp only [define, place] at accepted ⊢
      cases accepted
      obtain ⟨f, i, found, linkage, bare⟩ := repeated_of_place place
      exact .repeated found linkage bare
    | some p =>
      have placing := placing_of_place place
      simp only [define, place] at accepted ⊢
      cases bare : d.body.isEmpty with
      | true =>
        simp only [bare, if_true] at accepted ⊢
        cases accepted
        exact .declared placing bare
      | false =>
        simp only [bare, Bool.false_eq_true, if_false] at accepted ⊢
        cases compiled : Body.compile (u.context d p) d.body with
        | error f =>
          simp only [compiled] at accepted
          cases accepted
        | ok body =>
          simp only [compiled] at accepted ⊢
          cases saved : saveMetadata u.id d.name { p.function with labels := body.labels.map (·.1) } store with
          | mk outcome store' =>
            simp only [saved] at accepted ⊢
            cases outcome with
            | error f => cases accepted
            | ok =>
              cases accepted
              exact .defined placing bare compiled saved

theorem exists_definition_of_accepted {store : Option σ} (accepted : (u.compileForm store n).fault = none) :
    ∃ d, Definition.read n = .ok d := by
  unfold compileForm at accepted
  split at accepted
  · cases accepted
  · rename_i d read
    exact ⟨d, read⟩

theorem accepts_of_compileForm {store : Option σ} (accepted : (u.compileForm store n).fault = none)
    (read : Definition.read n = .ok d) :
    Accepts u store d (u.compileForm store n).unit (u.compileForm store n).store := by
  unfold compileForm at accepted ⊢
  simp only [read] at accepted ⊢
  split at accepted
  · rename_i module store' registry same
    have accepts : (u.define store d).result = .ok registry → _ := accepts_of_define
    rw [same] at accepts
    exact accepts rfl
  · cases accepted

end Accepts

section Accepted

variable {σ : Type} [Storage σ] {u u' : CompilationUnit} {store store' : Option σ} {d : Definition}

theorem exists_declaration_of_known (links : u.module.Links u.registry) {i : Nat}
    (found : u.registry.find? d.name d.function = some (f, i)) : ∃ g, d.function.declaration = .ok g := by
  obtain ⟨registered, same⟩ := Registry.find?_eq_some found
  obtain ⟨⟨s, has⟩, -⟩ := links.callable (Registry.mem_functions_of_overloads registered)
  obtain ⟨g, declared, -⟩ := (has.of_same same).exists_declaration
  exact ⟨g, declared⟩

theorem funcs_install_push (m : IR.Module) (g : IR.Func) (f : Function) (symbol : f.symbol = some m.funcs.size)
    (body : Body) : (install { m with funcs := m.funcs.push g } f body).funcs =
      m.funcs.push { g with blocks := body.blocks, internal := f.linkage == .internal } := by
  simp only [install, symbol]
  apply Array.ext_getElem?
  intro k
  rw [Array.getElem?_modify, Array.getElem?_push, Array.getElem?_push]
  by_cases last : k = m.funcs.size
  · rw [if_pos last.symm, if_pos last, if_pos last]
    rfl
  · rw [if_neg (Ne.symm last), if_neg last, if_neg last]

/-- What is accepted can be declared. If it is new to the unit then this is how it stands in the module. -/
theorem Accepts.exists_declaration (accepts : Accepts u store d u' store') (links : u.module.Links u.registry) :
    ∃ g, d.function.declaration = .ok g ∧ (u.registry.find? d.name d.function = none →
      ∃ blocks internal, u'.module.funcs = u.module.funcs.push { g with blocks, internal }) := by
  have known {f : Function} {i : Nat} {P : Prop} (found : u.registry.find? d.name d.function = some (f, i))
      (unknown : u.registry.find? d.name d.function = none) : P := by
    rw [found] at unknown
    cases unknown
  cases accepts with
  | repeated found =>
    obtain ⟨g, declared⟩ := exists_declaration_of_known links found
    exact ⟨g, declared, known found⟩
  | declared placing bare =>
    cases placing with
    | @new g _ _ _ declared => exact ⟨g, declared, fun _ => ⟨g.blocks, g.internal, rfl⟩⟩
    | known found =>
      obtain ⟨g, declared⟩ := exists_declaration_of_known links found
      exact ⟨g, declared, known found⟩
  | defined placing filled compiled saved =>
    cases placing with
    | @new g _ _ _ declared => exact ⟨g, declared, fun _ => ⟨_, _, funcs_install_push u.module g _ rfl _⟩⟩
    | known found =>
      obtain ⟨g, declared⟩ := exists_declaration_of_known links found
      exact ⟨g, declared, known found⟩

end Accepted

/-- Whatever a text defines is read back from its record as a function that looks the same to a caller. -/
theorem record_restores_function {σ : Type} [Storage σ] {u : CompilationUnit} (arises : u.Arises) (store : Option σ)
    {source code : String} {n : Node} (inside : n ∈ (Node.read source code).nodes) {d : Definition}
    (read : Definition.read n = .ok d) (accepted : (u.compileForm store n).fault = none) :
    ∃ g, d.function.declaration = .ok g ∧
      (u.registry.find? d.name d.function = none → ∃ blocks internal,
        (u.compileForm store n).unit.module.funcs = u.module.funcs.push { g with blocks, internal }) ∧
      ∀ (unit : String) (s : Store), s.isClosed = false → ∃ s' rows row f,
        s.save (.ofFunction unit d.name d.function) = .ok s' ∧ s'.load = .ok rows ∧
        rows.filter (fun o => o.fingerprint == (Record.ofFunction unit d.name d.function).fingerprint) = [row] ∧
        row.name = d.name ∧ Linkage.ofName? row.linkage = some d.function.linkage ∧
        importFunction d.function.linkage row = .ok f ∧ f.Restores d.function ∧ f.declaration = .ok g := by
  have written := (Definition.ends_read_written (Node.legible_of_mem_read inside)).ok read
  obtain ⟨g, declared, placed⟩ := (accepts_of_compileForm accepted read).exists_declaration arises.links
  refine ⟨g, declared, placed, ?_⟩
  intro unit s isOpen
  obtain ⟨f, imported, restores, -⟩ := importFunction_ofFunction written d.function.linkage unit d.name
  have saved := Store.save_of_open isOpen (.ofFunction unit d.name d.function)
  refine ⟨_, _, _, f, saved, Store.load_of_open isOpen, Store.filter_load_save s.rows _, rfl, ?_, ?_, restores,
    restores.declaration_eq declared⟩
  · rw [Store.rowOf_ofFunction]
    show Linkage.ofName? d.function.linkage.name = _
    cases d.function.linkage <;> decide
  · rw [Store.rowOf_ofFunction]
    exact imported

/-- A variadic function with a slot, and names that could be taken for something else. -/
theorem record_restores_function_variadic :
    let code :=
      "(def é|x (fn extern-c (attr inline) (retval size) ((... (array-of +3 (p int))) (-a size) ...) (return -a)))"
    ∃ n d, (Node.read "" code).nodes = [n] ∧ Definition.read n = .ok d ∧
      ((new "0").compileForm (none : Option Store) n).fault = none ∧
      d.function.params.map (·.name) = ["...", "-a", "..."] ∧ d.function.linkage = .externalC ∧
      ∃ s' rows row f, Store.save {} (.ofFunction "0" d.name d.function) = .ok s' ∧ s'.load = .ok rows ∧ row ∈ rows ∧
        importFunction .externalC row = .ok f ∧ f.Restores d.function := by
  intro code
  obtain ⟨one, fine⟩ : (Node.read "" code).nodes.length = 1 ∧ (Node.read "" code).nodes.all (fun n =>
      ((new "0").compileForm (none : Option Store) n).fault.isNone && (Definition.read n).toOption.any fun d =>
        d.function.params.map (·.name) == ["...", "-a", "..."] && d.function.linkage == .externalC) = true := by
    decide +kernel
  obtain ⟨n, nodes⟩ := List.length_eq_one_iff.mp one
  have inside : n ∈ (Node.read "" code).nodes := by
    rw [nodes]
    exact List.mem_cons_self
  rw [nodes, List.all_cons, List.all_nil, Bool.and_true, Bool.and_eq_true, Option.isNone_iff_eq_none] at fine
  obtain ⟨accepted, fine⟩ := fine
  cases read : Definition.read n with
  | error e =>
    rw [read] at fine
    cases fine
  | ok d =>
    rw [read] at fine
    obtain ⟨names, linkage⟩ := Bool.and_eq_true_iff.mp fine
    obtain ⟨g, -, -, restored⟩ := record_restores_function (.new "0") (none : Option Store) inside read accepted
    obtain ⟨s', rows, row, f, saved, loaded, only, -, -, imported, restores, -⟩ := restored "0" {} rfl
    rw [eq_of_beq linkage] at imported
    have there : row ∈ rows := (List.mem_filter.mp (only ▸ List.mem_cons_self)).1
    exact ⟨n, d, nodes, read, accepted, eq_of_beq names, eq_of_beq linkage, s', rows, row, f, saved, loaded, there,
      imported, restores⟩

end CompilationUnit

end FormCompiler
