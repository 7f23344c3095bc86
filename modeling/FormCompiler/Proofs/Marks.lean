import FormCompiler.Proofs.Metadata

namespace FormCompiler

variable {u : CompilationUnit} {n : Node} {d : Definition} {f : Function}

namespace Ty

def isPlain : Ty → Bool
  | missing => true
  | base _ m => !m
  | pointer t m | array _ t m => !m && t.isPlain

theorem mark_ne_missing {t : Ty} (complete : t ≠ .missing) : t.mark ≠ .missing := by
  cases t with
  | missing => exact (complete rfl).elim
  | base | pointer | array => exact Ty.noConfusion

theorem isPlain_mark {t : Ty} (complete : t ≠ .missing) : t.mark.isPlain = false := by
  cases t with
  | missing => exact (complete rfl).elim
  | base | pointer | array => rfl

end Ty

def Function.isMarkedOnTop (f : Function) : Bool := f.returnType.unmark.isPlain && f.paramTypes.all Ty.isPlain

theorem Function.isMarkedOnTop_of_same {g : Function} (same : f.sameAs g = true) :
    f.isMarkedOnTop = g.isMarkedOnTop := by
  obtain ⟨returns, params⟩ := sameAs_iff.mp same
  rw [isMarkedOnTop, isMarkedOnTop, returns, params]

namespace Node

def writesMark : Node → Bool
  | .list _ [head, x] => head.symbol? == some "retval" || x.writesMark
  | .list _ [_, _, x] => x.writesMark
  | _ => false

def behindMarks : Node → Node
  | n@(.list _ [head, x]) => if head.symbol? = some "retval" then x.behindMarks else n
  | n => n

end Node

structure Ty.MarkedAs (t : Ty) (n : Node) : Prop where
  complete : t ≠ .missing
  all : t.isPlain = !n.writesMark
  below : t.unmark.isPlain = !n.behindMarks.writesMark

theorem Ty.ends_read_marks (n : Node) : Ends (Ty.read n) (·.MarkedAs n) fun _ => True := by
  fun_induction Ty.read n with
  | case1 => exact ⟨Ty.noConfusion, rfl, rfl⟩
  | case3 _ head x symbol ih =>
    refine ih.map fun t marks => ⟨Ty.noConfusion, ?_, ?_⟩
    · simp [Node.writesMark, symbol, isPlain, pointerTo, marks.all]
    · simp [Node.behindMarks, Node.writesMark, symbol, unmark, withMark, isPlain, pointerTo, marks.all]
  | case4 _ head x symbol ih =>
    refine ih.map fun t marks => ⟨mark_ne_missing marks.complete, ?_, ?_⟩
    · rw [isPlain_mark marks.complete]
      simp [Node.writesMark, symbol]
    · rw [unmark_mark, marks.below]
      simp [Node.behindMarks, symbol]
  | case6 _ head size x symbol ih =>
    refine (Ends.any (readSize size)).bind fun k _ => ih.bind fun t marks => ⟨Ty.noConfusion, ?_, ?_⟩
    · simp [Node.writesMark, isPlain, arrayOf, marks.all]
    · simp [Node.behindMarks, Node.writesMark, unmark, withMark, isPlain, arrayOf, marks.all]
  | case2 | case5 | case7 | case8 => trivial

namespace Definition

/-- The parts of a definition that types are written in: the return type, and the parameters. -/
inductive Signs (n : Node) : Node → List Node → Prop
  | plain {name fn linkage returns : Node} {paren : Token} {params body : List Node} (form : n.operands = [name, fn])
    (parts : fn.operands = linkage :: returns :: .list paren params :: body)
    (other : returns.head? ≠ some "attr") : Signs n returns params
  | attributed {name fn linkage attributes returns : Node} {paren : Token} {params body : List Node}
    (form : n.operands = [name, fn])
    (parts : fn.operands = linkage :: attributes :: returns :: .list paren params :: body)
    (attr : attributes.head? = some "attr") : Signs n returns params

theorem Signs.unique {r r' : Node} {ps ps' : List Node} (h : Signs n r ps) (h' : Signs n r' ps') :
    r = r' ∧ ps = ps' := by
  cases h with
  | plain form parts other =>
    cases h' with
    | plain form' parts' other' =>
      cases form.symm.trans form'
      cases parts.symm.trans parts'
      exact ⟨rfl, rfl⟩
    | attributed form' parts' attr' =>
      cases form.symm.trans form'
      cases parts.symm.trans parts'
      exact (other attr').elim
  | attributed form parts attr =>
    cases h' with
    | plain form' parts' other' =>
      cases form.symm.trans form'
      cases parts.symm.trans parts'
      exact (other' attr).elim
    | attributed form' parts' attr' =>
      cases form.symm.trans form'
      cases parts.symm.trans parts'
      exact ⟨rfl, rfl⟩

/-- A definition in whose text the mark stands nowhere but in front of the return type. -/
def WritesOnTop (n : Node) : Prop :=
  ∃ returns params, Signs n returns params ∧ returns.behindMarks.writesMark = false ∧
    ∀ p ∈ params, ∀ x ∈ p.operands, x.writesMark = false

def ParamsMarkedAs (ps : List Parameter) (ns : List Node) : Prop :=
  (∀ p ∈ ps, p.type.isMarked = false) ∧
    ((∀ p ∈ ps, p.type.isPlain = true) ↔ ∀ n ∈ ns, ∀ x ∈ n.operands, x.writesMark = false)

theorem ends_readParam_marks (n : Node) : Ends (readParam n) (fun p => ParamsMarkedAs [p] [n]) fun _ => True := by
  unfold readParam
  split
  · rename_i paren nameNode typeNode
    split
    · trivial
    · refine (Ty.ends_read_marks typeNode).bind fun t marks => .ite (fun _ => trivial) fun fine => ?_
      simp only [Bool.or_eq_true, not_or, Bool.not_eq_true] at fine
      refine ⟨by simpa using fine.2, ?_⟩
      simp [Node.operands, Node.items, marks.all]
  · trivial

theorem ends_readParams_marks (ns : List Node) :
    Ends (readParams ns) (fun ps => ParamsMarkedAs ps ns) fun _ => True := by
  induction ns with
  | nil => exact ⟨by simp, by simp⟩
  | cons n ns ih =>
    refine .ite (fun marker => .ite (fun _ => trivial) fun last => ?_) fun _ => ?_
    · have alone : ns = [] := by simpa using last
      have bare : n.operands = [] := by
        cases n with
        | atom => rfl
        | list => cases marker
      show ParamsMarkedAs _ _
      simp [ParamsMarkedAs, alone, bare, Ty.isMarked, Ty.isPlain, Ty.variadic, Ty.of]
    · refine (ends_readParam_marks n).bind fun p first => ih.bind fun ps others => ?_
      refine ⟨List.forall_mem_cons.mpr ⟨first.1 p (by simp), others.1⟩, ?_⟩
      have here := first.2
      simp only [List.mem_singleton, forall_eq] at here
      rw [List.forall_mem_cons, List.forall_mem_cons, here, others.2]

structure MarkedAs (f : Function) (returns : Node) (params : List Node) : Prop where
  returns : f.returnType.MarkedAs returns
  params : ParamsMarkedAs f.params params

theorem ends_readSignature_marks (name : String) (fn : Node) (linkage : Linkage) (attributes : List String)
    (ns : List Node) :
    Ends (readSignature name fn linkage attributes ns)
      (fun f => ∃ returns paren params body, ns = returns :: .list paren params :: body ∧
        MarkedAs f.1 returns params) fun _ => True := by
  unfold readSignature
  split
  · rename_i returnNode paren paramNodes body
    have returns : Ends (readReturnType returnNode) (·.MarkedAs returnNode) fun _ => True :=
      (Ty.ends_read_marks returnNode).bind fun t marks => .ite (fun _ => trivial) fun _ => marks
    exact returns.bind fun t marks => (ends_readParams_marks paramNodes).bind fun ps others =>
      ⟨returnNode, paren, paramNodes, body, rfl, marks, others⟩
  · trivial

theorem ends_readFunction_marks (name : String) {nameNode fn : Node} (form : n.operands = [nameNode, fn]) :
    Ends (readFunction name fn) (fun f => ∃ returns params, Signs n returns params ∧ MarkedAs f.1 returns params)
      fun _ => True := by
  unfold readFunction
  split
  · rename_i linkageNode second third rest operands
    split
    · trivial
    · rename_i linkage _
      refine .ite (fun attr => ?_) fun other => ?_
      · refine (Ends.any (readAttributes second.operands)).bind fun attributes _ => ?_
        cases read : readSignature name fn linkage attributes (third :: rest) with
        | error => trivial
        | ok f =>
          obtain ⟨returns, paren, params, body, parts, marks⟩ := (ends_readSignature_marks _ _ _ _ _).ok read
          rw [parts] at operands
          exact ⟨returns, params, .attributed form operands attr, marks⟩
      · cases read : readSignature name fn linkage [] (second :: third :: rest) with
        | error => trivial
        | ok f =>
          obtain ⟨returns, paren, params, body, parts, marks⟩ := (ends_readSignature_marks _ _ _ _ _).ok read
          rw [parts] at operands
          obtain ⟨rfl, -⟩ := List.cons.inj parts
          exact ⟨second, params, .plain form operands other, marks⟩
  · trivial

theorem ends_read_marks (n : Node) :
    Ends (read n) (fun d => ∃ returns params, Signs n returns params ∧ MarkedAs d.function returns params)
      fun _ => True := by
  unfold read
  refine .ite (fun _ => trivial) fun _ => ?_
  split
  · rename_i nameNode fn form
    split
    · exact (ends_readFunction_marks _ form).bind fun f signed => by
        obtain ⟨returns, params, signs, marks⟩ := signed
        exact ⟨returns, params, signs, marks.returns, marks.params⟩
    · trivial
  · trivial

theorem isMarkedOnTop_iff (read : Definition.read n = .ok d) : d.function.isMarkedOnTop = true ↔ WritesOnTop n := by
  obtain ⟨returns, params, signs, marks⟩ := (ends_read_marks n).ok read
  have plain : (d.function.paramTypes.all Ty.isPlain = true) ↔ ∀ p ∈ d.function.params, p.type.isPlain = true := by
    simp [Function.paramTypes]
  rw [Function.isMarkedOnTop, Bool.and_eq_true, plain, marks.params.2, marks.returns.below, Bool.not_eq_true']
  constructor
  · rintro ⟨below, others⟩
    exact ⟨returns, params, signs, below, others⟩
  · rintro ⟨returns', params', signs', below, others⟩
    obtain ⟨rfl, rfl⟩ := signs.unique signs'
    exact ⟨below, others⟩

theorem isMarked_of_read (read : Definition.read n = .ok d) : ∀ t ∈ d.function.paramTypes, t.isMarked = false := by
  obtain ⟨returns, params, -, marks⟩ := (ends_read_marks n).ok read
  simpa [Function.paramTypes] using marks.params.1

end Definition

namespace CompilationUnit

def acceptedForms {σ : Type} [Storage σ] (u : CompilationUnit) (store : Option σ) : List Node → List Node
  | [] => []
  | n :: ns =>
    let o := u.compileForm store n
    let later := if o.stopped.isSome then [] else acceptedForms o.unit o.store ns
    if o.fault.isNone then n :: later else later

theorem exists_read_of_mem_acceptedForms {σ : Type} [Storage σ] {store : Option σ} {ns : List Node}
    (accepted : n ∈ u.acceptedForms store ns) : ∃ d, Definition.read n = .ok d := by
  induction ns generalizing u store with
  | nil => cases accepted
  | cons m ns ih =>
    have later (inside : n ∈ if (u.compileForm store m).stopped.isSome then [] else
        (u.compileForm store m).unit.acceptedForms (u.compileForm store m).store ns) :
        ∃ d, Definition.read n = .ok d := by
      split at inside
      · cases inside
      · exact ih inside
    rw [acceptedForms] at accepted
    cases fault : (u.compileForm store m).fault with
    | some f =>
      simp only [fault, Option.isNone_some, Bool.false_eq_true, if_false] at accepted
      exact later accepted
    | none =>
      simp only [fault, Option.isNone_none, if_true] at accepted
      rcases List.mem_cons.mp accepted with rfl | inside
      · exact exists_definition_of_accepted fault
      · exact later inside

theorem registry_of_fault {σ : Type} [Storage σ] {store : Option σ} {f : Fault}
    (failed : (u.compileForm store n).fault = some f) : (u.compileForm store n).unit.registry = u.registry := by
  unfold compileForm at failed ⊢
  split
  · rfl
  · rename_i d read
    simp only [read] at failed
    split
    · rename_i same
      simp [same] at failed
    · rfl

theorem Placing.sameAs {p : Placed} (placing : u.Placing d p) (labels : List String) :
    d.function.sameAs { p.function with labels } = true := by
  cases placing with
  | new | known => exact Function.sameAs_iff.mpr ⟨rfl, rfl⟩

section Registered

variable {P : Function → Prop} (same : ∀ {f g : Function}, f.sameAs g = true → (P f ↔ P g))

include same

theorem Placing.forall_functions {p : Placed} (placing : u.Placing d p) (once : u.registry.names.Nodup)
    (defines : d.function.sameAs f = true) :
    (∀ g ∈ (u.registry.put d.name p.position f).functions, P g) ↔
      (∀ g ∈ u.registry.functions, P g) ∧ P d.function := by
  have shown := same defines
  cases placing with
  | new =>
    obtain ⟨front, back, before, after⟩ := Registry.exists_functions_put_new once d.name
    simp only [before, after, List.forall_mem_append, List.forall_mem_cons, ← shown]
    exact ⟨fun h => ⟨⟨h.1, h.2.2⟩, h.2.1⟩, fun h => ⟨h.1.1, h.2, h.1.2⟩⟩
  | @known g i found =>
    obtain ⟨front, back, before, after⟩ :=
      Registry.exists_functions_put_known once (Registry.getElem?_of_find? found)
    -- What gives way here is the same function as what takes its place.
    have known : P g ↔ P d.function := same (Registry.find?_eq_some found).2
    simp only [before, after, List.forall_mem_append, List.forall_mem_cons, ← shown, known]
    exact ⟨fun h => ⟨h, h.2.1⟩, fun h => h.1⟩

theorem forall_functions_importRecords (imported : ∀ {linkage record f}, importFunction linkage record = .ok f → P f)
    (links : u.module.Links u.registry) (h : ∀ f ∈ u.registry.functions, P f) (records : List Record) :
    ∀ f ∈ (records.foldl importRecord u).registry.functions, P f := by
  induction records generalizing u with
  | nil => exact h
  | cons record records ih =>
    refine ih (links_importRecord links record) ?_
    rcases importRecord_cases u record with ⟨-, registry⟩ | ⟨linkage, f, g, read, -, -, registry⟩
    · rw [registry]
      exact h
    · rw [registry]
      intro f' inside
      rcases Registry.mem_functions_put links.numbers.names inside with rfl | old
      · have alike : f.sameAs { f with symbol := some u.module.funcs.size } = true :=
          Function.sameAs_iff.mpr ⟨rfl, rfl⟩
        exact (same alike).mp (imported read)
      · exact h f' old

variable {σ : Type} [Storage σ]

theorem Accepts.forall_functions {u' : CompilationUnit} {store store' : Option σ}
    (accepts : Accepts u store d u' store') (once : u.registry.names.Nodup) :
    (∀ f ∈ u'.registry.functions, P f) ↔ (∀ f ∈ u.registry.functions, P f) ∧ P d.function := by
  cases accepts with
  | @repeated f i found =>
    obtain ⟨inside, known⟩ := Registry.find?_eq_some found
    have registered := Registry.mem_functions_of_overloads inside
    exact ⟨fun h => ⟨h, (same known).mp (h f registered)⟩, fun h => h.1⟩
  | @declared p placing => exact placing.forall_functions same once (placing.sameAs p.function.labels)
  | defined placing => exact placing.forall_functions same once (placing.sameAs _)

theorem forall_functions_compileForm (once : u.registry.names.Nodup) (store : Option σ) (n : Node) :
    (∀ f ∈ (u.compileForm store n).unit.registry.functions, P f) ↔
      (∀ f ∈ u.registry.functions, P f) ∧
        ((u.compileForm store n).fault = none → ∀ d, Definition.read n = .ok d → P d.function) := by
  cases fault : (u.compileForm store n).fault with
  | some f =>
    rw [registry_of_fault fault]
    exact ⟨fun h => ⟨h, fun accepted => by cases accepted⟩, fun h => h.1⟩
  | none =>
    obtain ⟨d, read⟩ := exists_definition_of_accepted fault
    rw [(accepts_of_compileForm fault read).forall_functions same once, read]
    exact ⟨fun h => ⟨h.1, fun _ _ same => Except.ok.inj same ▸ h.2⟩, fun h => ⟨h.1, h.2 rfl d rfl⟩⟩

theorem forall_functions_compileForms (links : u.module.Links u.registry) (store : Option σ) (ns : List Node) :
    (∀ f ∈ (u.compileForms store ns).unit.registry.functions, P f) ↔
      (∀ f ∈ u.registry.functions, P f) ∧
        ∀ n ∈ u.acceptedForms store ns, ∀ d, Definition.read n = .ok d → P d.function := by
  induction ns generalizing u store with
  | nil => simp [compileForms, acceptedForms]
  | cons n ns ih =>
    have step := forall_functions_compileForm same links.numbers.names store n
    have linked := (advances_compileForm links.tidy store n).links links
    -- Whatever becomes of the first form, the others find the functions as it left them.
    have run : (∀ f ∈ (u.compileForms store (n :: ns)).unit.registry.functions, P f) ↔
        (∀ f ∈ (u.compileForm store n).unit.registry.functions, P f) ∧
          ∀ m ∈ (if (u.compileForm store n).stopped.isSome then [] else
            (u.compileForm store n).unit.acceptedForms (u.compileForm store n).store ns),
            ∀ d, Definition.read m = .ok d → P d.function := by
      rw [compileForms]
      split
      · simp
      · exact ih linked _
    rw [run, step, acceptedForms, and_assoc]
    cases (u.compileForm store n).fault with
    | none => simp
    | some => simp

theorem Arises.forall_functions (arises : u.Arises) (read : ∀ {n d}, Definition.read n = .ok d → P d.function)
    (imported : ∀ {linkage record f}, importFunction linkage record = .ok f → P f) :
    ∀ f ∈ u.registry.functions, P f := by
  have new (id : String) : ∀ f ∈ (CompilationUnit.new id).registry.functions, P f := by
    simp [CompilationUnit.new, Registry.functions]
  induction arises with
  | new id => exact new id
  | withStore id store =>
    unfold CompilationUnit.withStore
    split
    · exact forall_functions_importRecords same imported (links_new id) (new id) _
    · exact new id
  | source before store source code ih =>
    exact (forall_functions_compileForms same (u := CompilationUnit.addReports _ _) before.links store _).mpr
      ⟨ih, fun _ _ _ known => read known⟩
  | form before store n ih =>
    exact (forall_functions_compileForm same before.links.numbers.names store n).mpr
      ⟨ih, fun _ _ known => read known⟩
  | clear _ ih => exact ih

end Registered

end CompilationUnit

namespace Variable

def DeclaresAs (name type : Operand) (c : Body) : Prop :=
  ∃ word t storage, name.node.symbol? = some word ∧ Ty.read type.node = .ok t ∧
    c.env.find? word = some ⟨t, storage⟩ ∧ t.isPlain = !type.node.writesMark

theorem meets_declare (name type : Operand) (init : Option Operand) (b : Body) :
    Build.Meets b (declare name type init) (fun _ c => DeclaresAs name type c) fun _ _ => True := by
  unfold declare
  split
  · exact .complain trivial
  · rename_i word symbol
    cases read : Ty.read type.node with
    | error r => exact .of_error rfl trivial
    | ok t =>
      have bound (storage : IR.Value) (c : Body) :
          DeclaresAs name type { c with env := c.env.add word ⟨t, storage⟩ } :=
        ⟨word, t, storage, symbol, read, (Environment.find?_add ..).trans (if_pos rfl),
          ((Ty.ends_read_marks type.node).ok read).all⟩
      refine .pure_bind ?_
      refine .bind (Build.Meets.any _ _) fun layout c _ => .bind (Build.Meets.any _ _) fun storage c _ => ?_
      cases init with
      | none => exact .changed_bind (.get_bind (.pure (bound storage c)))
      | some operand =>
        refine .bind (Build.Meets.any _ _) fun _ c _ => ?_
        exact .changed_bind (.get_bind (.pure (bound storage c)))

theorem meets_compile (call : Invocation) (b : Body) :
    Build.Meets b (compile call)
      (fun _ c => ∃ name type init, call.operands = name :: type :: init ∧ DeclaresAs name type c)
      fun _ _ => True := by
  unfold compile
  split
  · rename_i name type operands
    exact (meets_declare name type none b).mono (fun _ _ h => ⟨name, type, [], operands, h⟩) fun _ _ h => h
  · rename_i name type init operands
    exact (meets_declare name type (some init) b).mono (fun _ _ h => ⟨name, type, [init], operands, h⟩) fun _ _ h => h
  · exact .complain trivial

end Variable

namespace CompilationUnit

theorem isMarked_importFunction {linkage : Linkage} {record : Record}
    (imported : importFunction linkage record = .ok f) : ∀ t ∈ f.paramTypes, t.isMarked = false := by
  have ends : Ends (importFunction linkage record) (fun f => ∀ p ∈ f.params, p.type.isMarked = false)
      fun _ => True := by
    refine (Ends.any _).bind fun _ _ => (Ends.any _).bind fun _ _ => (Ends.any _).bind fun paramsNode _ => ?_
    have params : Ends ((Definition.readParams paramsNode.items).mapError (·.message))
        (fun ps => Definition.ParamsMarkedAs ps paramsNode.items) fun _ => True :=
      .mapError (Definition.ends_readParams_marks paramsNode.items)
    exact params.bind fun ps marks => marks.1
  simpa [Function.paramTypes] using ends.ok imported

/-- A parameter is never marked as a whole. Functions are marked on top of their return types only exactly if the
accepted forms are written so, and a variable is marked as its type is written. -/
theorem marks_stand_where_written {σ : Type} [Storage σ] {u : CompilationUnit} (arises : u.Arises) (store : Option σ)
    (source code : String) (k : Nat) :
    let text := Node.read source code
    let start := u.addReports text.reports
    let known := (start.compileForms store (text.nodes.take k)).unit.registry.functions
    (∀ f ∈ known, ∀ t ∈ f.paramTypes, t.isMarked = false) ∧
      ((∀ f ∈ known, f.isMarkedOnTop = true) ↔ (∀ f ∈ u.registry.functions, f.isMarkedOnTop = true) ∧
        ∀ n ∈ start.acceptedForms store (text.nodes.take k), Definition.WritesOnTop n) ∧
      ∀ (call : Invocation) (b c : Body) (r : Result), Variable.compile call b = .ok r c →
        ∃ name type init, call.operands = name :: type :: init ∧ Variable.DeclaresAs name type c := by
  intro text start known
  have links : start.module.Links start.registry := arises.links
  refine ⟨?_, ?_, ?_⟩
  · have same {f g : Function} (alike : f.sameAs g = true) :
        (∀ t ∈ f.paramTypes, t.isMarked = false) ↔ ∀ t ∈ g.paramTypes, t.isMarked = false := by
      rw [(Function.sameAs_iff.mp alike).2]
    have before := arises.forall_functions same Definition.isMarked_of_read isMarked_importFunction
    exact (forall_functions_compileForms same links store _).mpr
      ⟨before, fun n _ d read => Definition.isMarked_of_read read⟩
  · have same {f g : Function} (alike : f.sameAs g = true) : f.isMarkedOnTop = true ↔ g.isMarkedOnTop = true := by
      rw [Function.isMarkedOnTop_of_same alike]
    rw [forall_functions_compileForms same links store _]
    refine and_congr Iff.rfl (forall₂_congr fun n accepted => ?_)
    obtain ⟨d, read⟩ := exists_read_of_mem_acceptedForms accepted
    rw [read, ← Definition.isMarkedOnTop_iff read]
    exact ⟨fun h => h d rfl, fun h _ same => Except.ok.inj same ▸ h⟩
  · intro call b c r run
    exact (Variable.meets_compile call b).ok run

/-- A function that is marked on top, and behind it one that is not. -/
theorem marks_stand_where_written_behind :
    let text := Node.read "" "(def f (fn extern (retval int) ()))(def g (fn extern void ((a (p (retval int))))))"
    let start := (new "0").addReports text.reports
    (∀ n ∈ start.acceptedForms (none : Option Store) (text.nodes.take 1), Definition.WritesOnTop n) ∧
      ¬∀ n ∈ start.acceptedForms (none : Option Store) (text.nodes.take 2), Definition.WritesOnTop n := by
  intro text start
  have marked (k : Nat) := (marks_stand_where_written (.new "0") (none : Option Store) ""
    "(def f (fn extern (retval int) ()))(def g (fn extern void ((a (p (retval int))))))" k).2.1
  have known : (∀ f ∈ (start.compileForms (none : Option Store) (text.nodes.take 1)).unit.registry.functions,
      f.isMarkedOnTop = true) ∧ ¬∀ f ∈ (start.compileForms (none : Option Store)
        (text.nodes.take 2)).unit.registry.functions, f.isMarkedOnTop = true := by decide +kernel
  refine ⟨((marked 1).mp known.1).2, fun written => known.2 ((marked 2).mpr ⟨?_, written⟩)⟩
  simp [new, Registry.functions]

/-- Marks inside a return type and a parameter, and on a variable, are accepted. -/
theorem marks_accepted_inside :
    let u := ((new "0").compileSource (none : Option Store) ""
      "(def f (fn extern (p (retval int)) ((a (p (retval int)))) (var x (retval int)) (return a)))").unit
    (u.reports = [] ∧ u.registry.functions.map (fun f => (f.returnType, f.paramTypes)) =
      [(.pointerTo Ty.int32.mark, [.pointerTo Ty.int32.mark])]) ∧
      ∃ (call : Invocation) (c : Body) (r : Result) (storage : IR.Value), Variable.compile call {} = .ok r c ∧
        c.env.find? "x" = some ⟨Ty.int32.mark, storage⟩ := by
  refine ⟨by decide +kernel, ?_⟩
  exact ⟨⟨.synthetic "" "", .synthetic "" "",
    [.word "x", .form [.word "retval", .word "int"]].map fun n => ⟨n, fun _ => pure {}⟩⟩, _, _, _, rfl, rfl⟩

end CompilationUnit

end FormCompiler
