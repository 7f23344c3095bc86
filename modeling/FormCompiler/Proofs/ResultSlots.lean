import FormCompiler.Proofs.Abreast
import FormCompiler.Proofs.Consistency
import FormCompiler.Proofs.Written

namespace FormCompiler

open IR (Block Func Module)

variable {f : Function} {α β : Type}

namespace Ty

def slotted (t : Ty) : Ty := if t.isVoid then t else t.mark

theorem isVoid_mark (t : Ty) : t.mark.isVoid = t.isVoid := by cases t <;> rfl

theorem isVariadic_mark (t : Ty) : t.mark.isVariadic = t.isVariadic := by cases t <;> rfl

theorem isMarked_mark {t : Ty} (there : t ≠ .missing) : t.mark.isMarked = true := by
  cases t with
  | missing => exact absurd rfl there
  | base | pointer | array => rfl

theorem unmark_slotted (t : Ty) : t.slotted.unmark = t.unmark := by
  unfold slotted
  split
  · rfl
  · exact unmark_mark t

theorem slotted_inj {t u : Ty} (ht : t.isMarked = false) (hu : u.isMarked = false) :
    t.slotted = u.slotted ↔ t = u := by
  refine ⟨fun same => ?_, fun same => by rw [same]⟩
  have plain : t.slotted.unmark = u.slotted.unmark := by rw [same]
  rwa [unmark_slotted, unmark_slotted, unmark_of_not_isMarked ht, unmark_of_not_isMarked hu] at plain

theorem ends_read_void (n : Node) :
    Ends (read n) (fun t => t.isVoid = true → t.isMarked = false → n.symbol? = some "void") fun _ => True := by
  fun_induction read n with
  | case1 token b named =>
    intro void _
    obtain rfl : b = .void := eq_of_beq void
    obtain ⟨s, symbol, found⟩ := Option.bind_eq_some_iff.mp named
    unfold Base.ofName? at found
    split at found
    · cases found
    · have same : (Base.void.name == s) = true := List.find?_some (p := fun b : Base => b.name == s) found
      rw [symbol, ← eq_of_beq same]
      rfl
  | case3 => exact (Ends.any _).map fun t _ void => by cases void
  | case4 =>
    refine (Ends.any _).map fun t _ void plain => ?_
    cases t with
    | missing => cases void
    | base | pointer | array => cases plain
  | case6 => exact (Ends.any _).bind fun _ _ => (Ends.any _).bind fun t _ void => by cases void
  | case2 | case5 | case7 | case8 => trivial

end Ty

namespace Node

def inSlot (n : Node) : Node :=
  if n.symbol? = some "void" then n else .list n.token [.atom (.synthetic "retval" n.token.source), n]

def slotSignature : List Node → List Node
  | returnNode :: params :: body => (if params.isList then returnNode.inSlot else returnNode) :: params :: body
  | ns => ns

def slotFunction : Node → Node
  | .list paren (head :: linkage :: second :: rest) =>
    if second.head? = some "attr" then .list paren (head :: linkage :: second :: slotSignature rest)
    else .list paren (head :: linkage :: slotSignature (second :: rest))
  | n => n

def slotResult (name : String) : Node → Node
  | .list paren [head, nameNode, fn] =>
    if head.symbol? = some "def" ∧ nameNode.symbol? = some name ∧ fn.head? = some "fn" then
      .list paren [head, nameNode, fn.slotFunction]
    else .list paren [head, nameNode, fn]
  | n => n

theorem head?_inSlot (n : Node) (h : n.head? ≠ some "attr") : n.inSlot.head? ≠ some "attr" := by
  unfold inSlot
  split
  · exact h
  · simp [head?, items, symbol?, Token.synthetic]

theorem head?_slotFunction (n : Node) : n.slotFunction.head? = n.head? := by
  unfold slotFunction
  split
  · split <;> rfl
  · rfl

end Node

inductive EndAlike {ε α β : Type} (failed : ε → ε → Prop) (done : α → β → Prop) : Except ε α → Except ε β → Prop
  | ok {a : α} {b : β} (h : done a b) : EndAlike failed done (.ok a) (.ok b)
  | error {e f : ε} (h : failed e f) : EndAlike failed done (.error e) (.error f)

theorem EndAlike.ends {ε : Type} {failed : ε → ε → Prop} {done : α → β → Prop} {x : Except ε α} {y : Except ε β}
    (h : EndAlike failed done x y) :
    (∃ a b, x = .ok a ∧ y = .ok b ∧ done a b) ∨ ∃ e f, x = .error e ∧ y = .error f ∧ failed e f := by
  cases h with
  | ok h => exact .inl ⟨_, _, rfl, rfl, h⟩
  | error h => exact .inr ⟨_, _, rfl, rfl, h⟩

theorem EndAlike.bind {ε α' β' : Type} {failed : ε → ε → Prop} {middle : α → β → Prop} {done : α' → β' → Prop}
    {x : Except ε α} {y : Except ε β} {f : α → Except ε α'} {g : β → Except ε β'} (h : EndAlike failed middle x y)
    (rest : ∀ a b, middle a b → EndAlike failed done (f a) (g b)) : EndAlike failed done (x >>= f) (y >>= g) := by
  cases h with
  | ok h => exact rest _ _ h
  | error h => exact .error h

def Report.SameId (r s : Report) : Prop := r.id = s.id

namespace Function

def slotted (f : Function) (slot : Bool) : Function :=
  { f with returnType := if slot then f.returnType.slotted else f.returnType }

theorem slotted_false (f : Function) : f.slotted false = f := rfl

theorem slotted_eq_self (h : f.returnType.slotted = f.returnType) (slot : Bool) : f.slotted slot = f := by
  cases slot with
  | false => rfl
  | true =>
    show { f with returnType := f.returnType.slotted } = f
    rw [h]

theorem plain_slotted (f : Function) (slot : Bool) : (f.slotted slot).plain = f.plain := by
  cases slot with
  | false => rfl
  | true => simp only [slotted, plain, if_true, Ty.unmark_slotted]

theorem sameAs_slotted {g : Function} {slot : Bool} (hf : slot = true → f.hasSlot = false)
    (hg : slot = true → g.hasSlot = false) : (f.slotted slot).sameAs (g.slotted slot) = f.sameAs g := by
  cases slot with
  | false => rfl
  | true =>
    have returns : (f.returnType.slotted == g.returnType.slotted) = (f.returnType == g.returnType) := by
      rw [Bool.eq_iff_iff, beq_iff_eq, beq_iff_eq]
      exact Ty.slotted_inj (hf rfl) (hg rfl)
    show (f.returnType.slotted == g.returnType.slotted && f.paramTypes == g.paramTypes) = _
    rw [returns]
    rfl

end Function

def Definition.slotted (name : String) (d : Definition) : Definition :=
  { d with function := d.function.slotted (d.name == name) }

namespace Definition

open Report (SameId)

theorem alike_refuse {done : α → β → Prop} {c d : Complaint} (same : c.topic = d.topic) (n m : Node) :
    EndAlike SameId done (refuse c n) (refuse d m) :=
  .error (congrArg Report.Topic.id same)

theorem alike_readReturnType (n : Node) :
    EndAlike SameId (fun t u => u = t.slotted) (readReturnType n) (readReturnType n.inSlot) := by
  by_cases void : n.symbol? = some "void"
  · have read : readReturnType n = .ok .void := by
      cases n with
      | list => cases void
      | atom token =>
        have name : Base.ofName? "void" = some .void := by decide
        simp only [readReturnType, Ty.read, void, Option.bind_some, name]
        rfl
    rw [Node.inSlot, if_pos void, read]
    exact .ok rfl
  · have marked : Ty.read n.inSlot = (Ty.read n).map Ty.mark := by
      rw [Node.inSlot, if_neg void]
      rfl
    unfold readReturnType
    rw [marked]
    cases read : Ty.read n with
    | error r => exact .error rfl
    | ok t =>
      have there : t ≠ .missing := by
        intro missing
        have complete := (Ty.ends_read n).ok read
        rw [missing] at complete
        cases complete
      show EndAlike _ _ (if _ then _ else _) (if t.mark.isVariadic || (t.mark.isMarked && t.mark.isVoid) then _ else _)
      rw [Ty.isVariadic_mark, Ty.isVoid_mark, Ty.isMarked_mark there]
      cases isVoid : t.isVoid with
      | true =>
        cases plain : t.isMarked with
        | false => exact absurd ((Ty.ends_read_void n).ok read isVoid plain) void
        | true =>
          simp only [Bool.and_true, Bool.or_true, if_true]
          exact .error rfl
      | false =>
        simp only [Bool.and_false, Bool.or_false]
        split
        · exact .error rfl
        · have slotted : t.slotted = t.mark := by rw [Ty.slotted, isVoid]; rfl
          exact .ok slotted.symm

theorem alike_readSignature (name : String) (fn fn' : Node) (linkage : Linkage) (attributes : List String)
    (ns : List Node) :
    EndAlike SameId (fun f g => g = (f.1.slotted true, f.2)) (readSignature name fn linkage attributes ns)
      (readSignature name fn' linkage attributes (Node.slotSignature ns)) := by
  match ns with
  | returnNode :: .list paren params :: body =>
    refine .bind (alike_readReturnType returnNode) fun t u same => ?_
    cases readParams params with
    | error r => exact .error rfl
    | ok ps =>
      subst same
      exact .ok rfl
  | [] | [_] | _ :: .atom _ :: _ => exact alike_refuse rfl fn fn'

theorem readFunction_list (name : String) (paren : Token) (head linkage second third : Node) (rest : List Node) :
    readFunction name (.list paren (head :: linkage :: second :: third :: rest)) =
      match Linkage.ofName? linkage.literal with
      | none => refuse (.definitionLinkage linkage.text) linkage
      | some linked =>
        let fn := Node.list paren (head :: linkage :: second :: third :: rest)
        if second.head? = some "attr" then do
          let attributes ← readAttributes second.operands
          readSignature name fn linked attributes (third :: rest)
        else readSignature name fn linked [] (second :: third :: rest) := rfl

theorem alike_readFunction (name : String) (fn : Node) :
    EndAlike SameId (fun f g => g = (f.1.slotted true, f.2)) (readFunction name fn)
      (readFunction name fn.slotFunction) := by
  match fn with
  | .atom _ | .list _ [] | .list _ [_] | .list _ [_, _] => exact alike_refuse rfl _ _
  | .list paren [head, linkage, second] =>
    have same : Node.slotFunction (.list paren [head, linkage, second]) = .list paren [head, linkage, second] := by
      rw [Node.slotFunction]
      exact ite_self _
    rw [same]
    exact alike_refuse rfl _ _
  | .list paren (head :: linkage :: second :: third :: rest) =>
    by_cases attributes : second.head? = some "attr"
    · obtain ⟨third', rest', split⟩ : ∃ third' rest', Node.slotSignature (third :: rest) = third' :: rest' := by
        cases rest <;> exact ⟨_, _, rfl⟩
      rw [Node.slotFunction, if_pos attributes, split, readFunction_list, readFunction_list]
      cases Linkage.ofName? linkage.literal with
      | none => exact alike_refuse rfl _ _
      | some linked =>
        dsimp only
        rw [if_pos attributes, if_pos attributes, ← split]
        cases readAttributes second.operands with
        | error r => exact .error rfl
        | ok attrs => exact alike_readSignature name _ _ linked attrs (third :: rest)
    · obtain ⟨second', split, plain⟩ : ∃ second', Node.slotSignature (second :: third :: rest) =
          second' :: third :: rest ∧ second'.head? ≠ some "attr" := by
        refine ⟨_, rfl, ?_⟩
        split
        · exact second.head?_inSlot attributes
        · exact attributes
      rw [Node.slotFunction, if_neg attributes, split, readFunction_list, readFunction_list]
      cases Linkage.ofName? linkage.literal with
      | none => exact alike_refuse rfl _ _
      | some linked =>
        dsimp only
        rw [if_neg attributes, if_neg plain, ← split]
        exact alike_readSignature name _ _ linked [] (second :: third :: rest)

structure Shape (name : String) (head nameNode fn : Node) : Prop where
  top : head.symbol? = some "def"
  name : nameNode.symbol? = some name
  function : fn.head? = some "fn"

theorem read_of_shape {name : String} {head nameNode fn : Node} (shape : Shape name head nameNode fn) (paren : Token) :
    read (.list paren [head, nameNode, fn]) = (readFunction name fn).map fun f =>
      { name, function := { f.1 with token := nameNode.token }, body := f.2 } := by
  have top : Node.head? (.list paren [head, nameNode, fn]) = some "def" := shape.top
  unfold read
  simp only [top, ne_eq, not_true_eq_false, if_false, Node.operands, Node.items, List.tail_cons, shape.name,
    shape.function]
  cases readFunction name fn <;> rfl

theorem ends_read_shape (n : Node) :
    Ends (read n) (fun d => ∃ paren head nameNode fn, n = .list paren [head, nameNode, fn] ∧
      Shape d.name head nameNode fn) fun _ => True := by
  unfold read
  refine .ite (fun _ => trivial) fun top => ?_
  split
  · rename_i nameNode fn operands
    split
    · rename_i name named function
      refine (Ends.any (readFunction name fn)).bind fun f _ => ?_
      cases n with
      | atom => cases operands
      | list paren items =>
        cases items with
        | nil => cases operands
        | cons head rest =>
          obtain rfl : rest = [nameNode, fn] := operands
          exact ⟨paren, head, nameNode, fn, rfl, Decidable.not_not.mp top, named, function⟩
    · trivial
  · trivial

theorem alike_read (name : String) (n : Node) :
    EndAlike SameId (fun d e => e = d.slotted name) (read n) (read (n.slotResult name)) := by
  by_cases shaped : ∃ paren head nameNode fn, n = .list paren [head, nameNode, fn] ∧ Shape name head nameNode fn
  · obtain ⟨paren, head, nameNode, fn, rfl, shape⟩ := shaped
    have slotted : Shape name head nameNode fn.slotFunction :=
      ⟨shape.top, shape.name, fn.head?_slotFunction.trans shape.function⟩
    rw [Node.slotResult, if_pos ⟨shape.top, shape.name, shape.function⟩, read_of_shape shape, read_of_shape slotted]
    have function := alike_readFunction name fn
    revert function
    generalize readFunction name fn = x
    generalize readFunction name fn.slotFunction = y
    intro function
    cases function with
    | error same => exact .error same
    | ok same =>
      subst same
      refine .ok ?_
      rw [Definition.slotted, beq_self_eq_true]
      rfl
  · have same : n.slotResult name = n := by
      unfold Node.slotResult
      split
      · rename_i paren head nameNode fn
        refine if_neg fun shape => shaped ⟨paren, head, nameNode, fn, rfl, ?_⟩
        exact ⟨shape.1, shape.2.1, shape.2.2⟩
      · rfl
    rw [same]
    cases outcome : read n with
    | error r => exact .error rfl
    | ok d =>
      obtain ⟨paren, head, nameNode, fn, here, shape⟩ := (ends_read_shape n).ok outcome
      have other : d.name ≠ name := fun eq => shaped ⟨paren, head, nameNode, fn, here, eq ▸ shape⟩
      refine .ok ?_
      rw [slotted, beq_false_of_ne other]
      rfl

end Definition

namespace Registry

def slotted (name : String) (r : Registry) : Registry :=
  ⟨r.entries.map fun e => (e.1, e.2.map (·.slotted (e.1 == name)))⟩

def Slotless (name : String) (r : Registry) : Prop := ∀ f ∈ r.overloads name, f.hasSlot = false

variable (name n : String) (r : Registry)

theorem plain_slotted : (r.slotted name).plain = r.plain := by
  simp only [plain, slotted, List.map_map]
  congr 1
  refine List.map_congr_left fun e _ => ?_
  simp only [Function.comp_apply, List.map_map, Prod.mk.injEq, true_and]
  exact List.map_congr_left fun f _ => f.plain_slotted _

theorem has_slotted : (r.slotted name).has n = r.has n := by
  simp [has, slotted, List.any_map, Function.comp_def]

theorem overloads_slotted : (r.slotted name).overloads n = (r.overloads n).map (·.slotted (n == name)) := by
  have found : (r.slotted name).entries.lookup n =
      (r.entries.lookup n).map fun fs => fs.map (·.slotted (n == name)) := by
    apply lookup_map_values fun n (fs : List Function) => fs.map (·.slotted (n == name))
  rw [overloads, found, overloads]
  cases r.entries.lookup n <;> rfl

theorem exact_slotted (types : List Ty) :
    (r.slotted name).exact n types = (r.exact n types).map (·.slotted (n == name)) := by
  rw [exact, overloads_slotted, List.find?_map]
  rfl

theorem assign_slotted (fs : List Function) :
    (r.assign n fs).slotted name = (r.slotted name).assign n (fs.map (·.slotted (n == name))) := by
  unfold assign
  rw [has_slotted]
  split
  · simp only [slotted, List.map_map]
    congr 1
    refine List.map_congr_left fun e _ => ?_
    simp only [Function.comp_apply]
    split <;> rfl
  · simp [slotted]

theorem put_slotted (i : Nat) (f : Function) :
    (r.put n i f).slotted name = (r.slotted name).put n i (f.slotted (n == name)) := by
  simp only [put, assign_slotted, overloads_slotted, List.length_map]
  congr 1
  split
  · exact List.map_set
  · simp

namespace Slotless

variable {name : String} {r : Registry}

theorem put (h : r.Slotless name) {n : String} (new : n = name → f.hasSlot = false) (i : Nat) :
    (r.put n i f).Slotless name := by
  intro g inside
  rcases mem_overloads_of_put inside with old | ⟨here, rfl⟩
  · exact h g old
  · exact new here.symm

theorem find? (h : r.Slotless name) {n : String} (new : n = name → f.hasSlot = false) :
    (r.slotted name).find? n (f.slotted (n == name)) = (r.find? n f).map fun g => (g.1.slotted (n == name), g.2) := by
  have same : ∀ g ∈ (r.overloads n).zipIdx,
      (g.1.slotted (n == name)).sameAs (f.slotted (n == name)) = g.1.sameAs f := by
    intro g inside
    refine Function.sameAs_slotted (fun here => ?_) fun here => new (eq_of_beq here)
    obtain rfl := eq_of_beq here
    exact h g.1 (List.fst_mem_of_mem_zipIdx inside)
  have found : (r.overloads n).zipIdx.find? (fun g => (g.1.slotted (n == name)).sameAs (f.slotted (n == name))) =
      r.find? n f := by
    rw [Registry.find?, ← List.head?_filter, List.filter_congr same, List.head?_filter]
  rw [Registry.find?, overloads_slotted, List.zipIdx_map, List.find?_map, ← found]
  rfl

end Slotless

end Registry

namespace IR

def Func.outline (g : Func) : Func := { g with result := .void, params := [], blocks := g.blocks.map Block.outline }

def Module.outline (m : Module) : Module := { m with funcs := m.funcs.map Func.outline }

theorem Func.isDeclaration_outline (g : Func) : g.outline.isDeclaration = g.isDeclaration := by
  simp [isDeclaration, outline, Array.isEmpty]

namespace Module

theorem usesSymbol_outline (m : Module) (symbol : Octets) : m.outline.usesSymbol symbol = m.usesSymbol symbol := by
  simp [usesSymbol, outline, Func.outline, Function.comp_def]

theorem isDeclaration_outline (m : Module) (f : Function) : f.isDeclaration m.outline = f.isDeclaration m := by
  unfold Function.isDeclaration
  cases f.symbol with
  | none => rfl
  | some n =>
    simp only [Option.bind_some, outline, Array.getElem?_map]
    cases m.funcs[n]? with
    | none => rfl
    | some g => exact g.isDeclaration_outline

theorem outline_push (m : Module) (g : Func) :
    Module.outline { m with funcs := m.funcs.push g } = { m.outline with funcs := m.outline.funcs.push g.outline } := by
  simp [outline]

theorem outline_install (m : Module) (f : Function) (body : Body) :
    (CompilationUnit.install m f body).outline = CompilationUnit.install m.outline f body.outline := by
  unfold CompilationUnit.install
  cases f.symbol with
  | none => rfl
  | some n =>
    simp only [outline]
    congr 1
    apply map_modify
    intro g
    rfl

end Module

end IR

theorem Ends.alike_self {x : Except Fault α} {done : α → Prop} (h : Ends x done Fault.Single) :
    EndAlike Fault.Matches (fun a b => b = a) x x := by
  cases outcome : x with
  | ok a => exact .ok rfl
  | error f => exact .error (h.error outcome).proper.matches_self

theorem Function.alike_declaration {slot : Bool} (h : slot = true → f.hasSlot = false) :
    EndAlike Fault.Matches (fun g g' => g'.outline = g.outline) f.declaration (f.slotted slot).declaration := by
  by_cases changed : f.slotted slot = f
  · rw [changed]
    have self := f.ends_declaration.alike_self
    generalize f.declaration = x at self
    cases self with
    | ok same => exact .ok (congrArg Func.outline same)
    | error same => exact .error same
  · -- The layout of the result moves from the result itself to one more parameter, and the outline has neither.
    have slots : slot = true := by
      cases slot with
      | false => exact absurd f.slotted_false changed
      | true => rfl
    subst slots
    have plain : f.returnType.isMarked = false := h rfl
    have differs : f.returnType.slotted ≠ f.returnType := fun same => changed (Function.slotted_eq_self same true)
    have value : f.returnType.isVoid = false := by
      rw [Bool.eq_false_iff]
      intro void
      exact differs (if_pos void)
    have there : f.returnType ≠ .missing := by
      intro missing
      rw [missing] at differs
      exact differs rfl
    have returns : (f.slotted true).returnType = f.returnType.mark := by
      show f.returnType.slotted = f.returnType.mark
      rw [Ty.slotted, value]
      rfl
    have slot : (f.slotted true).slotLayout =
        (f.returnType.layout.mapError fun t => (Fault.unsized t).pinned f.token).map fun l =>
          [⟨"retval", .pointer l⟩] := by
      rw [Function.slotLayout, Function.hasSlot, returns, Ty.isMarked_mark there, Ty.unmark_mark,
        Ty.unmark_of_not_isMarked plain]
      cases f.returnType.layout <;> rfl
    have bare : f.slotLayout = .ok [] := by
      rw [Function.slotLayout, Function.hasSlot, plain]
      rfl
    have result : (f.slotted true).returnType.returnLayout = .ok .void := by
      rw [returns, Ty.returnLayout, Ty.isMarked_mark there]
      rfl
    have result' : f.returnType.returnLayout = f.returnType.layout := by
      rw [Ty.returnLayout, plain, value]
      rfl
    refine .bind (Function.ends_paramLayouts f.params).alike_self ?_
    intro ps qs same
    subst same
    rw [slot, bare, result, result']
    cases f.returnType.layout with
    | error t => exact .error (Fault.matches_complaint rfl _ _)
    | ok l => exact .ok rfl

theorem Body.alike_compile {ctx ctx' : Context} (m : ctx.Matches ctx') (forms : List Node) :
    EndAlike Fault.Matches (fun b c => c.outline = b.outline) (Body.compile ctx forms) (Body.compile ctx' forms) := by
  rcases (Body.abreast_build m forms).ends with ⟨_, b, _, c, run, run', outline⟩ | ⟨f, b, g, c, run, run', faults⟩
  · simp only [Body.compile, run, run']
    exact .ok outline.symm
  · simp only [Body.compile, run, run']
    exact .error faults

namespace CompilationUnit

variable {name : String} {u v : CompilationUnit} {d : Definition}

structure Slots (name : String) (u v : CompilationUnit) : Prop where
  left : u.Sound
  right : v.Sound
  registry : v.registry = u.registry.slotted name
  slotless : u.registry.Slotless name
  module : v.module.outline = u.module.outline
  reports : v.reports.map (·.id) = u.reports.map (·.id)

structure Placed.Slots (slot : Bool) (p q : Placed) : Prop where
  module : q.module.outline = p.module.outline
  function : q.function = p.function.slotted slot
  position : q.position = p.position

theorem Slots.size (h : Slots name u v) : v.module.funcs.size = u.module.funcs.size := by
  have size : v.module.outline.funcs.size = u.module.outline.funcs.size := by rw [h.module]
  simpa [Module.outline] using size

theorem Slots.alike_checkNew (h : Slots name u v) (n : String) (f : Function) :
    EndAlike Fault.Matches (fun _ _ => True) (u.checkNew n f) (v.checkNew n (f.slotted (n == name))) := by
  have types : (f.slotted (n == name)).paramTypes = f.paramTypes := rfl
  have symbol : v.module.usesSymbol f.internalName = u.module.usesSymbol f.internalName := by
    rw [← Module.usesSymbol_outline, h.module, Module.usesSymbol_outline]
  unfold checkNew
  rw [types, h.registry, Registry.exact_slotted]
  cases u.registry.exact n f.paramTypes with
  | some other =>
    -- The wording shows the return type, the topic does not.
    have topic (s t t' : String) :
        (Complaint.returnOverload n s t).topic = (Complaint.returnOverload n s t').topic := rfl
    exact .error (Fault.matches_complaint (topic _ _ _) _ _)
  | none =>
    show EndAlike _ _ (if _ then _ else _) (if v.module.usesSymbol f.internalName then _ else _)
    rw [symbol]
    split
    · exact .error (Fault.matches_complaint rfl _ _)
    · exact .ok trivial

theorem place_of_new (unknown : u.registry.find? d.name d.function = none) :
    u.place d = (do
      u.checkNew d.name d.function
      let (module, function) ← u.module.declare d.function
      .ok (some ⟨module, function, (u.registry.overloads d.name).length⟩)) := by
  unfold place
  rw [unknown]

theorem place_of_known {i : Nat} (found : u.registry.find? d.name d.function = some (f, i)) :
    u.place d = (do
      checkKnown d.name f d.function
      if d.body.isEmpty then .ok none
      else if !f.isDeclaration u.module then .error (.complaint (.redefined d.name) d.function.token)
      else .ok (some ⟨u.module, { d.function with symbol := f.symbol }, i⟩)) := by
  unfold place
  rw [found]

theorem Slots.alike_place (h : Slots name u v) (new : d.name = name → d.function.hasSlot = false) :
    EndAlike Fault.Matches
      (fun p q => p = none ∧ q = none ∨ ∃ p' q', p = some p' ∧ q = some q' ∧ p'.Slots (d.name == name) q')
      (u.place d) (v.place (d.slotted name)) := by
  have find : v.registry.find? (d.slotted name).name (d.slotted name).function =
      (u.registry.find? d.name d.function).map fun g => (g.1.slotted (d.name == name), g.2) := by
    rw [h.registry]
    exact h.slotless.find? new
  cases found : u.registry.find? d.name d.function with
  | none =>
    rw [found] at find
    rw [place_of_new found, place_of_new find]
    refine .bind (h.alike_checkNew d.name d.function) fun _ _ _ => ?_
    have declared : EndAlike Fault.Matches (fun g g' => g'.outline = g.outline) d.function.declaration
        (d.function.slotted (d.name == name)).declaration :=
      Function.alike_declaration fun here => new (eq_of_beq here)
    have overloads : (v.registry.overloads d.name).length = (u.registry.overloads d.name).length := by
      rw [h.registry, Registry.overloads_slotted, List.length_map]
    simp only [Module.declare]
    show EndAlike _ _ (d.function.declaration.map _ >>= _)
      ((d.function.slotted (d.name == name)).declaration.map _ >>= _)
    generalize d.function.declaration = x at declared ⊢
    generalize (d.function.slotted (d.name == name)).declaration = y at declared ⊢
    cases declared with
    | error faults => exact .error faults
    | @ok g g' outline =>
      refine .ok (.inr ⟨_, _, rfl, rfl, ?_, ?_, overloads⟩)
      · rw [Module.outline_push, Module.outline_push, outline, h.module]
      · rw [h.size]
        rfl
  | some known =>
    obtain ⟨f, i⟩ := known
    rw [found] at find
    rw [place_of_known found, place_of_known find]
    have check : checkKnown (d.slotted name).name (f.slotted (d.name == name)) (d.slotted name).function =
        checkKnown d.name f d.function := rfl
    have bare : (f.slotted (d.name == name)).isDeclaration v.module = f.isDeclaration u.module := by
      rw [← Module.isDeclaration_outline, h.module, Module.isDeclaration_outline]
      rfl
    rw [check, bare]
    refine .bind (ends_checkKnown d.name f d.function).alike_self fun _ _ _ => ?_
    show EndAlike _ _ (if d.body.isEmpty then _ else _) (if d.body.isEmpty then _ else _)
    split
    · exact .ok (.inl ⟨rfl, rfl⟩)
    · split
      · exact .error (Fault.matches_complaint rfl _ _)
      · exact .ok (.inr ⟨_, _, rfl, rfl, h.module, rfl, rfl⟩)

inductive Defined.Slots {σ : Type} (name : String) : Defined σ → Defined σ → Prop
  | done {m m' : Module} {r : Registry} (module : m'.outline = m.outline) (slotless : r.Slotless name) :
    Slots name ⟨m, none, .ok r⟩ ⟨m', none, .ok (r.slotted name)⟩
  | failed {m m' : Module} {f g : Fault} (faults : f.Matches g) : Slots name ⟨m, none, .error f⟩ ⟨m', none, .error g⟩

theorem Places.returnType {p : Placed} (placed : u.Places d p) : p.function.returnType = d.function.returnType := by
  cases placed with
  | new => rfl
  | known => rfl

section Placed

variable {p q : Placed} (h : Slots name u v) (slots : p.Slots (d.name == name) q)

include h slots

theorem Slots.put {g : Function} (same : g = f.slotted (d.name == name)) :
    v.registry.put d.name q.position g = (u.registry.put d.name p.position f).slotted name := by
  rw [h.registry, slots.position, same, Registry.put_slotted]

theorem Slots.context (placed : u.Places d p) (placed' : v.Places (d.slotted name) q) :
    (u.context d p).Matches (v.context (d.slotted name) q) := by
  refine ⟨placed.context_sound h.left.registry, placed'.context_sound h.right.registry, ?_⟩
  show Context.plain ⟨u.registry.put d.name p.position p.function, d.name, p.function⟩ =
    Context.plain ⟨v.registry.put d.name q.position q.function, d.name, q.function⟩
  rw [h.put slots slots.function, slots.function]
  simp only [Context.plain, Registry.plain_slotted, Function.plain_slotted]

end Placed

theorem Slots.define {σ : Type} [Storage σ] (h : Slots name u v) (new : d.name = name → d.function.hasSlot = false) :
    Defined.Slots name (u.define (none : Option σ) d) (v.define (none : Option σ) (d.slotted name)) := by
  rcases (h.alike_place new).ends with ⟨found, found', place, place', both⟩ | ⟨f, g, place, place', faults⟩
  · rcases both with ⟨rfl, rfl⟩ | ⟨p, q, rfl, rfl, slots⟩
    · simp only [CompilationUnit.define, place, place', h.registry]
      exact .done h.module h.slotless
    · -- Whether a body follows does not depend on the mark; where it does, the two are compiled abreast.
      have placed := (u.ends_place d).ok place p rfl
      have placed' := (v.ends_place (d.slotted name)).ok place' q rfl
      have plain : d.name = name → p.function.hasSlot = false := fun here => by
        rw [Function.hasSlot, placed.returnType]
        exact new here
      have body : (d.slotted name).body = d.body := rfl
      simp only [CompilationUnit.define, place, place', body]
      split
      · have registry : (v.context (d.slotted name) q).registry = (u.context d p).registry.slotted name :=
          h.put slots slots.function
        rw [registry]
        exact .done slots.module (h.slotless.put plain _)
      · rcases (Body.alike_compile (h.context slots placed placed') d.body).ends with
          ⟨b, c, compiled, compiled', outline⟩ | ⟨f, g, compiled, compiled', faults⟩
        · have labels : c.labels = b.labels := by
            show c.outline.labels = b.outline.labels
            rw [outline]
          have function : { q.function with labels := c.labels.map (·.1) } =
              Function.slotted { p.function with labels := b.labels.map (·.1) } (d.name == name) := by
            rw [slots.function, labels]
            rfl
          have registry := h.put slots function
          have module : (install q.module { q.function with labels := c.labels.map (·.1) } c).outline =
              (install p.module { p.function with labels := b.labels.map (·.1) } b).outline := by
            rw [function, Module.outline_install, Module.outline_install, slots.module, outline]
            rfl
          rw [compiled, compiled']
          dsimp only [saveMetadata, Except.map]
          rw [show (d.slotted name).name = d.name from rfl, registry]
          refine .done module (h.slotless.put ?_ _)
          exact plain
        · rw [compiled, compiled']
          exact .failed faults
  · simp only [CompilationUnit.define, place, place']
    exact .failed faults

section Compile

variable {σ : Type} [Storage σ] {store store' : Option σ} {n : Node} {m : Module}

theorem compileForm_of_done {r : Registry} (read : Definition.read n = .ok d)
    (defined : u.define store d = ⟨m, store', .ok r⟩) :
    u.compileForm store n = ⟨{ u with module := m, registry := r }, store', none⟩ := by
  simp only [CompilationUnit.compileForm, read, defined]

theorem compileForm_of_failed {f : Fault} (read : Definition.read n = .ok d)
    (defined : u.define store d = ⟨m, store', .error f⟩) :
    u.compileForm store n = ⟨u.afterFault m f, store', some f⟩ := by
  simp only [CompilationUnit.compileForm, read, defined]

theorem compileForm_of_unread {r : Report} (read : Definition.read n = .error r) :
    u.compileForm store n = ⟨u.addReports [r], store, some (.reported r [])⟩ := by
  simp only [CompilationUnit.compileForm, read]

def verdict (o : Outcome σ) : Option (List String) := o.fault.map fun f => f.reports.map (·.id)

def verdicts (u : CompilationUnit) (store : Option σ) : List Node → List (Option (List String))
  | [] => []
  | n :: ns =>
    let o := u.compileForm store n
    verdict o :: if o.stopped.isSome then [] else verdicts o.unit o.store ns

theorem Slots.failed {u' v' : CompilationUnit} {f g : Fault} (h : Slots name u v) (faults : f.Matches g)
    (left : u'.Sound) (right : v'.Sound) (same : u'.SameCode u) (same' : v'.SameCode v)
    (reports : u'.reports = u.reports ++ f.reports) (reports' : v'.reports = v.reports ++ g.reports) :
    Slots name u' v' where
  left
  right
  registry := by rw [same.registry, same'.registry, h.registry]
  slotless := same.registry ▸ h.slotless
  module := by rw [same.module, same'.module, h.module]
  reports := by rw [reports, reports', List.map_append, List.map_append, h.reports, faults.ids]

theorem Slots.compileForm (h : Slots name u v)
    (new : ∀ d, Definition.read n = .ok d → d.name = name → d.function.hasSlot = false) :
    let o := u.compileForm (none : Option σ) n
    let p := v.compileForm (none : Option σ) (n.slotResult name)
    Slots name o.unit p.unit ∧ (o.store = none ∧ p.store = none) ∧ verdict p = verdict o := by
  intro o p
  have left : o.unit.Sound := (sound_compileForm h.left none n).1
  have right : p.unit.Sound := (sound_compileForm h.right none (n.slotResult name)).1
  rcases (Definition.alike_read name n).ends with ⟨d, e, read, read', rfl⟩ | ⟨r, s, read, read', same⟩
  · have defined := h.define (σ := σ) (new d read)
    generalize first : u.define (none : Option σ) d = x at defined
    generalize second : v.define (none : Option σ) (d.slotted name) = y at defined
    cases defined with
    | done module slotless =>
      have here : o = _ := compileForm_of_done read first
      have there : p = _ := compileForm_of_done read' second
      rw [here] at left ⊢
      rw [there] at right ⊢
      exact ⟨⟨left, right, rfl, slotless, module, h.reports⟩, ⟨rfl, rfl⟩, rfl⟩
    | failed faults =>
      have here : o = _ := compileForm_of_failed read first
      have there : p = _ := compileForm_of_failed read' second
      have same : o.unit.SameCode u :=
        sameCode_of_fault h.left (Option.isSome_iff_exists.mpr ⟨_, congrArg (·.fault) here⟩)
      have same' : p.unit.SameCode v :=
        sameCode_of_fault h.right (Option.isSome_iff_exists.mpr ⟨_, congrArg (·.fault) there⟩)
      rw [here] at left same ⊢
      rw [there] at right same' ⊢
      exact ⟨h.failed faults left right same same' rfl rfl, ⟨rfl, rfl⟩, congrArg some faults.ids.symm⟩
  · have here : o = _ := compileForm_of_unread read
    have there : p = _ := compileForm_of_unread read'
    have proper : r.Proper := (Definition.ends_read n).error read
    have proper' : s.Proper := (Definition.ends_read (n.slotResult name)).error read'
    have faults : (Fault.reported r []).Matches (Fault.reported s []) :=
      ⟨⟨proper, by simp⟩, ⟨proper', by simp⟩, congrArg (fun id => [id]) same⟩
    rw [here] at left ⊢
    rw [there] at right ⊢
    exact ⟨h.failed faults left right ⟨rfl, rfl⟩ ⟨rfl, rfl⟩ rfl rfl, ⟨rfl, rfl⟩, congrArg some faults.ids.symm⟩

theorem Slots.compileForms (h : Slots name u v) (ns : List Node)
    (new : ∀ n ∈ ns, ∀ d, Definition.read n = .ok d → d.name = name → d.function.hasSlot = false) :
    Slots name (u.compileForms (none : Option σ) ns).unit
        (v.compileForms (none : Option σ) (ns.map (Node.slotResult name))).unit ∧
      v.verdicts (none : Option σ) (ns.map (Node.slotResult name)) = u.verdicts (none : Option σ) ns := by
  induction ns generalizing u v with
  | nil => exact ⟨h, rfl⟩
  | cons n ns ih =>
    obtain ⟨next, ⟨store, store'⟩, same⟩ := h.compileForm (σ := σ) (new n List.mem_cons_self)
    obtain ⟨rest, others⟩ := ih next fun n inside => new n (List.mem_cons_of_mem _ inside)
    have goesOn := stopped_compileForm h.left (none : Option σ) n
    have goesOn' := stopped_compileForm h.right (none : Option σ) (n.slotResult name)
    simp only [List.map_cons, CompilationUnit.compileForms, verdicts, goesOn, goesOn', store, store',
      Option.isSome_none, Bool.false_eq_true, if_false]
    exact ⟨rest, by rw [same, others]⟩

end Compile

theorem slots_new (name id : String) : Slots name (new id) (new id) := by
  have sound : (new id).Sound := (Reached.new id).sound
  refine ⟨sound, sound, rfl, ?_, rfl, rfl⟩
  intro f none
  cases none

/-- If all functions of a name return through slots instead of none, the same forms are accepted, with reports on the
same topics where they are not, and every function has a body of the same outline. -/
theorem result_slots_invisible {σ : Type} [Storage σ] (id name : String) (ns : List Node)
    (unmarked : ∀ n ∈ ns, ∀ d, Definition.read n = .ok d → d.name = name → d.function.hasSlot = false) :
    let before := (new id).compileForms (none : Option σ) ns
    let after := (new id).compileForms (none : Option σ) (ns.map (Node.slotResult name))
    (new id).verdicts (none : Option σ) (ns.map (Node.slotResult name)) = (new id).verdicts (none : Option σ) ns ∧
      after.unit.reports.map (·.id) = before.unit.reports.map (·.id) ∧
      after.unit.registry = before.unit.registry.slotted name ∧
      after.unit.module.outline = before.unit.module.outline := by
  intro before after
  obtain ⟨slots, verdicts⟩ := (slots_new name id).compileForms (σ := σ) ns unmarked
  exact ⟨verdicts, slots.reports, slots.registry, slots.module⟩

/-- An array that is returned and followed as a pointer, a function of the same name that returns nothing, a wrong
result and an overload that differs in what it returns. -/
theorem result_slots_invisible_array :
    let call (head : String) (ns : List Node) : Node := .form (.word head :: ns)
    let define (name : String) (returns : Node) (params body : List Node) : Node :=
      call "def" [.word name, call "fn" ([.word "extern", returns, .form params] ++ body)]
    let array := call "array-of" [.numeral 2, .word "int"]
    let n := Node.form [.word "n", .word "int"]
    let ns := [
      define "f" array [n] [call "var" [.word "a", array], call "return" [.word "a"]],
      define "f" (.word "void") [] [],
      define "g" (.word "int") [n] [call "goto" [.word "end"], call "label" [.word "end"],
        call "return" [call "@" [call "p+" [call "f" [.word "n"], .numeral 1]]]],
      define "h" (.word "int") [] [call "return" [call "f" [.numeral 1]]],
      define "f" (.word "int") [n] []]
    let before := (new "0").compileForms (none : Option Store) ns
    let after := (new "0").compileForms (none : Option Store) (ns.map (Node.slotResult "f"))
    ((new "0").verdicts (none : Option Store) ns =
        [none, none, none, some ["comp/return/type"], some ["comp/def/return-overload"]] ∧
      after.unit.registry ≠ before.unit.registry ∧ after.unit.module ≠ before.unit.module) ∧
    (new "0").verdicts (none : Option Store) (ns.map (Node.slotResult "f")) =
        (new "0").verdicts (none : Option Store) ns ∧
      after.unit.reports.map (·.id) = before.unit.reports.map (·.id) ∧
      after.unit.registry = before.unit.registry.slotted "f" ∧
      after.unit.module.outline = before.unit.module.outline := by
  intro call define array n ns before after
  refine ⟨by decide +kernel, result_slots_invisible "0" "f" ns ?_⟩
  have checked : ns.all (fun n => (Definition.read n).toOption.all fun d => d.name != "f" || !d.function.hasSlot) =
      true := by decide +kernel
  intro n inside d read named
  have here := List.all_eq_true.mp checked n inside
  simpa [read, named, Except.toOption] using here

end CompilationUnit

end FormCompiler
