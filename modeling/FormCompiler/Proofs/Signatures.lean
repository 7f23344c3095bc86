import FormCompiler.Proofs.ControlFlow
import FormCompiler.Proofs.Typing
import FormCompiler.Unit.Basic

namespace FormCompiler

variable {types : List Ty} {args : List Layout}

namespace IR

def Inst.operands : Inst → List Value
  | alloca _ => []
  | store value target => [value, target]
  | load _ source => [source]
  | offset _ base index => [base, index]
  | firstElement _ base => [base]
  | extend _ value _ => [value]
  | sub left right => [left, right]
  | call _ _ args => args

def Term.operands : Term → List Value
  | ret (some v) => [v]
  | _ => []

def Place.Before (p q : Place) : Prop := p.block < q.block ∨ p.block = q.block ∧ p.index < q.index

instance (p q : Place) : Decidable (p.Before q) :=
  inferInstanceAs (Decidable (p.block < q.block ∨ p.block = q.block ∧ p.index < q.index))

/-- Whether the operands of an instruction are laid out as it needs them. What a call needs is a matter of
its callee. -/
def Inst.Typed (layoutOf : Value → Option Layout) : Inst → Prop
  | alloca _ | call .. => True
  | store value target => ∃ l, layoutOf value = some l ∧ layoutOf target = some (.pointer l)
  | load l source => layoutOf source = some (.pointer l)
  | offset element base index => layoutOf base = some (.pointer element) ∧ layoutOf index = some (.int 64)
  | firstElement aggregate base =>
    layoutOf base = some (.pointer aggregate) ∧ ∃ n element, aggregate = .array n element
  | extend _ value bits => bits = 64 ∧ ∃ narrow < 64, layoutOf value = some (.int narrow)
  | sub left right => layoutOf left = some (.int 64) ∧ layoutOf right = some (.int 64)

/-- Whether a block may end so in a function that returns that: with a value of it, and without one only
if there is none to return. -/
def Term.Typed (result : Layout) (layoutOf : Value → Option Layout) : Term → Prop
  | ret none => result = .void
  | ret (some v) => result ≠ .void ∧ layoutOf v = some result
  | br _ | unreachable => True

theorem Inst.Typed.congr {f g : Value → Option Layout} {i : Inst} (h : i.Typed f)
    (same : ∀ v ∈ i.operands, f v = g v) : i.Typed g := by
  cases i with
  | alloca | call => trivial
  | store value target =>
    obtain ⟨l, fits⟩ := h
    exact ⟨l, by simpa only [← same value (by simp [operands]), ← same target (by simp [operands])] using fits⟩
  | load l source => simpa only [Typed, ← same source (by simp [operands])] using h
  | offset element base index =>
    simpa only [Typed, ← same base (by simp [operands]), ← same index (by simp [operands])] using h
  | firstElement aggregate base => simpa only [Typed, ← same base (by simp [operands])] using h
  | extend signed value bits => simpa only [Typed, ← same value (by simp [operands])] using h
  | sub left right =>
    simpa only [Typed, ← same left (by simp [operands]), ← same right (by simp [operands])] using h

theorem Term.Typed.congr {result : Layout} {f g : Value → Option Layout} {t : Term} (h : t.Typed result f)
    (same : ∀ v ∈ t.operands, f v = g v) : t.Typed result g := by
  rcases t with (_ | v) | target | _
  · exact h
  · simpa only [Typed, ← same v (by simp [operands])] using h
  · trivial
  · trivial

namespace Func

def inst? (f : Func) (p : Place) : Option Inst := f.blocks[p.block]?.bind fun K => K.insts[p.index]?

def term? (f : Func) (k : Nat) : Option Term := f.blocks[k]?.bind (·.term)

def layoutOf? (f : Func) : Value → Option Layout
  | .const bits _ => some (.int bits)
  | .param n _ => f.params[n]?.map (·.layout)
  | .inst p _ => (f.inst? p).map Inst.layout

/-- Whether arguments of these layouts can be passed: one for each parameter, of its layout, and then
more only if the function is variadic. -/
def Takes (f : Func) (args : List (Option Layout)) : Prop :=
  args.take f.params.length = f.params.map (fun p => some p.layout) ∧
    (args.length = f.params.length ∨ f.variadic = true)

instance (f : Func) (args : List (Option Layout)) : Decidable (f.Takes args) :=
  inferInstanceAs (Decidable (_ ∧ _))

end Func

end IR

open IR (Layout)

/-- The layouts of the parameters up to the variadic marker, of what the slot holds if there is one, and
of what is returned. -/
structure Signature where
  fixed : List Layout
  slot : Option Layout
  result : Layout
  deriving DecidableEq

def Signature.params (s : Signature) : List Layout := s.fixed ++ (s.slot.map Layout.pointer).toList

namespace Function

structure HasSignature (f : Function) (s : Signature) : Prop where
  fixed : (f.paramTypes.takeWhile (!·.isVariadic)).map Ty.layout = s.fixed.map .ok
  slot : f.hasSlot = true → ∃ l, s.slot = some l ∧ f.returnType.unmark.layout = .ok l
  noSlot : f.hasSlot = false → s.slot = none
  result : f.returnType.returnLayout = .ok s.result

structure DeclaredAs (f : Function) (g : IR.Func) : Prop where
  signature : ∃ s, f.HasSignature s ∧ g.params.map (·.layout) = s.params ∧ g.result = s.result
  variadic : g.variadic = f.isVariadic

def Orderly (f : Function) : Prop := ∀ t ∈ f.paramTypes.take f.required, t.isVariadic = false

/-- How a function is called: with what its parameters take, then with more if it is variadic, and behind
everything with the slot. -/
def Called (f : Function) (result : Layout) (args : List Layout) : Prop :=
  ∃ s more, f.HasSignature s ∧ result = s.result ∧ args = s.fixed ++ more ++ (s.slot.map Layout.pointer).toList ∧
    (f.isVariadic = false → more = [])

theorem paramLayouts_eq_ok {ps : List Parameter} {ls : List IR.Param} (h : paramLayouts ps = .ok ls) :
    ((ps.map (·.type)).takeWhile (!·.isVariadic)).map Ty.layout = ls.map fun l => .ok l.layout := by
  induction ps generalizing ls with
  | nil => cases h; rfl
  | cons p ps ih =>
    unfold paramLayouts at h
    cases variadic : p.type.isVariadic with
    | true =>
      simp only [variadic, if_true] at h
      cases h
      simp [variadic]
    | false =>
      simp only [variadic, Bool.false_eq_true, if_false] at h
      split at h
      · cases h
      · rename_i l laid
        cases rest : paramLayouts ps with
        | error e => simp [rest, Except.map] at h
        | ok ls' =>
          simp only [rest, Except.map, Except.ok.injEq] at h
          subst h
          simp [variadic, laid, ih rest]

theorem exists_paramLayouts {ps : List Parameter} {ls : List Layout}
    (h : ((ps.map (·.type)).takeWhile (!·.isVariadic)).map Ty.layout = ls.map .ok) :
    ∃ ls', paramLayouts ps = .ok ls' ∧ ls'.map (·.layout) = ls := by
  induction ps generalizing ls with
  | nil =>
    have none : ls = [] := by simpa using h.symm
    exact ⟨[], rfl, none.symm⟩
  | cons p ps ih =>
    cases variadic : p.type.isVariadic with
    | true =>
      have none : ls = [] := by simpa [variadic] using h.symm
      exact ⟨[], by simp [paramLayouts, variadic], none.symm⟩
    | false =>
      simp only [List.map_cons, List.takeWhile_cons, variadic, Bool.not_false, if_true] at h
      cases ls with
      | nil => cases h
      | cons l ls =>
        simp only [List.map_cons, List.cons.injEq] at h
        obtain ⟨ls', rest, same⟩ := ih h.2
        exact ⟨⟨p.name, l⟩ :: ls', by simp [paramLayouts, variadic, h.1, rest, Except.map], by simp [same]⟩

variable {f g : Function} {s t : Signature}

theorem declaration_eq_ok {d : IR.Func} (h : f.declaration = .ok d) :
    f.DeclaredAs d ∧ d.name = f.internalName ∧ d.alwaysInline = f.alwaysInline ∧ d.internal = false ∧
      d.blocks = #[] := by
  unfold declaration at h
  cases fixed : paramLayouts f.params with
  | error e => simp [fixed, bind, Except.bind] at h
  | ok params =>
    have laid : (f.paramTypes.takeWhile (!·.isVariadic)).map Ty.layout = (params.map (·.layout)).map .ok := by
      rw [List.map_map]
      exact paramLayouts_eq_ok fixed
    simp only [fixed, bind, Except.bind, slotLayout] at h
    cases hasSlot : f.hasSlot with
    | false =>
      simp only [hasSlot, Bool.false_eq_true, if_false] at h
      split at h
      · cases h
      · rename_i result returned
        cases h
        exact ⟨⟨⟨⟨params.map (·.layout), none, result⟩, ⟨laid, by simp [hasSlot], fun _ => rfl, returned⟩,
          by simp [Signature.params], rfl⟩, rfl⟩, rfl, rfl, rfl, rfl⟩
    | true =>
      simp only [hasSlot, if_true] at h
      cases slot : f.returnType.unmark.layout with
      | error e => simp [slot] at h
      | ok l =>
        simp only [slot] at h
        split at h
        · cases h
        · rename_i result returned
          cases h
          have has : f.HasSignature ⟨params.map (·.layout), some l, result⟩ :=
            ⟨laid, fun _ => ⟨l, rfl, slot⟩, by simp [hasSlot], returned⟩
          exact ⟨⟨⟨_, has, by simp [Signature.params], rfl⟩, rfl⟩, rfl, rfl, rfl, rfl⟩

theorem HasSignature.exists_declaration (h : f.HasSignature s) :
    ∃ d, f.declaration = .ok d ∧ d.params.map (·.layout) = s.params ∧ d.result = s.result := by
  obtain ⟨params, fixed, same⟩ := exists_paramLayouts h.fixed
  unfold declaration
  simp only [fixed, bind, Except.bind, slotLayout]
  cases hasSlot : f.hasSlot with
  | false =>
    simp only [Bool.false_eq_true, if_false, h.result]
    exact ⟨_, rfl, by simp [Signature.params, same, h.noSlot hasSlot], rfl⟩
  | true =>
    obtain ⟨l, slot, laid⟩ := h.slot hasSlot
    simp only [if_true, laid, h.result]
    exact ⟨_, rfl, by simp [Signature.params, same, slot], rfl⟩

theorem HasSignature.unique (h : f.HasSignature s) (k : f.HasSignature t) : s = t := by
  obtain ⟨fixed, slot, result⟩ := s
  obtain ⟨fixed', slot', result'⟩ := t
  have params : fixed = fixed' := by
    have same := h.fixed.symm.trans k.fixed
    exact (List.map_inj_right fun _ _ => Except.ok.inj).mp same
  have returns : result = result' := Except.ok.inj (h.result.symm.trans k.result)
  have slots : slot = slot' := by
    cases hasSlot : f.hasSlot with
    | false => exact (h.noSlot hasSlot).trans (k.noSlot hasSlot).symm
    | true =>
      obtain ⟨l, slot, laid⟩ := h.slot hasSlot
      obtain ⟨l', slot', laid'⟩ := k.slot hasSlot
      exact slot.trans (congrArg some (Except.ok.inj (laid.symm.trans laid')) ▸ slot'.symm)
  rw [params, returns, slots]

theorem sameAs_iff : f.sameAs g = true ↔ f.returnType = g.returnType ∧ f.paramTypes = g.paramTypes := by
  simp [sameAs]

theorem isVariadic_of_same (same : f.sameAs g = true) : f.isVariadic = g.isVariadic := by
  rw [isVariadic, isVariadic, (sameAs_iff.mp same).2]

theorem HasSignature.of_same (h : f.HasSignature s) (same : f.sameAs g = true) : g.HasSignature s := by
  obtain ⟨returns, params⟩ := sameAs_iff.mp same
  refine ⟨params ▸ h.fixed, ?_, ?_, returns ▸ h.result⟩
  · simpa only [hasSlot, returns] using h.slot
  · simpa only [hasSlot, returns] using h.noSlot

theorem DeclaredAs.of_same {d : IR.Func} (h : f.DeclaredAs d) (same : f.sameAs g = true) : g.DeclaredAs d := by
  obtain ⟨s, has, declared⟩ := h.signature
  exact ⟨⟨s, has.of_same same, declared⟩, h.variadic.trans (isVariadic_of_same same)⟩

theorem takeWhile_drop_required (f : Function) :
    (f.paramTypes.drop f.required).takeWhile (!·.isVariadic) = [] := by
  have length : f.paramTypes.length = f.params.length := List.length_map _
  cases variadic : f.isVariadic with
  | false =>
    have none : f.paramTypes.drop f.required = [] := by simp [required, variadic, length]
    rw [none]
    rfl
  | true =>
    obtain ⟨marker, last, is⟩ : ∃ t, f.paramTypes.getLast? = some t ∧ t.isVariadic = true := by
      simpa [isVariadic, Option.any_eq_true] using variadic
    obtain ⟨front, split⟩ := List.getLast?_eq_some_iff.mp last
    have count : f.required = front.length := by simp [required, variadic, ← length, split]
    rw [count, split, List.drop_left]
    simp [is]

theorem Orderly.takeWhile_eq (h : f.Orderly) :
    f.paramTypes.takeWhile (!·.isVariadic) = f.paramTypes.take f.required := by
  have plain : ∀ t ∈ f.paramTypes.take f.required, (!t.isVariadic) = true := fun t inside => by simp [h t inside]
  calc f.paramTypes.takeWhile (!·.isVariadic)
      = (f.paramTypes.take f.required ++ f.paramTypes.drop f.required).takeWhile (!·.isVariadic) := by
        rw [List.take_append_drop]
    _ = f.paramTypes.take f.required := by
        rw [List.takeWhile_append_of_pos plain, takeWhile_drop_required, List.append_nil]

theorem required_le (f : Function) : f.required ≤ f.paramTypes.length := by
  simp only [required, paramTypes, List.length_map]
  split <;> omega

theorem Orderly.length_fixed (h : f.Orderly) (has : f.HasSignature s) : s.fixed.length = f.required := by
  have length := congrArg List.length has.fixed
  rw [h.takeWhile_eq, List.length_map, List.length_map, List.length_take, Nat.min_eq_left f.required_le] at length
  exact length.symm

theorem HasSignature.slot_param (h : f.HasSignature s) (orderly : f.Orderly) (slot : f.hasSlot = true) {l : Layout}
    (laid : f.returnType.unmark.layout = .ok l) : s.params[f.required]? = some (.pointer l) := by
  obtain ⟨k, held, same⟩ := h.slot slot
  obtain rfl : k = l := Except.ok.inj (same.symm.trans laid)
  simp [Signature.params, held, ← orderly.length_fixed h]

theorem HasSignature.result_of_slot (h : f.HasSignature s) (slot : f.hasSlot = true) : s.result = .void := by
  have marked : f.returnType.isMarked = true := slot
  simpa [Ty.returnLayout, marked] using h.result.symm

theorem HasSignature.result_of_void (h : f.HasSignature s) (void : f.returnType.isVoid = true) : s.result = .void := by
  simpa [Ty.returnLayout, void] using h.result.symm

theorem HasSignature.result_of_value (h : f.HasSignature s) (plain : f.hasSlot = false) {l : Layout}
    (laid : f.returnType.unmark.layout = .ok l) : s.result = l := by
  have unmarked : f.returnType.isMarked = false := plain
  rw [Ty.unmark_of_not_isMarked unmarked] at laid
  have returns := h.result
  rw [Ty.returnLayout, if_neg (by simp [unmarked, Ty.isVoid_of_layout laid]), laid] at returns
  exact (Except.ok.inj returns).symm

theorem take_of_accepts (h : f.accepts types = true) :
    types.take f.required = f.paramTypes.take f.required ∧ (f.isVariadic = false → types.length = f.required) := by
  simp only [accepts, startsWithTypes, Bool.and_eq_true, Bool.or_eq_true, decide_eq_true_eq, beq_iff_eq,
    List.length_take] at h
  obtain ⟨⟨enough, more⟩, begins⟩ := h
  rw [Nat.min_eq_left enough] at begins
  refine ⟨begins.symm, fun plain => ?_⟩
  simpa [plain] using more

theorem called_of_accepts (has : f.HasSignature s) (orderly : f.Orderly) (accepts : f.accepts types = true)
    (laid : types.map Ty.layout = args.map .ok) : f.Called s.result (args ++ (s.slot.map Layout.pointer).toList) := by
  obtain ⟨begins, enough⟩ := take_of_accepts accepts
  have fixed : args.take f.required = s.fixed := by
    have front : (types.take f.required).map Ty.layout = (args.take f.required).map .ok := by
      rw [List.map_take, laid, List.map_take]
    rw [begins, ← orderly.takeWhile_eq, has.fixed] at front
    exact ((List.map_inj_right fun _ _ => Except.ok.inj).mp front).symm
  refine ⟨s, args.drop f.required, has, rfl, ?_, fun plain => ?_⟩
  · rw [← fixed, List.take_append_drop]
  · have length : args.length = f.required := by
      rw [← enough plain]
      simpa using (congrArg List.length laid).symm
    simp [length]

theorem takes_some_iff {g : IR.Func} :
    g.Takes (args.map some) ↔ args.take g.params.length = g.params.map (·.layout) ∧
      (args.length = g.params.length ∨ g.variadic = true) := by
  have same : g.params.map (fun p => some p.layout) = (g.params.map (·.layout)).map some := by
    rw [List.map_map]
    rfl
  rw [IR.Func.Takes, ← List.map_take, same, List.map_inj_right fun _ _ => Option.some.inj, List.length_map]

theorem Called.agrees {result : Layout} {g : IR.Func} (h : f.Called result args) (orderly : f.Orderly)
    (declared : f.DeclaredAs g) :
    result = g.result ∧ g.params.length = f.required + (if f.hasSlot then 1 else 0) ∧
      ∃ more, args = (g.params.map (·.layout)).take f.required ++ more ++ (g.params.map (·.layout)).drop f.required ∧
        (g.variadic = false → more = []) ∧ (g.Takes (args.map some) ↔
          f.hasSlot = false ∨ more = [] ∨ more.head? = g.params[f.required]?.map (·.layout)) := by
  obtain ⟨s, more, has, returned, passed, plain⟩ := h
  obtain ⟨t, has', params, result'⟩ := declared.signature
  obtain rfl : s = t := has.unique has'
  have fixed := orderly.length_fixed has
  have slots : (s.slot.map Layout.pointer).toList.length = if f.hasSlot then 1 else 0 := by
    cases hasSlot : f.hasSlot with
    | false => simp [has.noSlot hasSlot]
    | true =>
      obtain ⟨l, held, -⟩ := has.slot hasSlot
      simp [held]
  have count : g.params.length = f.required + (if f.hasSlot then 1 else 0) := by
    rw [← List.length_map (·.layout), params, Signature.params, List.length_append, fixed, slots]
  have front : (g.params.map (·.layout)).take f.required = s.fixed := by
    rw [params, Signature.params, ← fixed, List.take_left]
  have back : (g.params.map (·.layout)).drop f.required = (s.slot.map Layout.pointer).toList := by
    rw [params, Signature.params, ← fixed, List.drop_left]
  refine ⟨returned.trans result'.symm, count, more, by rw [front, back, passed], ?_, ?_⟩
  · rw [declared.variadic]
    exact plain
  have variadic : more ≠ [] → g.variadic = true := by
    intro some
    rw [declared.variadic]
    exact (Bool.not_eq_false _).mp fun fixed => some (plain fixed)
  have slotted : g.params[f.required]?.map (·.layout) = (s.slot.map Layout.pointer).toList.head? := by
    rw [← back, List.head?_drop, List.getElem?_map]
  rw [takes_some_iff, slotted, params, Signature.params, count, passed, ← fixed]
  -- With a slot, the first of what is passed on top of the parameters comes where the slot is taken.
  cases hasSlot : f.hasSlot with
  | false =>
    have enough : more = [] ∨ g.variadic = true := Classical.or_iff_not_imp_left.mpr variadic
    simpa [has.noSlot hasSlot] using enough
  | true =>
    obtain ⟨l, held, -⟩ := has.slot hasSlot
    cases more with
    | nil => simp [held, List.take_length_add_append]
    | cons first rest =>
      have beyond := variadic (by simp)
      simp [held, beyond, List.take_length_add_append]

end Function

namespace Registry

def functions (r : Registry) : List Function := r.entries.flatMap (·.2)

theorem mem_functions_of_overloads {r : Registry} {name : String} {f : Function} (h : f ∈ r.overloads name) :
    f ∈ r.functions :=
  forall_overloads (P := fun e => ∀ f ∈ e.2, f ∈ r.functions)
    (fun e inside _ here => List.mem_flatMap.mpr ⟨e, inside, here⟩) (by simp) f h

theorem lookup_eq_some {r : Registry} {name : String} {f : Function} (found : r.lookup name types = some f) :
    f ∈ r.functions ∧ f.accepts types = true :=
  (mem_overloads_of_lookup found).imp_left mem_functions_of_overloads

end Registry

end FormCompiler
