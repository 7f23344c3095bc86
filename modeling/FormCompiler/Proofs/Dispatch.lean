import FormCompiler.Proofs.Consistency
import FormCompiler.Proofs.Locality
import FormCompiler.Proofs.Written

namespace FormCompiler

open Build (Meets Agree)
open IR (Inst Layout Value)

variable {ctx : Context} {s : Signature} {f : Function} {c b : Body}

def Monitor.stopAt (b : Body) (alarm : Fault) : Monitor where
  before c := c != b
  after _ _ _ := true
  alarm

namespace Body

/-- Whether one of the forms, or one inside of them at whatever depth, begins in `b`: it can be told whether the forms
are compiled under a monitor that stops there. -/
def Begins (ctx : Context) (forms : List Node) (b : Body) : Prop :=
  ∃ alarm, Body.fill ctx (Form.operandsUnder (.stopAt b alarm) ctx forms) {} ≠
    Body.fill ctx (Form.operands ctx forms) {}

theorem Begins.coded {forms : List Node} (begins : Begins ctx forms b) (linked : ctx.Linked s) : b.Coded ctx s := by
  obtain ⟨alarm, stopped⟩ := begins
  refine Classical.byContradiction fun other => stopped ?_
  have grants : (Contract.code ctx s).Grants (.stopAt b alarm) := by
    refine ⟨fun c coded => ?_, fun _ _ _ _ _ => rfl, fun _ _ _ _ _ => rfl⟩
    refine bne_iff_ne.mpr fun same => other ?_
    exact same ▸ coded
  exact (coded_fill_under linked grants forms).1.symm

def latest? (b : Body) : Option Inst := b.blocks[b.current]?.bind (·.insts.back?)

theorem latest?_append (inside : b.current < b.blocks.size) (i : Inst) : (b.append b.current i).latest? = some i := by
  have last : (b.append b.current i).blocks[b.current]? = b.blocks[b.current]?.map fun k =>
      { k with insts := k.insts.push i } := by
    rw [blocks_append, if_pos rfl]
  rw [latest?, show (b.append b.current i).current = b.current from rfl, last, Array.getElem?_eq_getElem inside]
  simp

/-- What a call of function `n` adds to a body, and what it results in: the value of the call itself, nothing, or the
value in a slot that was made for it and passed behind the arguments. -/
inductive Calls (returns : Ty) (n : Nat) (args : List Value) (d : Body) : Result → Body → Prop
  | value {l : Layout} (unmarked : returns.isMarked = false) (laid : returns.layout = .ok l) :
    Calls returns n args d (.ofValue d.current returns (.inst (d.nextPlace d.current) l))
      (d.append d.current (.call l n args))
  | void (unmarked : returns.isMarked = false) (void : returns.isVoid = true) :
    Calls returns n args d (.void d.current) (d.append d.current (.call .void n args))
  | slot {l : Layout} {slot : Value} (marked : returns.isMarked = true) (laid : returns.unmark.layout = .ok l)
    (made : slot = .inst (d.nextPlace d.current) (.pointer l)) :
    Calls returns n args d
      { (({} : Result).set d.current returns.unmark none).setSlot slot returns.unmark.pointerTo with slotUsed := true }
      ((d.append d.current (.alloca l)).append d.current (.call .void n (args ++ [slot])))

end Body

/-- The values of results, fetched one after another: each was at hand or is loaded from its slot. -/
inductive Result.Fetched : List Result → Body → List Value → Body → Prop
  | nil (c : Body) : Fetched [] c [] c
  | cons {r : Result} {rs : List Result} {v : Value} {vs : List Value} {c d e : Body} (first : r.getValue c = .ok v d)
    (others : Fetched rs d vs e) : Fetched (r :: rs) c (v :: vs) e

structure Body.EndsInCall (f : Function) (args : List Result) (c : Body) (r : Result) (e : Body) : Prop where
  retains : c.Retains e
  current : e.current = c.current
  call : ∃ result n args, f.symbol = some n ∧ e.latest? = some (.call result n args) ∧
    f.Called result (args.map Value.layout)
  made : ∃ n vs d, f.symbol = some n ∧ Result.Fetched args c vs d ∧ d.Calls f.returnType n vs r e

namespace Function

variable {f g : Function}

theorem required_of_fixed (fixed : f.isVariadic = false) : f.required = f.paramTypes.length := by
  simp [required, fixed, paramTypes]

/-- The arguments that a function takes: just those of its parameters, or any behind these if it is variadic. -/
def Takes (f : Function) (types : List Ty) : Prop :=
  if f.isVariadic then f.paramTypes.dropLast <+: types else f.paramTypes = types

theorem accepts_iff {types : List Ty} : f.accepts types = true ↔ f.Takes types := by
  cases variadic : f.isVariadic with
  | false =>
    have required := required_of_fixed variadic
    simp only [accepts, startsWithTypes, Takes, variadic, required, Bool.false_or, Bool.and_eq_true, decide_eq_true_eq,
      beq_iff_eq, Bool.false_eq_true, if_false]
    constructor
    · rintro ⟨⟨-, length⟩, front⟩
      rw [← length, List.take_length, length, List.take_length] at front
      exact front
    · rintro rfl
      simp
  | true =>
    have required : f.required = f.paramTypes.dropLast.length := by simp [required, variadic, paramTypes]
    simp only [accepts, startsWithTypes, Takes, variadic, required, Bool.true_or, Bool.and_true, Bool.and_eq_true,
      decide_eq_true_eq, beq_iff_eq, if_true]
    constructor
    · rintro ⟨enough, front⟩
      rw [List.length_take, Nat.min_eq_left enough] at front
      rw [List.prefix_iff_eq_take, ← front, List.length_dropLast, List.dropLast_eq_take]
    · intro front
      have same := List.prefix_iff_eq_take.mp front
      refine ⟨front.length_le, ?_⟩
      rw [← same, List.length_dropLast, ← List.dropLast_eq_take]

theorem accepts_self (fixed : f.isVariadic = false) : f.accepts f.paramTypes = true := by
  simp [accepts_iff, Takes, fixed]

theorem paramTypes_of_accepts {types : List Ty} (accepts : f.accepts types = true) (fixed : f.isVariadic = false) :
    f.paramTypes = types := by
  simpa [accepts_iff, Takes, fixed] using accepts

end Function

theorem Body.EndsInCall.of_same {g : Function} {rs : List Result} {r : Result} {e : Body}
    (h : Body.EndsInCall f rs c r e) (same : f.sameAs g = true) (number : f.symbol = g.symbol) :
    Body.EndsInCall g rs c r e := by
  obtain ⟨result, n, args, numbered, latest, called⟩ := h.call
  have returns := (Function.sameAs_iff.mp same).1
  exact ⟨h.retains, h.current, ⟨result, n, args, number ▸ numbered, latest, called.of_same same⟩,
    number ▸ returns ▸ h.made⟩

namespace Registry

variable {r : Registry} {name : String} {types : List Ty} {f : Function}

theorem lookup_of_apart (apart : ((r.overloads name).map Function.paramTypes).Nodup) (inside : f ∈ r.overloads name)
    (fixed : f.isVariadic = false) : r.lookup name f.paramTypes = some f := by
  have fits : f ∈ (r.overloads name).filter (·.accepts f.paramTypes) :=
    List.mem_filter.mpr ⟨inside, Function.accepts_self fixed⟩
  cases found : ((r.overloads name).filter (·.accepts f.paramTypes)).find? (fun g => !g.isVariadic) with
  | none => simpa [fixed] using List.find?_eq_none.mp found f fits
  | some g =>
    obtain ⟨registered, accepts⟩ := List.mem_filter.mp (List.mem_of_find?_eq_some found)
    have plain : g.isVariadic = false := by simpa using List.find?_some found
    have types := Function.paramTypes_of_accepts accepts plain
    obtain ⟨i, here, rfl⟩ := List.getElem_of_mem inside
    obtain ⟨j, there, rfl⟩ := List.getElem_of_mem registered
    obtain rfl : i = j := (List.getElem?_inj (by simpa using here) apart).mp (by simp [here, there, types])
    simp [lookup, found]

theorem only_of_apart (apart : ((r.overloads name).map Function.paramTypes).Nodup) (inside : f ∈ r.overloads name) :
    ∃ front back, r.overloads name = front ++ f :: back ∧ ∀ g ∈ front ++ back, g.paramTypes ≠ f.paramTypes := by
  obtain ⟨front, back, split⟩ := List.append_of_mem inside
  refine ⟨front, back, split, fun g other same => ?_⟩
  rw [split, List.map_append, List.map_cons, List.nodup_append, List.nodup_cons] at apart
  rcases List.mem_append.mp other with before | behind
  · exact apart.2.2 _ (List.mem_map_of_mem before) _ List.mem_cons_self same
  · exact apart.2.1.1 (List.mem_map.mpr ⟨g, behind, same⟩)

theorem lookup_of_variadic (others : ∀ f ∈ r.overloads name, f.isVariadic = false → f.paramTypes ≠ types) :
    r.lookup name types = (r.overloads name).find? fun f => f.isVariadic && f.paramTypes.dropLast.isPrefixOf types := by
  have fitting : (r.overloads name).filter (·.accepts types) =
      (r.overloads name).filter fun f => f.isVariadic && f.paramTypes.dropLast.isPrefixOf types := by
    refine List.filter_congr fun f inside => ?_
    have other := others f inside
    rw [Bool.eq_iff_iff, Function.accepts_iff, Function.Takes]
    cases variadic : f.isVariadic with
    | false => simpa [variadic] using other
    | true => simp [List.isPrefixOf_iff_prefix]
  have variadic : ((r.overloads name).filter (·.accepts types)).find? (fun f => !f.isVariadic) = none := by
    rw [fitting, List.find?_eq_none]
    intro f inside
    simpa using (Bool.and_eq_true_iff.mp (List.mem_filter.mp inside).2).1
  rw [lookup, variadic, fitting, List.head?_filter]
  rfl

theorem lookup_eq_none_iff : r.lookup name types = none ↔ ∀ f ∈ r.overloads name, ¬f.Takes types := by
  simp only [lookup, Option.orElse_eq_orElse, Option.orElse_eq_or, Option.or_eq_none_iff, List.find?_eq_none,
    List.head?_eq_none_iff, List.filter_eq_nil_iff, Function.accepts_iff]
  refine ⟨And.right, fun none => ⟨fun f inside => ?_, none⟩⟩
  obtain ⟨registered, accepts⟩ := List.mem_filter.mp inside
  exact absurd (Function.accepts_iff.mp accepts) (none f registered)

end Registry

namespace Form

variable {ctx : Context} {paren head : Token} {args : List Node} {b c : Body} {rs : List Result} {f : Function}

theorem compile_eq_emit (symbol : head.kind = .symbol) (plain : (splitQualified head.literal).1 = "")
    (compiled : Operand.compileAll (operands ctx args) b = .ok rs c)
    (found : ctx.registry.lookup head.literal (rs.map (·.type)) = some f) (demand : Demand) :
    compile ctx (.list paren (.atom head :: args)) demand b =
      Call.emit ⟨paren, head, operands ctx args⟩ f rs demand c := by
  have split : splitQualified head.literal = ("", head.literal) := by
    have whole := splitQualified_of_plain (Prod.ext plain rfl)
    exact Prod.ext plain whole
  have known : ctx.registry.has head.literal = true := by
    rw [Registry.has_eq_isSome]
    cases none : ctx.registry.entries.lookup head.literal with
    | none => simp [Registry.lookup, Registry.overloads, none] at found
    | some fs => rfl
  have fits : fitting ctx head.literal (some rs) = some (rs, f) := by simp [fitting, found]
  simp only [compile, operands, compileList, symbol, if_true, compileInvocation, split, known]
  cases Builtin.ofName? head.literal with
  | none =>
    simp only [Call.compile]
    rw [Build.bind_of_ok compiled]
    simp only [found]
  | some form =>
    have tried : Build.attempt (Operand.compileAll (operands ctx args)) b = .ok (some rs) c := by
      simp only [Build.attempt, compiled]
    show ((Build.attempt (Operand.compileAll (operands ctx args))) >>= _) b = _
    rw [Build.bind_of_ok tried]
    simp only [fits]

end Form

namespace Call

variable {ctx : Context} {s : Signature} {o b : Body}

theorem values_succeed (sound : b.Sound) (head : Token) (position : Nat) {args : List (Token × Result)}
    (each : ∀ a ∈ args, a.2.Sound ∧ a.2.type.isVoid = false) :
    Meets b (values head position args) (fun _ c => c.Sound) fun _ _ => False := by
  induction args generalizing position b with
  | nil => exact .pure sound
  | cons a rest ih =>
    obtain ⟨token, r⟩ := a
    obtain ⟨ready, value⟩ := each _ List.mem_cons_self
    have given : ¬(r.type = .missing || r.type.isVoid) = true := by simp [ready.known, value]
    simp only [values]
    rw [if_neg given]
    refine .pure_bind (.bind (Result.typed_getValue sound ready value) ?_)
    rintro v c ⟨sound, -⟩
    exact .bind (ih sound (position + 1) fun a inside => each a (List.mem_cons_of_mem _ inside)) fun _ _ sound =>
      .pure sound

theorem exists_values (made : Body.Made ctx s o b) (head : Token) (position : Nat) {args : List (Token × Result)}
    (each : ∀ a ∈ args, (∃ k, o.Fills k ∧ a.2.Ready s b k) ∧ a.2.type.isVoid = false) :
    ∃ vs c, values head position args b = .ok vs c ∧ Body.Emits ctx s o b c ∧
      args.map (·.2.type.layout) = vs.map fun v => .ok v.layout := by
  have sound : ∀ a ∈ args, a.2.Sound ∧ a.2.type.isVoid = false := by
    intro a inside
    obtain ⟨⟨k, -, ready⟩, value⟩ := each a inside
    exact ⟨ready.sound, value⟩
  obtain ⟨vs, c, run, -⟩ := (values_succeed made.coded.sound head position sound).exists_ok
  obtain ⟨emits, -, layouts⟩ := (coded_values made head position fun a inside => (each a inside).1).ok run
  exact ⟨vs, c, run, emits, layouts⟩

theorem fetched_values (head : Token) (position : Nat) (args : List (Token × Result)) (c : Body) :
    Meets c (values head position args) (Result.Fetched (args.map (·.2)) c) fun _ _ => True := by
  induction args generalizing position c with
  | nil => exact .pure (.nil c)
  | cons a rest ih =>
    obtain ⟨token, r⟩ := a
    rw [values]
    refine .ite (fun _ => .complain_bind trivial) fun _ => ?_
    refine .bind ((Meets.self c r.getValue).mono (fun _ _ first => first) fun _ _ _ => trivial) fun v d first => ?_
    exact .bind (ih (position + 1) d) fun vs e others => .pure (.cons first others)

/-- Only a function with a slot needs room for what it returns. -/
theorem emit_of_values {call : Invocation} {callee : Function} {args : List Result} {vs : List Value} {d : Body}
    {n : Nat} (run : values call.head 1 (call.tokens.zip args) c = .ok vs d) (symbol : callee.symbol = some n)
    (has : callee.HasSignature s) : ∃ (r : Result) (e : Body),
      (∀ demand, emit call callee args demand c = r.deliver call.paren demand e) ∧
      d.Calls callee.returnType n vs r e := by
  cases slot : callee.hasSlot with
  | true =>
    obtain ⟨l, -, laid⟩ := has.slot slot
    refine ⟨_, _, fun demand => ?_, .slot slot laid rfl⟩
    rw [emit, Build.bind_of_ok run]
    simp only [Call.symbol, symbol, slot, if_true, Build.layout, laid]
    rfl
  | false =>
    cases void : callee.returnType.isVoid with
    | true =>
      refine ⟨_, _, fun demand => ?_, .void slot void⟩
      rw [emit, Build.bind_of_ok run]
      simp only [Call.symbol, symbol, slot, void, if_true, Bool.false_eq_true, if_false]
      rfl
    | false =>
      have laid : callee.returnType.layout = .ok s.result := by
        have plain : callee.returnType.isMarked = false := slot
        simpa [Ty.returnLayout, plain, void] using has.result
      refine ⟨_, _, fun demand => ?_, .value slot laid⟩
      rw [emit, Build.bind_of_ok run]
      simp only [Call.symbol, symbol, slot, void, Bool.false_eq_true, if_false, Build.layout, laid]
      rfl

end Call

namespace Body.Calls

variable {d e : Body} {n : Nat} {vs : List Value} {r : Result}

theorem retains (h : d.Calls f.returnType n vs r e) : d.Retains e ∧ e.current = d.current := by
  have appended (i : Inst) := Body.retains_append d d.current i
  cases h with
  | value | void => exact ⟨appended _, rfl⟩
  | slot => exact ⟨(appended _).trans (Body.retains_append _ _ _), rfl⟩

theorem type (h : d.Calls f.returnType n vs r e) : r.type = f.returnType.unmark := by
  cases h with
  | value unmarked => exact (Ty.unmark_of_not_isMarked unmarked).symm
  | slot => rfl
  | void _ void =>
    obtain ⟨m, same⟩ := Ty.eq_of_isVoid void
    rw [same]
    rfl

theorem latest (h : d.Calls f.returnType n vs r e) (has : f.HasSignature s) (inside : d.current < d.blocks.size) :
    ∃ more, e.latest? = some (.call s.result n (vs ++ more)) ∧
      more.map Value.layout = (s.slot.map Layout.pointer).toList := by
  have plain (l : Layout) := Body.latest?_append inside (.call l n vs)
  cases h with
  | value unmarked laid =>
    refine ⟨[], ?_, by simp [has.noSlot unmarked]⟩
    rw [has.result_of_value unmarked ((Ty.unmark_of_not_isMarked unmarked).symm ▸ laid), List.append_nil]
    exact plain _
  | void unmarked void =>
    refine ⟨[], ?_, by simp [has.noSlot unmarked]⟩
    rw [has.result_of_void void, List.append_nil]
    exact plain .void
  | @slot l place marked laid made =>
    obtain ⟨l', held, laid'⟩ := has.slot marked
    obtain rfl := Except.ok.inj (laid.symm.trans laid')
    refine ⟨[place], ?_, by simp [held, made, Value.layout]⟩
    have room : (d.append d.current (.alloca l)).current < (d.append d.current (.alloca l)).blocks.size := by
      rw [Body.size_append]
      exact inside
    rw [has.result_of_slot marked]
    exact Body.latest?_append room _

end Body.Calls

namespace Function

theorem HasSignature.exists_layout (has : f.HasSignature s) (orderly : f.Orderly) (fixed : f.isVariadic = false)
    {t : Ty} (inside : t ∈ f.paramTypes) : ∃ l, t.layout = .ok l := by
  have laid := has.fixed
  rw [orderly.takeWhile_eq, required_of_fixed fixed, List.take_length] at laid
  have there : t.layout ∈ s.fixed.map .ok := laid ▸ List.mem_map_of_mem inside
  obtain ⟨l, -, same⟩ := List.mem_map.mp there
  exact ⟨l, same.symm⟩

end Function

theorem Result.exists_address {o e : Body} {r : Result} (made : Body.Made ctx s o e) (ready : r.Ready s e e.current)
    (value : r.type.isVoid = false) (token : Token) :
    ∃ (a : Result) (e' : Body), r.deliver token .address e = .ok a e' ∧ e.Retains e' ∧ r.getAddress e = .ok a e' := by
  obtain ⟨a, e', run, -⟩ := (Result.typed_getAddress made.coded.sound ready.sound value).exists_ok
  have coded := (Result.coded_getAddress made made.grown.fills ready value).ok run
  exact ⟨a, e', by simp only [deliver, Build.pinned, EStateM.adaptExcept, run], coded.1.retains, run⟩

theorem Call.exists_emit {o : Body} (linked : ctx.Linked s) (made : Body.Made ctx s o c) (call : Invocation)
    (known : f ∈ ctx.registry.functions) (fixed : f.isVariadic = false) {rs : List Result}
    (types : rs.map (·.type) = f.paramTypes) (enough : rs.length = call.operands.length)
    (each : ∀ r ∈ rs, ∃ k, o.Fills k ∧ r.Ready s c k) :
    ∃ (r : Result) (e : Body), Call.emit call f rs .value c = .ok r e ∧ r.type = f.returnType.unmark ∧
      Body.EndsInCall f rs c r e ∧ (f.returnType.isVoid = false → ∃ (a : Result) (e' : Body),
        Call.emit call f rs .address c = .ok a e' ∧ e.Retains e' ∧ r.getAddress e = .ok a e') := by
  obtain ⟨⟨t, has⟩, orderly, declared⟩ := linked.functions f known
  obtain ⟨n, numbered⟩ := Option.isSome_iff_exists.mp declared
  have accepts : f.accepts (rs.map (·.type)) = true := types ▸ Function.accepts_self fixed
  -- Every argument has the type of a parameter, and those can be stored: so there is a value to be passed.
  have passed : ∀ a ∈ call.tokens.zip rs, (∃ k, o.Fills k ∧ a.2.Ready s c k) ∧ a.2.type.isVoid = false := by
    intro a inside
    have argument := (List.of_mem_zip inside).2
    have typed : a.2.type ∈ f.paramTypes := types ▸ List.mem_map_of_mem argument
    obtain ⟨l, laid⟩ := has.exists_layout orderly fixed typed
    exact ⟨each a.2 argument, Ty.isVoid_of_layout laid⟩
  obtain ⟨vs, d, valued, emits, layouts⟩ := Call.exists_values made call.head 1 passed
  have fetched : Result.Fetched rs c vs d := by
    have enough : rs.length ≤ call.tokens.length := by simp [Invocation.tokens, enough]
    simpa [List.map_snd_zip enough] using (Call.fetched_values _ _ _ c).ok valued
  obtain ⟨r, e, delivered, calls⟩ := Call.emit_of_values valued numbered has
  obtain ⟨retains, current⟩ := calls.retains
  obtain ⟨more, latest, slot⟩ := calls.latest has emits.coded.inside
  have called := Function.called_of_accepts has orderly accepts (Call.layouts_of_zip enough layouts)
  rw [← slot, ← List.map_append] at called
  refine ⟨r, e, delivered .value, calls.type, ⟨emits.retains.trans retains, current.trans emits.current,
    ⟨t.result, n, vs ++ more, numbered, latest, called⟩, n, vs, d, numbered, fetched, calls⟩, fun value => ?_⟩
  obtain ⟨built, ready⟩ := (Call.coded_emit made linked call .value known accepts enough each).ok (delivered .value)
  rw [delivered]
  exact Result.exists_address built ready (by rw [calls.type, Ty.isVoid_unmark]; exact value) call.paren

theorem Form.exists_call (linked : ctx.Linked s) (coded : b.Coded ctx s) {head : Token}
    (registered : f ∈ ctx.registry.overloads head.literal)
    (apart : ((ctx.registry.overloads head.literal).map Function.paramTypes).Nodup) (fixed : f.isVariadic = false)
    (symbol : head.kind = .symbol) (plain : (splitQualified head.literal).1 = "") (paren : Token) {args : List Node}
    {rs : List Result} (compiled : Operand.compileAll (Form.operands ctx args) b = .ok rs c)
    (types : rs.map (·.type) = f.paramTypes) :
    ∃ (r : Result) (e : Body), Form.compile ctx (.list paren (.atom head :: args)) .value b = .ok r e ∧
      r.type = f.returnType.unmark ∧ Body.EndsInCall f rs c r e ∧
      (f.returnType.isVoid = false → ∃ (a : Result) (e' : Body),
        Form.compile ctx (.list paren (.atom head :: args)) .address b = .ok a e' ∧ e.Retains e' ∧
          r.getAddress e = .ok a e') := by
  have found : ctx.registry.lookup head.literal (rs.map (·.type)) = some f := by
    rw [types]
    exact Registry.lookup_of_apart apart registered fixed
  have kept := Form.kept_twins (Contract.code_inductive linked) (Contract.grants_silent _) args
  have run := compiled
  rw [Form.operands_eq_left (m := .silent)] at run
  obtain ⟨made, length, each⟩ := (Operand.coded_compileAll ⟨.refl b, coded⟩ kept).2.ok run
  have enough : rs.length = (Form.operands ctx args).length := by
    rw [length, Form.operands_eq_left (m := .silent), List.length_map]
  have emitted := Call.exists_emit linked made ⟨paren, head, Form.operands ctx args⟩
    (Registry.mem_functions_of_overloads registered) fixed types enough each
  simpa only [Form.compile_eq_emit symbol plain compiled found] using emitted

namespace CompilationUnit

variable {u : CompilationUnit} {d : Definition} {p : Placed}

theorem Placing.exists_overload (placing : u.Placing d p) {name : String}
    (registered : f ∈ u.registry.overloads name) :
    ∃ g ∈ (u.context d p).registry.overloads name, g.sameAs f = true ∧ g.symbol = f.symbol := by
  rcases Registry.mem_overloads_put registered d.name p.position p.function with kept | ⟨rfl, there⟩
  · exact ⟨f, kept, Function.sameAs_iff.mpr ⟨rfl, rfl⟩, rfl⟩
  · refine ⟨p.function, Registry.mem_overloads_put_self _ _ _ _, ?_⟩
    cases placing with
    | new => simp at there
    | known found =>
      obtain rfl := Option.some.inj ((Registry.getElem?_of_find? found).symm.trans there)
      obtain ⟨returns, params⟩ := Function.sameAs_iff.mp (Registry.find?_eq_some found).2
      exact ⟨Function.sameAs_iff.mpr ⟨returns.symm, params.symm⟩, rfl⟩

/-- Whatever is registered under an unqualified name can be called wherever a form begins in a definition. -/
theorem registered_callable (reached : u.Reached) {n : Node} (read : Definition.read n = .ok d)
    (placed : u.place d = .ok (some p)) {b : Body} (begins : Body.Begins (u.context d p) d.body b) {f : Function}
    (head : Token) (registered : f ∈ u.registry.overloads head.literal ∨
      f ∈ (u.context d p).registry.overloads head.literal)
    (fixed : f.isVariadic = false) (symbol : head.kind = .symbol) (plain : (splitQualified head.literal).1 = "")
    (paren : Token) {args : List Node} {rs : List Result} {c : Body}
    (compiled : Operand.compileAll (Form.operands (u.context d p) args) b = .ok rs c)
    (types : rs.map (·.type) = f.paramTypes) :
    ∃ (r : Result) (e : Body), Form.compile (u.context d p) (.list paren (.atom head :: args)) .value b = .ok r e ∧
      r.type = f.returnType.unmark ∧ Body.EndsInCall f rs c r e ∧
      (f.returnType.isVoid = false → ∃ (a : Result) (e' : Body),
        Form.compile (u.context d p) (.list paren (.atom head :: args)) .address b = .ok a e' ∧ e.Retains e' ∧
          r.getAddress e = .ok a e') := by
  have placing := placing_of_place placed
  have regular := (Definition.ends_read_regular n).ok read
  obtain ⟨links, consistent⟩ := reached.consistent
  obtain ⟨s, linked⟩ := placing.linked links regular
  have apart := (placing.consistent links.numbers consistent regular p.function.labels).apart_overloads head.literal
  obtain ⟨g, known, same, number⟩ : ∃ g ∈ (u.context d p).registry.overloads head.literal,
      g.sameAs f = true ∧ g.symbol = f.symbol := by
    rcases registered with before | now
    · exact placing.exists_overload before
    · exact ⟨f, now, Function.sameAs_iff.mpr ⟨rfl, rfl⟩, rfl⟩
  obtain ⟨returns, params⟩ := Function.sameAs_iff.mp same
  obtain ⟨r, e, run, type, ends, address⟩ := Form.exists_call linked (begins.coded linked) known apart
    ((Function.isVariadic_of_same same).trans fixed) symbol plain paren compiled (types.trans params.symm)
  exact ⟨r, e, run, returns ▸ type, ends.of_same same number, returns ▸ address⟩

/-- What names stand for in a unit: at its top level, or in the body of a definition. -/
inductive Resolves (u : CompilationUnit) : Registry → Prop
  | top : Resolves u u.registry
  | body {n : Node} {d : Definition} {p : Placed} (read : Definition.read n = .ok d)
    (placed : u.place d = .ok (some p)) : Resolves u (u.context d p).registry

theorem Reached.apart (reached : u.Reached) {r : Registry} (resolves : u.Resolves r) (name : String) :
    ((r.overloads name).map Function.paramTypes).Nodup := by
  obtain ⟨links, consistent⟩ := reached.consistent
  cases resolves with
  | top => exact consistent.apart_overloads name
  | @body n d p read placed =>
    have regular := (Definition.ends_read_regular n).ok read
    exact ((placing_of_place placed).consistent links.numbers consistent regular p.function.labels).apart_overloads name

/-- Which overload is called does not depend on the order of definition: the one that has just the types of the
arguments, or else the first variadic one that takes them. -/
theorem lookup_in_any_order (reached : u.Reached) {r : Registry} (resolves : u.Resolves r) (name : String)
    (types : List Ty) :
    (∀ f ∈ r.overloads name, f.isVariadic = false → f.paramTypes = types →
      (∃ front back, r.overloads name = front ++ f :: back ∧ ∀ g ∈ front ++ back, g.paramTypes ≠ types) ∧
        ∀ s : Registry, (s.overloads name).Perm (r.overloads name) → s.lookup name types = some f) ∧
    ((∀ f ∈ r.overloads name, f.isVariadic = false → f.paramTypes ≠ types) →
      r.lookup name types =
        (r.overloads name).find? fun f => f.isVariadic && f.paramTypes.dropLast.isPrefixOf types) ∧
    (r.lookup name types = none ↔ ∀ f ∈ r.overloads name, ¬f.Takes types) := by
  have apart := reached.apart resolves name
  refine ⟨fun f inside fixed same => ?_, Registry.lookup_of_variadic, Registry.lookup_eq_none_iff⟩
  subst same
  refine ⟨Registry.only_of_apart apart inside, fun s perm => ?_⟩
  exact Registry.lookup_of_apart ((perm.map _).nodup_iff.mpr apart) (perm.mem_iff.mpr inside) fixed

def knowing (name : String) (params : List Node) : CompilationUnit :=
  ((new "0").compileForm (none : Option Store) (.form [.word "def", .word name,
    .form [.word "fn", .word "extern", .word "int", .form params]])).unit

/-- A function is called though a variadic one stands before it that would take the argument as well. -/
theorem lookup_in_any_order_behind_variadic :
    let a : Node := .form [.word "a", .word "int"]
    let u := ((knowing "f" [a, .word "..."]).compileForm (none : Option Store) (.form [.word "def", .word "f",
      .form [.word "fn", .word "extern", .word "int", .form [a]]])).unit
    ∃ g f, u.registry.overloads "f" = [g, f] ∧ g.Takes [.int32] ∧ u.registry.lookup "f" [.int32] = some f ∧
      u.registry.lookup "f" [.int32, .int32] = some g ∧ u.registry.lookup "f" [] = none := by
  intro a u
  have reached : u.Reached := .form (.form (.new "0") none _) none _
  have facts : (u.registry.overloads "f").map (fun f => (f.isVariadic, f.paramTypes)) =
      [(true, [.int32, .variadic]), (false, [.int32])] := by
    decide +kernel
  obtain ⟨g, _, listed, first, facts⟩ := List.map_eq_cons_iff.mp facts
  obtain ⟨f, _, rfl, second, facts⟩ := List.map_eq_cons_iff.mp facts
  obtain rfl := List.map_eq_nil_iff.mp facts
  obtain ⟨variadic, params⟩ := Prod.mk.inj first
  obtain ⟨fixed, params'⟩ := Prod.mk.inj second
  refine ⟨g, f, listed, by simp [Function.Takes, variadic, params], ?_, ?_, ?_⟩
  · obtain ⟨found, -, -⟩ := lookup_in_any_order reached .top "f" [.int32]
    exact (found f (by simp [listed]) fixed params').2 u.registry (.refl _)
  · obtain ⟨-, found, -⟩ := lookup_in_any_order reached .top "f" [.int32, .int32]
    rw [found (by simp [listed, variadic, params']), listed]
    simp [variadic, params, List.isPrefixOf]
  · obtain ⟨-, -, found⟩ := lookup_in_any_order reached .top "f" []
    refine found.mpr ?_
    simp [listed, Function.Takes, variadic, params, fixed, params']

def returning (form : Node) : Node :=
  .form [.word "def", .word "g", .form [.word "fn", .word "extern", .word "int", .form [],
    .form [.word "return", form]]]

theorem exists_placed {n : Node} {P : Definition → Placed → Prop} [∀ d p, Decidable (P d p)]
    (h : ((Definition.read n).toOption.any fun d => (u.place d).toOption.any fun place =>
      place.any fun p => decide (P d p)) = true) :
    ∃ d p, Definition.read n = .ok d ∧ u.place d = .ok (some p) ∧ P d p := by
  cases read : Definition.read n with
  | error r => simp [read, Except.toOption] at h
  | ok d =>
    cases placed : u.place d with
    | error f => simp [read, placed, Except.toOption] at h
    | ok place =>
      cases place with
      | none => simp [read, placed, Except.toOption] at h
      | some p => exact ⟨d, p, rfl, placed, by simpa [read, placed, Except.toOption] using h⟩

def Entered (ctx : Context) (forms : List Node) : Prop :=
  Meets {} (Body.fill ctx (Form.operandsUnder (.stopAt Body.entry (.broken .incomplete)) ctx forms))
      (fun _ _ => False) (fun f _ => f = .broken .incomplete) ∧
    Meets {} (Body.fill ctx (Form.operands ctx forms)) (fun _ _ => True) fun f _ => f ≠ .broken .incomplete

instance (ctx : Context) (forms : List Node) : Decidable (Entered ctx forms) :=
  inferInstanceAs (Decidable (_ ∧ _))

theorem Entered.begins {forms : List Node} (h : Entered ctx forms) : Body.Begins ctx forms Body.entry := by
  refine ⟨.broken .incomplete, fun same => ?_⟩
  cases run : Body.fill ctx (Form.operandsUnder (.stopAt Body.entry (.broken .incomplete)) ctx forms) {} with
  | ok r c => exact h.1.ok run
  | error f c => exact h.2.error (same ▸ run) (h.1.error run)

/-- A function that shares its name with a built-in form. -/
theorem registered_callable_shared : let u := knowing "p+" [.form [.word "a", .word "int"]]
    ∃ d p f rs r e, Definition.read (returning (.form [.word "p+", .numeral 1])) = .ok d ∧
      u.place d = .ok (some p) ∧ f ∈ u.registry.overloads "p+" ∧
      Operand.compileAll (Form.operands (u.context d p) [.numeral 1]) Body.entry = .ok rs Body.entry ∧
      Form.compile (u.context d p) (.form [.word "p+", .numeral 1]) .value Body.entry = .ok r e ∧
      Body.EndsInCall f rs Body.entry r e := by
  intro u
  have facts : (∃ f ∈ u.registry.overloads "p+", f.isVariadic = false ∧ f.paramTypes = [.int32]) ∧
      ((Definition.read (returning (.form [.word "p+", .numeral 1]))).toOption.any fun d =>
        (u.place d).toOption.any fun place => place.any fun p => decide (Entered (u.context d p) d.body ∧
          Meets Body.entry (Operand.compileAll (Form.operands (u.context d p) [.numeral 1]))
            (fun rs c => rs.map (·.type) = [.int32] ∧ c = Body.entry) fun _ _ => False)) = true := by
    decide +kernel
  obtain ⟨⟨f, registered, fixed, params⟩, checked⟩ := facts
  obtain ⟨d, p, read, placed, entered, operands⟩ := exists_placed checked
  obtain ⟨rs, c, compiled, types, rfl⟩ := operands.exists_ok
  obtain ⟨r, e, run, -, ends, -⟩ := registered_callable (.form (.new "0") none _) read placed entered.begins
    (.synthetic "p+" "") (.inl registered) fixed rfl (by decide) _ compiled (types.trans params.symm)
  exact ⟨d, p, f, rs, r, e, read, placed, registered, compiled, run, ends⟩

/-- A function of a qualified name is registered like any other, but its name is that of no form. -/
theorem qualified_not_callable : let u := knowing "a.b" []
    ∃ d p f, Definition.read (returning (.form [.word "a.b"])) = .ok d ∧ u.place d = .ok (some p) ∧
      Body.Begins (u.context d p) d.body Body.entry ∧
      f ∈ u.registry.overloads "a.b" ∧ f.isVariadic = false ∧ f.paramTypes = [] ∧
      Operand.compileAll (Form.operands (u.context d p) []) Body.entry = .ok [] Body.entry ∧
      ∃ fault e, Form.compile (u.context d p) (.form [.word "a.b"]) .value Body.entry = .error fault e ∧
        fault.reports.map (·.id) = ["comp/namespace"] := by
  intro u
  have facts : (∃ f ∈ u.registry.overloads "a.b", f.isVariadic = false ∧ f.paramTypes = []) ∧
      ((Definition.read (returning (.form [.word "a.b"]))).toOption.any fun d =>
        (u.place d).toOption.any fun place => place.any fun p => decide (Entered (u.context d p) d.body ∧
          Meets Body.entry (Form.compile (u.context d p) (.form [.word "a.b"]) .value) (fun _ _ => False)
            fun f _ => f.reports.map (·.id) = ["comp/namespace"])) = true := by
    decide +kernel
  obtain ⟨⟨f, registered, fixed, params⟩, checked⟩ := facts
  obtain ⟨d, p, read, placed, entered, refused⟩ := exists_placed checked
  refine ⟨d, p, f, read, placed, entered.begins, registered, fixed, params, rfl, ?_⟩
  cases run : Form.compile (u.context d p) (.form [.word "a.b"]) .value Body.entry with
  | ok r e => exact (refused.ok run).elim
  | error fault e => exact ⟨fault, e, rfl, refused.error run⟩

end CompilationUnit

end FormCompiler
