import FormCompiler.Proofs.Outline

namespace FormCompiler

open Build (Meets Abreast Keeps)
open IR (Term Value Layout)

variable {b c : Body} {rs ss : List Result} {type : Ty}

def Settled (r : Result) (d : Body) (s : Result) (e : Body) : Prop := d.Matches e ∧ r.Matches s

inductive Result.MatchEach : List Result → List Result → Prop
  | nil : MatchEach [] []
  | cons {r s : Result} {rs ss : List Result} (h : r.Matches s) (others : MatchEach rs ss) :
    MatchEach (r :: rs) (s :: ss)

theorem Result.MatchEach.types (h : MatchEach rs ss) : rs.map (·.type) = ss.map (·.type) := by
  induction h with
  | nil => rfl
  | cons h _ ih => rw [List.map_cons, List.map_cons, h.type, ih]

theorem Result.block_materialise (r : Result) (b : Body) :
    Meets b r.materialise (fun s _ => s.block = r.block) fun _ _ => True := by
  unfold materialise
  split
  · exact .pure rfl
  · exact .bind (.any b _) fun _ c _ => .bind (.any c _) fun _ c _ => .bind (.any c _) fun _ c _ =>
      .bind (.any c _) fun _ c _ => .bind (.any c _) fun _ _ _ => .pure rfl

theorem Result.block_getAddress (r : Result) (b : Body) :
    Meets b r.getAddress (fun s _ => s.block = r.block) fun _ _ => True :=
  .bind (r.block_materialise b) fun _ _ same => .pure same

section Leaves

variable {b c : Body} (h : b.Matches c) {r s : Result}

include h

theorem Build.abreast_layout {t : Ty} (there : t.layout ≠ .error .missing) (token : Option Token) :
    Abreast b c (Build.pinned token (Build.layout t)) (Build.pinned token (Build.layout t)) fun l d l' e =>
      d.Matches e ∧ t.layout = .ok l ∧ l' = l := by
  cases laid : t.layout with
  | ok l =>
    have run (b : Body) : Build.pinned token (Build.layout t) b = .ok l b := by
      simp only [Build.pinned, Build.layout, laid]
      rfl
    exact .of_ok (run b) (run c) ⟨h, rfl, rfl⟩
  | error u =>
    have run (b : Body) : Build.pinned token (Build.layout t) b =
        .error (.complaint (.storage u.unsizedMessage) token) b := by
      cases u with
      | missing => exact absurd laid there
      | base | pointer | array =>
        simp only [Build.pinned, Build.layout, laid]
        rfl
    exact .of_error (run b) (run c) (Fault.matches_complaint rfl _ _)

theorem Build.abreast_read (n : Node) :
    Abreast b c (Build.ofReport (Ty.read n)) (Build.ofReport (Ty.read n)) fun t d t' e =>
      d.Matches e ∧ t.layout ≠ .error .missing ∧ t' = t := by
  have read := Ty.ends_read n
  cases outcome : Ty.read n with
  | ok t => exact .pure ⟨h, Ty.layout_ne_missing (read.ok outcome), rfl⟩
  | error report =>
    have proper : (Fault.reported report []).Proper := ⟨read.error outcome, by simp⟩
    exact .of_error rfl rfl proper.matches_self

theorem Build.abreast_emit (i j : IR.Inst) :
    Abreast b c (Build.emit i) (Build.emit j) fun v d w e =>
      d.Matches e ∧ v.layout = i.layout ∧ w.layout = j.layout :=
  .quiet h (Build.typed_emit h.left i) (Build.typed_emit h.right j) (Build.keeps_emit i) (Build.keeps_emit j)

theorem Build.abreast_store {v w target target' : Value} (fits : target.layout = .pointer v.layout)
    (fits' : target'.layout = .pointer w.layout) :
    Abreast b c (Build.store v target) (Build.store w target') fun _ d _ e => d.Matches e := by
  have put {b : Body} {v target : Value} (sound : b.Sound) (fits : target.layout = .pointer v.layout) :
      Meets b (Build.store v target) (fun _ d => d.Sound ∧ True) fun _ _ => False :=
    .mono (Build.typed_store sound fits) (fun _ _ sound => ⟨sound, trivial⟩) fun _ _ h => h
  refine .mono (.quiet h (put h.left fits) (put h.right fits') (Build.keeps_store _ _) (Build.keeps_store _ _)) ?_
  intro _ d _ e settled
  exact settled.1

theorem Build.abreast_known (rs : r.Matches s) :
    Abreast b c (Build.known r.type) (Build.known s.type) fun t d u e => d.Matches e ∧ t = r.type ∧ u = r.type := by
  have second : Meets c (Build.known s.type) (fun u e => e.Sound ∧ u = r.type) fun _ _ => False := by
    rw [rs.type]
    exact Build.typed_known h.right rs.right.known
  exact .quiet h (Build.typed_known h.left rs.left.known) second (Build.keeps_known _) (Build.keeps_known _)

theorem Result.abreast_getValue (rs : r.Matches s) (value : r.type.isVoid = false) :
    Abreast b c r.getValue s.getValue fun v d w e =>
      d.Matches e ∧ r.type.layout = .ok v.layout ∧ r.type.layout = .ok w.layout := by
  have first : Meets b r.getValue (fun v d => d.Sound ∧ r.type.layout = .ok v.layout) fun _ _ => False :=
    Result.typed_getValue h.left rs.left value
  have second : Meets c s.getValue (fun w e => e.Sound ∧ r.type.layout = .ok w.layout) fun _ _ => False := by
    rw [rs.type] at value ⊢
    exact Result.typed_getValue h.right rs.right value
  exact .quiet h first second r.keeps_getValue s.keeps_getValue

theorem Result.abreast_deliver (rs : r.Matches s) (token : Token) (demand : Demand) :
    Abreast b c (r.deliver token demand) (s.deliver token demand) Settled := by
  cases demand with
  | value => exact .pure ⟨h, rs⟩
  | address =>
    cases void : r.type.isVoid with
    | false =>
      have stored {b : Body} {r : Result} (sound : b.Sound) (hr : r.Sound) (value : r.type.isVoid = false) :
          Meets b (Build.pinned (some token) r.getAddress)
            (fun t d => d.Sound ∧ t.Sound ∧ t.type = r.type.pointerTo ∧ t.block = r.block) fun _ _ => False := by
        have typed : Meets b r.getAddress (fun t d => d.Sound ∧ t.Sound ∧ t.type = r.type.pointerTo) fun _ _ => False :=
          Result.typed_getAddress sound hr value
        refine .pinned (.mono (typed.and (r.block_getAddress b)) ?_ fun _ _ h => h.1)
        rintro t d ⟨⟨sound, ht, type⟩, block⟩
        exact ⟨sound, ht, type, block⟩
      have first := stored h.left rs.left void
      have second := stored h.right rs.right (rs.type ▸ void)
      refine .mono (.quiet h first second (.pinned _ r.keeps_getAddress) (.pinned _ s.keeps_getAddress)) ?_
      rintro t d u e ⟨h, ⟨ht, type, block⟩, hu, type', block'⟩
      exact ⟨h, ht, hu, by rw [block, block', rs.block], by rw [type, type', rs.type]⟩
    | true =>
      have first := Result.typed_getAddress_void h.left rs.left void
      have second := Result.typed_getAddress_void h.right rs.right (rs.type ▸ void)
      have fails {r : Result} {b : Body} (failing : Meets b r.getAddress (fun _ _ => False) fun f c =>
          c.Sound ∧ f = .unsized r.type) :
          ∃ d, Build.pinned (some token) r.getAddress b =
            .error (.complaint (.storage r.type.unsizedMessage) (some token)) d := by
        cases run : r.getAddress b with
        | ok t d => exact (failing.ok run).elim
        | error f d =>
          obtain ⟨-, rfl⟩ := failing.error run
          exact ⟨d, by simp only [Build.pinned, EStateM.adaptExcept, run]; rfl⟩
      obtain ⟨d, run⟩ := fails first
      obtain ⟨e, run'⟩ := fails second
      rw [← rs.type] at run'
      exact .of_error run run' (Fault.matches_complaint rfl _ _)

theorem Atom.abreast_constant (laid : type.layout = .ok (.int type.constantBits)) (n : Int) (token : Token)
    (demand : Demand) :
    Abreast b c (Atom.constant type n >>= fun r => r.deliver token demand)
      (Atom.constant type n >>= fun r => r.deliver token demand) Settled :=
  .get_bind (Result.abreast_deliver h (h.ofValue laid laid) token demand)

theorem Atom.abreast_reference (token : Token) (demand : Demand) :
    Abreast b c (Atom.reference token demand) (Atom.reference token demand) Settled := by
  refine .get_bind ?_
  rcases h.find? token.literal with ⟨none, none'⟩ | ⟨v, w, found, found', type⟩
  · simp only [none, none']
    exact .complain rfl _ _
  · simp only [found, found']
    obtain ⟨l, laid, stored⟩ := h.left.find? found
    obtain ⟨l', laid', stored'⟩ := h.right.find? found'
    rw [← type] at laid' ⊢
    obtain rfl : l = l' := Except.ok.inj (laid.symm.trans laid')
    cases demand with
    | address =>
      have pointer := Ty.layout_pointerTo laid
      exact .get_bind (.pure ⟨h, h.ofValue (by rw [stored, pointer]) (by rw [stored', pointer])⟩)
    | value =>
      refine .bind (Build.abreast_layout h (by simp [laid]) _) ?_
      rintro k d k' e ⟨h, same, same'⟩
      obtain rfl : l = k := Except.ok.inj (laid.symm.trans same)
      rw [same']
      refine .bind (Build.abreast_emit h _ _) ?_
      rintro loaded d loaded' e ⟨h, layout, layout'⟩
      exact .get_bind (.pure ⟨h, h.stored laid layout layout' stored stored'⟩)

theorem Atom.abreast_compile (token : Token) (demand : Demand) :
    Abreast b c (Atom.compile token demand) (Atom.compile token demand) Settled := by
  unfold Atom.compile
  split
  · split
    · exact Atom.abreast_constant h rfl _ _ _
    · exact .complain rfl _ _
  · exact Atom.abreast_constant h rfl _ _ _
  · exact Atom.abreast_constant h rfl _ _ _
  · exact Atom.abreast_reference h _ _
  · exact .complain rfl _ _

theorem Call.abreast_values (head : Token) (position : Nat) (tokens : List Token) (each : Result.MatchEach rs ss) :
    Abreast b c (Call.values head position (tokens.zip rs)) (Call.values head position (tokens.zip ss))
      fun _ d _ e => d.Matches e := by
  induction each generalizing b c position tokens with
  | nil =>
    rw [List.zip_nil_right]
    exact .pure h
  | @cons r s rs ss first _ ih =>
    cases tokens with
    | nil => exact .pure h
    | cons token tokens =>
      simp only [List.zip_cons_cons, Call.values, ← first.type]
      refine .ite (fun _ => .complain_bind rfl _ _) fun value => ?_
      simp only [Bool.or_eq_true, not_or, Bool.not_eq_true] at value
      refine .bind (Result.abreast_getValue h first value.2) ?_
      rintro v d w e ⟨h, -⟩
      refine .bind (ih h (position + 1) tokens) ?_
      intro vs d ws e h
      exact .pure h

end Leaves

theorem Pointer.abreast_element (h : b.Matches c) (like : type.isPointerLike = true) (token : Token) :
    Abreast b c (Pointer.element type.decay token) (Pointer.element type.decay token) fun l d l' e =>
      d.Matches e ∧ (∃ t, type.pointee? = some t ∧ t.layout = .ok l) ∧ l' = l := by
  obtain ⟨t, pointee⟩ := Option.isSome_iff_exists.mp like
  simp only [Pointer.element, Ty.pointee?_decay, pointee, Build.demand]
  refine .pure_bind ?_
  split
  · rename_i l laid
    exact .pure ⟨h, ⟨t, rfl, laid⟩, rfl⟩
  · exact .complain rfl _ _

theorem Control.outline_returnValue (fn : Function) (v : Value) (b : Body) :
    Meets b (Control.returnValue fn v) (fun t _ => t.outline = .ret none) fun _ _ => True :=
  .ite (fun _ => .bind (.any b _) fun _ c _ => .bind (.any c _) fun _ _ _ => .pure rfl) fun _ => .pure rfl

/-- A function whatever way its result is passed. -/
def Function.plain (f : Function) : Function := { f with returnType := f.returnType.unmark }

namespace Call

def pass (paren : Token) (callee : Function) (symbol : Nat) (vs : List Value) : Build Result := do
  if callee.hasSlot then
    let type := callee.returnType.unmark
    let layout ← Build.pinned (some paren) (Build.layout type)
    let slot ← Build.emit (.alloca layout)
    let _ ← Build.emit (.call .void symbol (vs ++ [slot]))
    return { (({} : Result).set (← get).current type none).setSlot slot type.pointerTo with slotUsed := true }
  else if callee.returnType.isVoid then
    let _ ← Build.emit (.call .void symbol vs)
    return Result.void (← get).current
  else
    let layout ← Build.pinned (some paren) (Build.layout callee.returnType)
    let v ← Build.emit (.call layout symbol vs)
    return Result.ofValue (← get).current callee.returnType v

theorem emit_eq (call : Invocation) (callee : Function) (args : List Result) (demand : Demand) :
    emit call callee args demand = (do
      let vs ← values call.head 1 (call.tokens.zip args)
      let symbol ← symbol callee
      let r ← pass call.paren callee symbol vs
      r.deliver call.paren demand) := by
  unfold emit pass
  congr 1
  funext vs
  congr 1
  funext symbol
  split
  · simp only [bind_assoc, pure_bind]
  · split
    · simp only [bind_assoc, pure_bind]
    · simp only [bind_assoc, pure_bind]

theorem keeps_pass (paren : Token) (callee : Function) (symbol : Nat) (vs : List Value) :
    Keeps (pass paren callee symbol vs) := by
  have laid (t : Ty) := (Build.keeps_layout t).pinned (some paren)
  refine .ite ?_ (.ite ?_ ?_)
  · exact .bind (laid _) fun _ => .bind (Build.keeps_emit _) fun _ => .bind (Build.keeps_emit _) fun _ =>
      .get_bind fun _ => .pure _
  · exact .bind (Build.keeps_emit _) fun _ => .get_bind fun _ => .pure _
  · exact .bind (laid _) fun _ => .bind (Build.keeps_emit _) fun _ => .get_bind fun _ => .pure _

theorem typed_pass (sound : b.Sound) (paren : Token) {callee : Function} (known : callee.Sound) (symbol : Nat)
    (vs : List Value) :
    Meets b (pass paren callee symbol vs)
      (fun r d => d.Sound ∧ r.Sound ∧ r.type = callee.returnType.unmark ∧ r.block = some d.current)
      fun _ _ => False := by
  have laid {b : Body} (sound : b.Sound) {t : Ty} {l : Layout} (laid : t.layout = .ok l) :
      Meets b (Build.pinned (some paren) (Build.layout t)) (fun k d => d.Sound ∧ k = l) fun _ _ => False := by
    refine .pinned ?_
    simp only [Build.layout, laid]
    exact .pure ⟨sound, rfl⟩
  refine .ite (fun slot => ?_) fun none => .ite (fun void => ?_) fun value => ?_
  · obtain ⟨l, fits⟩ := known.slot slot
    refine .bind (laid sound fits) ?_
    rintro k d ⟨sound, same⟩
    subst same
    refine .bind (Build.typed_emit sound _) ?_
    rintro place d ⟨sound, layout⟩
    refine .bind (Build.typed_emit sound _) ?_
    rintro _ d ⟨sound, -⟩
    exact .get_bind (.pure ⟨sound, Result.sound_slot fits layout _, rfl, rfl⟩)
  · refine .bind (Build.typed_emit sound _) ?_
    rintro _ d ⟨sound, -⟩
    have type : callee.returnType.unmark = .void := by
      obtain ⟨m, same⟩ := Ty.eq_of_isVoid void
      rw [same]
      rfl
    exact .get_bind (.pure ⟨sound, Result.sound_void _, type.symm, rfl⟩)
  · have none : callee.hasSlot = false := by simpa using none
    obtain ⟨l, fits⟩ := known.returned none (by simpa using value)
    refine .bind (laid sound fits) ?_
    rintro k d ⟨sound, same⟩
    subst same
    refine .bind (Build.typed_emit sound _) ?_
    rintro v d ⟨sound, layout⟩
    have type : callee.returnType.layout = .ok v.layout := by rw [fits, layout]; rfl
    exact .get_bind (.pure ⟨sound, Result.sound_ofValue type _, (Ty.unmark_of_not_isMarked none).symm, rfl⟩)

theorem abreast_emit (h : b.Matches c) (call : Invocation) {callee callee' : Function} (known : callee.Sound)
    (known' : callee'.Sound) (same : callee.plain = callee'.plain) (each : Result.MatchEach rs ss) (demand : Demand) :
    Abreast b c (emit call callee rs demand) (emit call callee' ss demand) Settled := by
  have type : callee.plain.returnType = callee'.plain.returnType := by rw [same]
  have symbol : callee.plain.symbol = callee'.plain.symbol := by rw [same]
  obtain ⟨n, first⟩ := Option.isSome_iff_exists.mp known.declared
  have second : callee'.symbol = some n := symbol.symm.trans first
  rw [emit_eq, emit_eq]
  refine .bind (abreast_values h call.head 1 call.tokens each) ?_
  intro vs d ws e h
  simp only [Call.symbol, first, second]
  refine .pure_bind (.quiet_bind h (typed_pass h.left _ known n vs) (typed_pass h.right _ known' n ws)
    (keeps_pass _ _ _ _) (keeps_pass _ _ _ _) ?_)
  intro r d s e h passed passed'
  obtain ⟨hr, hasType, block⟩ := passed
  obtain ⟨hs, hasType', block'⟩ := passed'
  have results : r.Matches s := ⟨hr, hs, by rw [block, block', h.current], hasType.trans (type.trans hasType'.symm)⟩
  exact Result.abreast_deliver h results _ _

end Call

def Registry.plain (r : Registry) : Registry := ⟨r.entries.map fun e => (e.1, e.2.map Function.plain)⟩

namespace Registry

theorem has_plain (r : Registry) (name : String) : r.plain.has name = r.has name := by
  simp [has, plain, List.any_map, Function.comp_def]

theorem lookup_plain (r : Registry) (name : String) (types : List Ty) :
    r.plain.lookup name types = (r.lookup name types).map Function.plain :=
  r.lookup_mapFunctions name types (fun _ => rfl) fun _ => rfl

end Registry

def Context.plain (ctx : Context) : Context := ⟨ctx.registry.plain, ctx.name, ctx.function.plain⟩

structure Context.Matches (ctx ctx' : Context) : Prop where
  left : ctx.Sound
  right : ctx'.Sound
  plain : ctx.plain = ctx'.plain

namespace Context.Matches

variable {ctx ctx' : Context} (m : ctx.Matches ctx')

include m

theorem name : ctx.name = ctx'.name := by
  show ctx.plain.name = ctx'.plain.name
  rw [m.plain]

theorem registry : ctx.registry.plain = ctx'.registry.plain := by
  show ctx.plain.registry = ctx'.plain.registry
  rw [m.plain]

theorem function : ctx.function.plain = ctx'.function.plain := by
  show ctx.plain.function = ctx'.plain.function
  rw [m.plain]

theorem returnType : ctx.function.returnType.unmark = ctx'.function.returnType.unmark := by
  show ctx.function.plain.returnType = ctx'.function.plain.returnType
  rw [m.function]

theorem params : ctx.function.params = ctx'.function.params := by
  show ctx.function.plain.params = ctx'.function.plain.params
  rw [m.function]

theorem has (name : String) : ctx.registry.has name = ctx'.registry.has name := by
  rw [← Registry.has_plain, m.registry, Registry.has_plain]

theorem lookup (name : String) (types : List Ty) :
    ctx.registry.lookup name types = none ∧ ctx'.registry.lookup name types = none ∨
      ∃ f g, ctx.registry.lookup name types = some f ∧ ctx'.registry.lookup name types = some g ∧
        f.plain = g.plain := by
  have same : (ctx.registry.lookup name types).map Function.plain =
      (ctx'.registry.lookup name types).map Function.plain := by
    rw [← Registry.lookup_plain, ← Registry.lookup_plain, m.registry]
  cases first : ctx.registry.lookup name types with
  | none =>
    rw [first] at same
    exact .inl ⟨rfl, Option.map_eq_none_iff.mp same.symm⟩
  | some f =>
    rw [first] at same
    obtain ⟨g, second, eq⟩ := Option.map_eq_some_iff.mp same.symm
    exact .inr ⟨f, g, rfl, second, eq.symm⟩

end Context.Matches

def Node.Abreast (ctx ctx' : Context) (n : Node) : Prop :=
  ∀ demand b c, b.Matches c → Build.Abreast b c (Form.compile ctx n demand) (Form.compile ctx' n demand) Settled

section Forms

variable {ctx ctx' : Context} {b c : Body} {n : Node} {ns : List Node}

theorem Form.operands_cons (ctx : Context) (n : Node) (ns : List Node) :
    Form.operands ctx (n :: ns) = ⟨n, Form.compile ctx n⟩ :: Form.operands ctx ns := rfl

theorem Form.tokens_operands (paren head : Token) (ctx : Context) (ns : List Node) :
    Invocation.tokens ⟨paren, head, Form.operands ctx ns⟩ = ns.map (·.token) := by
  rw [Invocation.tokens]
  induction ns with
  | nil => rfl
  | cons n ns ih => rw [Form.operands_cons, List.map_cons, List.map_cons, ih]

theorem Form.length_operands (ctx : Context) (ns : List Node) : (Form.operands ctx ns).length = ns.length := by
  induction ns with
  | nil => rfl
  | cons n ns ih => rw [Form.operands_cons, List.length_cons, List.length_cons, ih]

theorem Form.emit_operands (paren head : Token) (ctx ctx' : Context) (ns : List Node) :
    Call.emit ⟨paren, head, Form.operands ctx' ns⟩ = Call.emit ⟨paren, head, Form.operands ctx ns⟩ := by
  funext callee args demand
  simp only [Call.emit, Form.tokens_operands]

theorem Control.abreast_afterTerminator (h : b.Matches c) :
    Abreast b c Control.afterTerminator Control.afterTerminator Settled := by
  have next : (b.startBlock "").Matches (c.startBlock "") := by
    refine ⟨h.left, h.right, ?_⟩
    rw [Body.outline_startBlock, Body.outline_startBlock, h.outline]
  refine .of_ok rfl rfl ⟨next, ?_⟩
  exact ⟨⟨rfl, rfl, .inl ⟨rfl, rfl⟩⟩, ⟨rfl, rfl, .inl ⟨rfl, rfl⟩⟩, congrArg some next.current, rfl⟩

theorem Control.abreast_finish (h : b.Matches c) {t u : Term} (same : t.outline = u.outline) :
    Abreast b c (Control.finish t) (Control.finish u) Settled := by
  have ended : (b.terminate b.current t).Matches (c.terminate c.current u) := by
    refine ⟨h.left, h.right, ?_⟩
    rw [Body.outline_terminate, Body.outline_terminate, h.outline, same, h.current]
  exact .changed_bind (Control.abreast_afterTerminator ended)

section Operands

variable (h : b.Matches c) (each : ∀ n ∈ ns, Node.Abreast ctx ctx' n)

include h each

theorem Operand.abreast_compileAll :
    Abreast b c (Operand.compileAll (Form.operands ctx ns)) (Operand.compileAll (Form.operands ctx' ns))
      fun rs d ss e => d.Matches e ∧ Result.MatchEach rs ss := by
  induction ns generalizing b c with
  | nil => exact .pure ⟨h, .nil⟩
  | cons n ns ih =>
    refine .bind (each n List.mem_cons_self .value b c h) ?_
    rintro r d s e ⟨h, first⟩
    refine .bind (ih h fun n inside => each n (List.mem_cons_of_mem _ inside)) ?_
    rintro rs d ss e ⟨h, others⟩
    exact .pure ⟨h, .cons first others⟩

theorem Operand.abreast_compileSequence :
    Abreast b c (Operand.compileSequence (Form.operands ctx ns)) (Operand.compileSequence (Form.operands ctx' ns))
      Settled := by
  induction ns generalizing b c with
  | nil => exact .get_bind (.pure ⟨h, h.void⟩)
  | cons n ns ih =>
    have first := each n List.mem_cons_self .value b c h
    cases ns with
    | nil => exact first
    | cons m ns =>
      refine .bind first ?_
      rintro r d s e ⟨h, -⟩
      exact ih h fun n inside => each n (List.mem_cons_of_mem _ inside)

theorem Variable.abreast_compileScope :
    Abreast b c (Variable.compileScope (Form.operands ctx ns)) (Variable.compileScope (Form.operands ctx' ns))
      Settled := by
  refine .inScope h.depth (.mono (Operand.abreast_compileSequence h.enter each) ?_)
  rintro r d s e ⟨h, results⟩
  exact ⟨h.leaveTo _, results⟩

theorem Pointer.abreast_offsets (paren head : Token) (ms : List Node) (subtract : Bool) (element : Layout)
    (position : Nat) {pointer pointer' : Value} (fits : pointer.layout = .pointer element)
    (fits' : pointer'.layout = .pointer element) :
    Abreast b c
      (Pointer.offsets ⟨paren, head, Form.operands ctx ms⟩ subtract element position (Form.operands ctx ns) pointer)
      (Pointer.offsets ⟨paren, head, Form.operands ctx' ms⟩ subtract element position (Form.operands ctx' ns) pointer')
      fun v d w e => d.Matches e ∧ v.layout = .pointer element ∧ w.layout = .pointer element := by
  induction ns generalizing b c position pointer pointer' with
  | nil => exact .pure ⟨h, fits, fits'⟩
  | cons n ns ih =>
    have others := fun n inside => each n (List.mem_cons_of_mem _ inside)
    refine .bind (each n List.mem_cons_self .value b c h) ?_
    rintro r d s e ⟨h, rs⟩
    refine .bind (Build.abreast_known h rs) ?_
    rintro type d type' e ⟨h, same, same'⟩
    subst same same'
    refine .ite (fun _ => .complain_bind rfl _ _) fun integral => ?_
    have value : r.type.isVoid = false := Ty.isVoid_of_isIntegral (by simpa using integral)
    refine .bind (Result.abreast_getValue h rs value) ?_
    rintro v d w e ⟨h, -⟩
    have widened {b : Body} (sound : b.Sound) (v : Value) :
        Meets b (Pointer.widen r.type v) (fun _ d => d.Sound ∧ True) fun _ _ => False :=
      .mono (Pointer.typed_widen sound r.type v) (fun _ _ sound => ⟨sound, trivial⟩) fun _ _ h => h
    refine .quiet_bind h (widened h.left v) (widened h.right w) (Pointer.keeps_widen _ _) (Pointer.keeps_widen _ _) ?_
    intro v d w e h _ _
    refine .ite (fun _ => ?_) fun _ => ?_
    · refine .bind (Build.abreast_emit h _ _) ?_
      rintro by_ d by' e ⟨h, -⟩
      refine .bind (Build.abreast_emit h _ _) ?_
      rintro next d next' e ⟨h, layout, layout'⟩
      exact ih h others _ layout layout'
    · refine .pure_bind (.bind (Build.abreast_emit h _ _) ?_)
      rintro next d next' e ⟨h, layout, layout'⟩
      exact ih h others _ layout layout'

theorem Pointer.abreast_compileOffset (paren head : Token) (subtract : Bool) (demand : Demand) :
    Abreast b c (Pointer.compileOffset ⟨paren, head, Form.operands ctx ns⟩ subtract demand)
      (Pointer.compileOffset ⟨paren, head, Form.operands ctx' ns⟩ subtract demand) Settled := by
  unfold Pointer.compileOffset
  match ns with
  | [] => exact .complain rfl _ _
  | [_] => exact .complain rfl _ _
  | n :: m :: ms =>
    have others : ∀ k ∈ m :: ms, Node.Abreast ctx ctx' k := fun k inside => each k (List.mem_cons_of_mem _ inside)
    refine .bind (each n List.mem_cons_self .value b c h) ?_
    rintro r d s e ⟨h, rs⟩
    refine .bind (Build.abreast_known h rs) ?_
    rintro type d type' e ⟨h, same, same'⟩
    subst same same'
    refine .ite (fun _ => .complain_bind rfl _ _) fun like => ?_
    refine .bind (Pointer.abreast_element h (by simpa using like) _) ?_
    rintro element d element' e ⟨h, ⟨t, points, laid⟩, same⟩
    subst same
    have pinned {b : Body} {r : Result} (sound : b.Sound) (hr : r.Sound) (points : r.type.pointee? = some t) :
        Meets b (Build.pinned (some n.token) (Pointer.base r)) (fun v d => d.Sound ∧ v.layout = .pointer element')
          fun _ _ => False :=
      .pinned (Pointer.typed_base sound hr points laid)
    refine .quiet_bind h (pinned h.left rs.left points) (pinned h.right rs.right (rs.type ▸ points))
      (.pinned _ (Pointer.keeps_base r)) (.pinned _ (Pointer.keeps_base s)) ?_
    intro pointer d pointer' e h layout layout'
    refine .bind (Pointer.abreast_offsets h others paren head (n :: m :: ms) subtract element' 1 layout layout') ?_
    rintro v d w e ⟨h, layout, layout'⟩
    have type := Ty.layout_decay points laid
    exact .get_bind (Result.abreast_deliver h (h.ofValue (by rw [type, layout]) (by rw [type, layout'])) _ _)

end Operands

section Operand

variable (h : b.Matches c) (node : Node.Abreast ctx ctx' n)

include h node

theorem Pointer.abreast_compileAddressOf (paren head : Token) (ms : List Node) (demand : Demand) :
    Abreast b c (Pointer.compileAddressOf ⟨paren, head, Form.operands ctx ms⟩ ⟨n, Form.compile ctx n⟩ demand)
      (Pointer.compileAddressOf ⟨paren, head, Form.operands ctx' ms⟩ ⟨n, Form.compile ctx' n⟩ demand) Settled := by
  refine .bind (node .address b c h) ?_
  rintro r d s e ⟨h, rs⟩
  exact Result.abreast_deliver h rs _ _

theorem Pointer.abreast_compileDereference (demand : Demand) :
    Abreast b c (Pointer.compileDereference ⟨n, Form.compile ctx n⟩ demand)
      (Pointer.compileDereference ⟨n, Form.compile ctx' n⟩ demand) Settled := by
  refine .bind (node .value b c h) ?_
  rintro r d s e ⟨h, rs⟩
  refine .bind (Build.abreast_known h rs) ?_
  rintro type d type' e ⟨h, same, same'⟩
  subst same same'
  dsimp only
  split
  · rename_i pointee m type
    have value : r.type.isVoid = false := by rw [type]; rfl
    refine .bind (Result.abreast_getValue h rs value) ?_
    rintro address d address' e ⟨h, layout, layout'⟩
    cases demand with
    | address => exact .get_bind (.pure ⟨h, h.ofValue layout layout'⟩)
    | value =>
      rw [type] at layout layout'
      refine .bind (Build.abreast_layout h (Ty.layout_ne_missing_of_pointer layout) _) ?_
      rintro l d l' e ⟨h, laid, same⟩
      rw [same]
      refine .bind (Build.abreast_emit h _ _) ?_
      rintro v d w e ⟨h, loaded, loaded'⟩
      have stored {a : Value} (layout : (Ty.pointer pointee m).layout = .ok a.layout) : a.layout = .pointer l := by
        rcases Ty.layout_of_pointer layout with void | ⟨k, same, stored⟩
        · simp [Ty.isVoid_of_layout laid] at void
        · rw [stored, Except.ok.inj (same.symm.trans laid)]
      exact .get_bind (.pure ⟨h, h.stored laid loaded loaded' (stored layout) (stored layout')⟩)
  · exact .complain rfl _ _

theorem Variable.abreast_initialise (name : String) {storage storage' : Value} {l : Layout}
    (laid : type.layout = .ok l) (stored : storage.layout = .pointer l) (stored' : storage'.layout = .pointer l) :
    Abreast b c (Variable.initialise name type storage ⟨n, Form.compile ctx n⟩)
      (Variable.initialise name type storage' ⟨n, Form.compile ctx' n⟩) fun _ d _ e => d.Matches e := by
  refine .bind (node .value b c h) ?_
  rintro r d s e ⟨h, rs⟩
  rw [← rs.type]
  refine .ite (fun _ => .complain_bind rfl _ _) fun same => ?_
  obtain rfl : r.type = type := by simpa using same
  refine .bind (Result.abreast_getValue h rs (Ty.isVoid_of_layout laid)) ?_
  rintro v d w e ⟨h, layout, layout'⟩
  have fits : l = v.layout := Except.ok.inj (laid.symm.trans layout)
  have fits' : l = w.layout := Except.ok.inj (laid.symm.trans layout')
  exact Build.abreast_store h (by rw [stored, fits]) (by rw [stored', fits'])

end Operand

theorem Variable.abreast_declare (h : b.Matches c) (name type : Node) (init : Option Node)
    (each : ∀ n ∈ init, Node.Abreast ctx ctx' n) :
    Abreast b c
      (Variable.declare ⟨name, Form.compile ctx name⟩ ⟨type, Form.compile ctx type⟩
        (init.map fun n => ⟨n, Form.compile ctx n⟩))
      (Variable.declare ⟨name, Form.compile ctx' name⟩ ⟨type, Form.compile ctx' type⟩
        (init.map fun n => ⟨n, Form.compile ctx' n⟩)) Settled := by
  simp only [Variable.declare]
  cases name.symbol? with
  | none => exact .complain rfl _ _
  | some x =>
    refine .bind (Build.abreast_read h _) ?_
    rintro declared d declared' e ⟨h, there, same⟩
    rw [same]
    refine .bind (Build.abreast_layout h there _) ?_
    rintro l d l' e ⟨h, laid, same⟩
    rw [same]
    refine .bind (Build.abreast_emit h _ _) ?_
    rintro storage d storage' e ⟨h, layout, layout'⟩
    have bound {b c : Body} (h : b.Matches c) : Body.Matches { b with env := b.env.add x ⟨declared, storage⟩ }
        { c with env := c.env.add x ⟨declared, storage'⟩ } :=
      h.bindName ⟨l, laid, layout⟩ ⟨l, laid, layout'⟩ rfl
    cases init with
    | none => exact .changed_bind (.get_bind (.pure ⟨bound h, (bound h).void⟩))
    | some n =>
      refine .bind (Variable.abreast_initialise h (each n rfl) x laid layout layout') ?_
      intro _ d _ e h
      exact .changed_bind (.get_bind (.pure ⟨bound h, (bound h).void⟩))

theorem Control.abreast_labelName (h : b.Matches c) (form : String) (n : Node) :
    Abreast b c (Control.labelName form ⟨n, Form.compile ctx n⟩) (Control.labelName form ⟨n, Form.compile ctx' n⟩)
      fun name d name' e => d.Matches e ∧ name' = name := by
  unfold Control.labelName
  dsimp only
  split
  · exact .pure ⟨h, rfl⟩
  · exact .complain rfl _ _

theorem Control.abreast_compileLabel (h : b.Matches c) (n : Node) :
    Abreast b c (Control.compileLabel ⟨n, Form.compile ctx n⟩) (Control.compileLabel ⟨n, Form.compile ctx' n⟩)
      Settled := by
  refine .bind (Control.abreast_labelName h _ n) ?_
  rintro name d name' e ⟨h, same⟩
  subst same
  refine .get_bind ?_
  rw [h.label? name']
  refine .ite (fun _ => .complain_bind rfl _ _) fun _ => ?_
  have next : (d.startLabel name').Matches (e.startLabel name') := by
    refine ⟨?_, ?_, by rw [Body.outline_startLabel, Body.outline_startLabel, h.outline]⟩
    · rw [Body.Sound, Body.env_startLabel]
      exact h.left
    · rw [Body.Sound, Body.env_startLabel]
      exact h.right
  exact .changed_bind (.get_bind (.pure ⟨next, next.void⟩))

theorem Control.abreast_compileGoto (h : b.Matches c) (n : Node) :
    Abreast b c (Control.compileGoto ⟨n, Form.compile ctx n⟩) (Control.compileGoto ⟨n, Form.compile ctx' n⟩)
      Settled := by
  refine .bind (Control.abreast_labelName h _ n) ?_
  rintro name d name' e ⟨h, same⟩
  subst same
  refine .get_bind ?_
  rw [h.label? name']
  split
  · exact Control.abreast_finish h rfl
  · have waiting : (d.addGoto ⟨name', d.current, some n.token⟩).Matches
        (e.addGoto ⟨name', e.current, some n.token⟩) := by
      refine ⟨h.left, h.right, ?_⟩
      rw [h.current]
      exact congrArg (fun o : Body => o.addGoto ⟨name', e.current, some n.token⟩) h.outline
    exact .changed_bind (Control.abreast_afterTerminator waiting)

theorem Variable.compile_of_arity (paren head : Token) (operands : List Operand)
    (wrong : operands.length ≠ 2 ∧ operands.length ≠ 3) :
    Variable.compile ⟨paren, head, operands⟩ =
      Build.complain (.arity "var" "two or three operands" operands.length) paren := by
  match operands with
  | [_, _] => exact absurd rfl wrong.1
  | [_, _, _] => exact absurd rfl wrong.2
  | [] | [_] | _ :: _ :: _ :: _ :: _ => rfl

section Operands

variable (m : ctx.Matches ctx') (h : b.Matches c) (each : ∀ n ∈ ns, Node.Abreast ctx ctx' n) (paren head : Token)
  (demand : Demand)

include h each

theorem Variable.abreast_compile : Abreast b c (Variable.compile ⟨paren, head, Form.operands ctx ns⟩)
    (Variable.compile ⟨paren, head, Form.operands ctx' ns⟩) Settled := by
  by_cases wrong : ns.length ≠ 2 ∧ ns.length ≠ 3
  · have arity (ctx : Context) := Variable.compile_of_arity paren head (Form.operands ctx ns)
      (by simpa only [Form.length_operands] using wrong)
    rw [arity ctx, arity ctx', Form.length_operands, Form.length_operands]
    exact .complain rfl _ _
  match ns with
  | [name, type] => exact Variable.abreast_declare h name type none (by simp)
  | [name, type, init] => exact Variable.abreast_declare h name type (some init) (by simpa using each init (by simp))
  | [] | [_] | _ :: _ :: _ :: _ :: _ => exact absurd (by simp) wrong

include m

theorem Control.abreast_compileReturn : Abreast b c (Control.compileReturn ctx ⟨paren, head, Form.operands ctx ns⟩)
    (Control.compileReturn ctx' ⟨paren, head, Form.operands ctx' ns⟩) Settled := by
  unfold Control.compileReturn
  simp only [← m.returnType]
  match ns with
  | [] =>
    refine .ite (fun _ => .complain_bind rfl _ _) fun _ => ?_
    exact Control.abreast_finish h rfl
  | [n] =>
    refine .bind (each n List.mem_cons_self .value b c h) ?_
    rintro r d s e ⟨h, rs⟩
    rw [← rs.type]
    -- The wording shows how the result is to be passed, the topic does not.
    have topic (s t t' : String) : (Complaint.returnType s t).topic = (Complaint.returnType s t').topic := rfl
    refine .ite (fun _ => .complain_bind (topic _ _ _) _ _) fun same => ?_
    simp only [Bool.or_eq_true, not_or, Bool.not_eq_true, bne_eq_false_iff_eq] at same
    obtain ⟨type, value⟩ := same
    refine .bind (Result.abreast_getValue h rs (by rw [type]; exact value)) ?_
    rintro v d w e ⟨h, layout, layout'⟩
    rw [type] at layout layout'
    have returned {b : Body} (sound : b.Sound) {fn : Function} {v : Value}
        (fits : fn.returnType.unmark.layout = .ok v.layout) :
        Meets b (Control.returnValue fn v) (fun t d => d.Sound ∧ t.outline = .ret none) fun _ _ => False := by
      have typed : Meets b (Control.returnValue fn v) (fun _ d => d.Sound) fun _ _ => False :=
        Control.typed_returnValue sound fits
      exact .mono (typed.and (Control.outline_returnValue fn v b)) (fun _ _ h => h) fun _ _ h => h.1
    refine .quiet_bind h (returned h.left layout) (returned h.right (m.returnType ▸ layout'))
      (Control.keeps_returnValue _ _) (Control.keeps_returnValue _ _) ?_
    intro t d u e h ends ends'
    exact Control.abreast_finish h (ends.trans ends'.symm)
  | _ :: _ :: ms =>
    simp only [Form.operands_cons, List.length_cons, Form.length_operands]
    exact .complain rfl _ _

theorem Builtin.abreast_compile (form : Builtin) :
    Abreast b c (form.compile ctx ⟨paren, head, Form.operands ctx ns⟩ demand)
      (form.compile ctx' ⟨paren, head, Form.operands ctx' ns⟩ demand) Settled := by
  have delivered (r : Result) (d : Body) (s : Result) (e : Body) (settled : Settled r d s e) :
      Abreast d e (r.deliver paren demand) (s.deliver paren demand) Settled :=
    Result.abreast_deliver settled.1 settled.2 paren demand
  by_cases wrong : form.isUnary = true ∧ ns.length ≠ 1
  · have arity (ctx : Context) : (Form.operands ctx ns).length ≠ 1 := by
      rw [Form.length_operands]
      exact wrong.2
    rw [Builtin.compile_of_arity wrong.1 (arity ctx), Builtin.compile_of_arity wrong.1 (arity ctx')]
    simp only [Form.length_operands]
    exact .complain rfl _ _
  have one (unary : form.isUnary = true) : ∃ n, ns = [n] :=
    List.length_eq_one_iff.mp (by simpa [unary] using wrong)
  cases form with
  | pointerAdd => exact Pointer.abreast_compileOffset h each paren head false demand
  | pointerSubtract => exact Pointer.abreast_compileOffset h each paren head true demand
  | sequence => exact .bind (Operand.abreast_compileSequence h each) delivered
  | scope => exact .bind (Variable.abreast_compileScope h each) delivered
  | declare => exact .bind (Variable.abreast_compile h each paren head) delivered
  | ret => exact .bind (Control.abreast_compileReturn m h each paren head) delivered
  | addressOf =>
    obtain ⟨n, rfl⟩ := one rfl
    exact Pointer.abreast_compileAddressOf h (each n List.mem_cons_self) paren head [n] demand
  | dereference =>
    obtain ⟨n, rfl⟩ := one rfl
    exact Pointer.abreast_compileDereference h (each n List.mem_cons_self) demand
  | label =>
    obtain ⟨n, rfl⟩ := one rfl
    exact .bind (Control.abreast_compileLabel h n) delivered
  | jump =>
    obtain ⟨n, rfl⟩ := one rfl
    exact .bind (Control.abreast_compileGoto h n) delivered

theorem Call.abreast_compile : Abreast b c (Call.compile ctx ⟨paren, head, Form.operands ctx ns⟩ demand)
    (Call.compile ctx' ⟨paren, head, Form.operands ctx' ns⟩ demand) Settled := by
  refine .bind (Operand.abreast_compileAll h each) ?_
  rintro rs d ss e ⟨h, results⟩
  dsimp only
  rw [← results.types]
  rcases m.lookup head.literal (rs.map (·.type)) with ⟨none, none'⟩ | ⟨f, g, found, found', same⟩
  · simp only [none, none']
    exact .complain rfl _ _
  · simp only [found, found', Form.emit_operands paren head ctx ctx' ns]
    exact Call.abreast_emit h _ (m.left.registry.lookup found) (m.right.registry.lookup found') same results demand

theorem Form.abreast_compileShared (form : Builtin) :
    Abreast b c (Form.compileShared ctx ⟨paren, head, Form.operands ctx ns⟩ demand form)
      (Form.compileShared ctx' ⟨paren, head, Form.operands ctx' ns⟩ demand form) Settled := by
  have builtin := Builtin.abreast_compile m h each paren head demand form
  have tried : Abreast b c (Build.attempt (Operand.compileAll (Form.operands ctx ns)))
      (Build.attempt (Operand.compileAll (Form.operands ctx' ns))) fun args d args' e =>
        (d.rollback b.mark = b ∧ e.rollback c.mark = c) ∧ (args = none ∧ args' = none ∨
          ∃ rs ss, args = some rs ∧ args' = some ss ∧ d.Matches e ∧ Result.MatchEach rs ss) := by
    have left := Form.meets_compileAll ctx ns b
    have right := Form.meets_compileAll ctx' ns c
    rcases (Operand.abreast_compileAll h each).ends with
      ⟨rs, d, ss, e, run, run', h, results⟩ | ⟨f, d, g, e, run, run', faults⟩
    · have back := And.intro (left.ok run).rollback_mark (right.ok run').rollback_mark
      refine .of_ok ?_ ?_ ⟨back, .inr ⟨rs, ss, rfl, rfl, h, results⟩⟩
      · simp only [Build.attempt, run]
      · simp only [Build.attempt, run']
    · have back := And.intro (left.error run).rollback_mark (right.error run').rollback_mark
      refine .of_ok ?_ ?_ ⟨back, .inl ⟨rfl, rfl⟩⟩
      · simp only [Build.attempt, run, faults.left.isUserFault, if_true]
      · simp only [Build.attempt, run', faults.right.isUserFault, if_true]
  refine .get_bind (.bind tried ?_)
  rintro args d args' e ⟨⟨back, back'⟩, outcome⟩
  -- Where the operands are taken back, each body is again what it was, so that the built-in form starts abreast.
  have fallBack : Abreast d e
      (do modify (·.rollback b.mark); form.compile ctx ⟨paren, head, Form.operands ctx ns⟩ demand)
      (do modify (·.rollback c.mark); form.compile ctx' ⟨paren, head, Form.operands ctx' ns⟩ demand) Settled := by
    refine .changed_bind ?_
    rw [back, back']
    exact builtin
  rcases outcome with ⟨none, none'⟩ | ⟨rs, ss, some, some', h, results⟩
  · simp only [none, none']
    exact fallBack
  · rcases m.lookup head.literal (rs.map (·.type)) with ⟨none, none'⟩ | ⟨f, g, found, found', same⟩
    · have unfit : Form.fitting ctx head.literal args = Option.none := by simp [Form.fitting, some, none]
      have unfit' : Form.fitting ctx' head.literal args' = Option.none := by
        simp [Form.fitting, some', ← results.types, none']
      simp only [unfit, unfit']
      exact fallBack
    · have fits : Form.fitting ctx head.literal args = Option.some (rs, f) := by simp [Form.fitting, some, found]
      have fits' : Form.fitting ctx' head.literal args' = Option.some (ss, g) := by
        simp [Form.fitting, some', ← results.types, found']
      simp only [fits, fits', Form.emit_operands paren head ctx ctx' ns]
      exact Call.abreast_emit h _ (m.left.registry.lookup found) (m.right.registry.lookup found') same results demand

theorem Form.abreast_compileInvocation :
    Abreast b c (Form.compileInvocation ctx ⟨paren, head, Form.operands ctx ns⟩ demand)
      (Form.compileInvocation ctx' ⟨paren, head, Form.operands ctx' ns⟩ demand) Settled := by
  unfold Form.compileInvocation
  dsimp only
  split
  · rename_i name _
    rw [← m.has name]
    split
    · exact .complain rfl _ _
    · exact Builtin.abreast_compile m h each paren head demand _
    · exact Call.abreast_compile m h each paren head demand
    · exact Form.abreast_compileShared m h each paren head demand _
  · split
    · exact Builtin.abreast_compile m h each paren head demand _
    · exact .complain rfl _ _
  · exact .complain rfl _ _

theorem Form.abreast_compileList (paren : Token) (demand : Demand) :
    Abreast b c (Form.compileList ctx paren (Form.operands ctx ns) demand)
      (Form.compileList ctx' paren (Form.operands ctx' ns) demand) Settled := by
  match ns with
  | [] => exact .complain rfl _ _
  | .list _ _ :: _ => exact .complain rfl _ _
  | .atom head :: ms =>
    have others : ∀ n ∈ ms, Node.Abreast ctx ctx' n := fun n inside => each n (List.mem_cons_of_mem _ inside)
    exact .ite (fun _ => Form.abreast_compileInvocation m h others paren head demand) fun _ => .complain rfl _ _

end Operands

mutual
theorem Form.abreast_compile (m : ctx.Matches ctx') : (n : Node) → Node.Abreast ctx ctx' n
  | .atom token => by
    intro demand b c h
    rw [Form.compile, Form.compile]
    exact Atom.abreast_compile h token demand
  | .list paren items => by
    intro demand b c h
    rw [Form.compile, Form.compile]
    exact Form.abreast_compileList m h (Form.abreast_operands m items) paren demand

theorem Form.abreast_operands (m : ctx.Matches ctx') : (ns : List Node) → ∀ n ∈ ns, Node.Abreast ctx ctx' n
  | [] => by
    intro n inside
    cases inside
  | k :: ks => by
    have first := Form.abreast_compile m k
    have others := Form.abreast_operands m ks
    exact List.forall_mem_cons.mpr ⟨first, others⟩
end

end Forms

theorem Body.abreast_enterParams (h : b.Matches c) (i : Nat) {ps : List Parameter}
    (each : ∀ t ∈ (ps.map (·.type)).takeWhile (!·.isVariadic), ∃ l, t.layout = .ok l) :
    Abreast b c (Body.enterParams i ps) (Body.enterParams i ps) fun _ d _ e => d.Matches e := by
  induction ps generalizing b c i with
  | nil => exact .pure h
  | cons p ps ih =>
    refine .ite (fun _ => .pure h) fun fixed => ?_
    simp only [Bool.not_eq_true] at fixed
    simp only [List.map_cons, List.takeWhile_cons, fixed, Bool.not_false, if_true, List.forall_mem_cons] at each
    obtain ⟨⟨l, laid⟩, others⟩ := each
    refine .bind (Build.abreast_layout h (by simp [laid]) _) ?_
    rintro k d k' e ⟨h, same, same'⟩
    rw [same']
    refine .bind (Build.abreast_emit h _ _) ?_
    rintro storage d storage' e ⟨h, layout, layout'⟩
    refine .bind (Build.abreast_store h layout layout') ?_
    intro _ d _ e h
    have bound : Body.Matches { d with env := d.env.add p.name ⟨p.type, storage⟩ }
        { e with env := e.env.add p.name ⟨p.type, storage'⟩ } :=
      h.bindName ⟨k, same, layout⟩ ⟨k, same, layout'⟩ rfl
    exact .changed_bind (ih bound (i + 1) others)

theorem Body.abreast_settleGotos (h : b.Matches c) (name : String) :
    Abreast b c (Body.settleGotos name) (Body.settleGotos name) fun _ d _ e => d.outline = e.outline := by
  have waiting : b.unresolved = c.unresolved := by
    show b.outline.unresolved = c.outline.unresolved
    rw [h.outline]
  refine .get_bind ?_
  rw [waiting]
  dsimp only
  split
  · rename_i g gs _
    refine .of_error rfl rfl (Fault.Proper.matches_self ⟨Complaint.report_proper _ _, fun r inside => ?_⟩)
    obtain ⟨k, -, rfl⟩ := List.mem_map.mp inside
    exact Complaint.report_proper _ _
  · refine .of_ok rfl rfl ?_
    rw [Body.outline_resolveGotos, Body.outline_resolveGotos, h.outline]

theorem Body.abreast_build {ctx ctx' : Context} (m : ctx.Matches ctx') (forms : List Node) :
    Abreast {} {} (Body.build ctx forms) (Body.build ctx' forms) fun _ b _ c => b.outline = c.outline := by
  have entry : (({} : Body).startBlock "entry").Matches (({} : Body).startBlock "entry") := by
    have sound : (({} : Body).startBlock "entry").Sound := by decide
    exact ⟨sound, sound, rfl⟩
  have filled : Abreast {} {} (Body.fill ctx (Form.operands ctx forms)) (Body.fill ctx' (Form.operands ctx' forms))
      fun _ d _ e => d.Matches e := by
    refine .changed_bind ?_
    rw [← m.params]
    refine .bind (Body.abreast_enterParams entry 0 m.left.function.params) ?_
    intro _ d _ e h
    refine .bind (Operand.abreast_compileSequence h (Form.abreast_operands m forms)) ?_
    rintro r d s e ⟨h, -⟩
    exact .pure h
  have void : fallOff ctx.function.returnType = fallOff ctx'.function.returnType := by
    rw [fallOff, fallOff, ← Ty.isVoid_unmark, m.returnType, Ty.isVoid_unmark]
  unfold Body.build
  rw [m.name, void]
  refine .bind filled ?_
  intro _ d _ e h
  refine .bind (Body.abreast_settleGotos h _) ?_
  intro _ d _ e outline
  refine .of_ok rfl rfl ?_
  rw [Body.outline_close, Body.outline_close, outline]

end FormCompiler
