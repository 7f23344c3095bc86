import FormCompiler.Proofs.Emission

namespace FormCompiler

open Build (Meets Agree)
open IR (Inst Layout Place Term Value)

/-- What every form owes where there are only instructions as they may be: to add no others, and a result
that can be used in the block where the form ends. -/
def Contract.code (ctx : Context) (s : Signature) : Contract where
  start := Body.Coded ctx s
  done := Body.Makes ctx s
  failed b _ c := b.Grown c

abbrev Twin.Coded (ctx : Context) (s : Signature) (o b : Body) (run : (Twin → Operand) → Build Result) : Prop :=
  Twin.Agree b run (Body.Makes ctx s o) fun _ => o.Grown

section Forms

variable {ctx : Context} {s : Signature} {o b : Body} (made : Body.Made ctx s o b) {t : Twin} {ts : List Twin}
  (paren head : Token) (demand : Demand)

section Operands

include made

theorem Contract.Kept.coded (kept : (Contract.code ctx s).Kept t) (demand : Demand) :
    Agree b (t.first demand) (t.second demand)
      (fun r c => Body.Made ctx s o c ∧ b.Retains c ∧ r.Ready s c c.current) fun _ => o.Grown := by
  refine .mono (kept demand b made.coded) ?_ fun _ _ grown => made.grown.trans grown
  rintro r c ⟨after, ready⟩
  exact ⟨⟨made.grown.trans after.grown, after.coded⟩, after.grown.evolves.retains, ready⟩

variable (kept : ∀ t ∈ ts, (Contract.code ctx s).Kept t)

include kept

theorem Operand.coded_compileAll :
    Twin.Agree b (fun side => Operand.compileAll (ts.map side))
      (fun rs c => Body.Made ctx s o c ∧ rs.length = ts.length ∧ ∀ r ∈ rs, ∃ k, o.Fills k ∧ r.Ready s c k)
      fun _ => o.Grown := by
  suffices all : Twin.Agree b (fun side => Operand.compileAll (ts.map side))
    (fun rs c => Body.Made ctx s o c ∧ b.Retains c ∧ rs.length = ts.length ∧
        ∀ r ∈ rs, ∃ k, o.Fills k ∧ r.Ready s c k) fun _ => o.Grown from
    all.mono (fun _ _ h => ⟨h.1, h.2.2⟩) fun _ _ h => h
  induction ts generalizing b with
  | nil => exact .of_meets (.pure ⟨made, .refl b, rfl, by simp⟩)
  | cons t ts ih =>
    refine .bind ((kept t List.mem_cons_self).coded made .value) ?_
    rintro r c ⟨made, first, ready⟩
    have fills := made.grown.fills
    refine .bind (ih made fun t inside => kept t (List.mem_cons_of_mem _ inside)) ?_
    rintro rs d ⟨made, rest, length, others⟩
    exact .of_meets (.pure ⟨made, first.trans rest, by simp [length],
      List.forall_mem_cons.mpr ⟨⟨_, fills, ready.mono rest⟩, others⟩⟩)

theorem Operand.coded_compileSequence : Twin.Coded ctx s o b fun side => Operand.compileSequence (ts.map side) := by
  induction ts generalizing b with
  | nil => exact .of_meets (.get_bind (.pure ⟨made, Result.ready_void made.coded.inside⟩))
  | cons t ts ih =>
    have first := (kept t List.mem_cons_self).coded made .value
    cases ts with
    | nil => exact first.mono (fun _ _ h => ⟨h.1, h.2.2⟩) fun _ _ h => h
    | cons u us =>
      refine .bind first ?_
      rintro r c ⟨made, -⟩
      exact ih made fun t inside => kept t (List.mem_cons_of_mem _ inside)

theorem Pointer.coded_offsets (us : List Twin) (subtract : Bool) (element : Layout)
    (position : Nat) {pointer : Value} (fits : pointer.layout = .pointer element)
    (offers : b.Offers s b.current pointer) :
    Twin.Agree b (fun side => Pointer.offsets ⟨paren, head, us.map side⟩ subtract element position (ts.map side)
      pointer)
      (fun v c => Body.Made ctx s o c ∧ v.layout = .pointer element ∧ c.Offers s c.current v) fun _ => o.Grown := by
  induction ts generalizing b position pointer with
  | nil => exact .of_meets (.pure ⟨made, fits, offers⟩)
  | cons t ts ih =>
    have others := fun t inside => kept t (List.mem_cons_of_mem _ inside)
    have step {c : Body} (made : Body.Made ctx s o c) (pointed : c.Offers s c.current pointer) {by_ : Value}
        (bits : by_.layout = .int 64) (there : c.Offers s c.current by_) :=
      Agree.after (Build.coded_emit made (i := .offset element pointer by_) ⟨congrArg some fits, congrArg some bits⟩
        (by simp [Inst.operands, pointed, there]) trivial) fun _ _ ⟨emits, offers, layout⟩ =>
          ih emits.toMade others (position + 1) layout offers
    refine .bind ((kept t List.mem_cons_self).coded made .value) ?_
    rintro r c ⟨after, retains, ready⟩
    have pointed := offers.mono retains (made.coded.current_le after.coded retains)
    refine .after (Build.meets_known after.grown _) ?_
    rintro type c ⟨rfl, rfl⟩
    refine .ite (fun _ => .complain_bind after.grown) fun integral => ?_
    have integral : r.type.isIntegral = true := by simpa using integral
    refine .after (Result.coded_getValue after after.grown.fills ready (Ty.isVoid_of_isIntegral integral)) ?_
    rintro v d ⟨first, there, layout⟩
    refine .after (Pointer.coded_widen first.toMade integral layout (first.current ▸ there)) ?_
    rintro w e ⟨second, wide, bits⟩
    have emits := first.trans second
    have pointed := pointed.mono emits.retains (Nat.le_of_eq emits.current.symm)
    refine .ite (fun _ => ?_) fun _ => .pure_bind (step second.toMade pointed bits wide)
    refine .after (Build.coded_emit second.toMade ⟨rfl, congrArg some bits⟩
      (by simpa [Inst.operands] using ⟨fun _ => by decide, wide⟩) trivial) ?_
    rintro negated f ⟨third, there, layout⟩
    exact step third.toMade (pointed.mono third.retains (Nat.le_of_eq third.current.symm)) layout there

theorem Pointer.coded_compileOffset (subtract : Bool) :
    Twin.Coded ctx s o b fun side => Pointer.compileOffset ⟨paren, head, ts.map side⟩ subtract demand := by
  unfold Pointer.compileOffset
  match ts with
  | [] => exact .complain made.grown
  | [_] => exact .complain made.grown
  | t :: u :: us =>
    have others : ∀ v ∈ u :: us, (Contract.code ctx s).Kept v := fun v inside => kept v (List.mem_cons_of_mem _ inside)
    refine .bind ((kept t List.mem_cons_self).coded made .value) ?_
    rintro r c ⟨made, -, ready⟩
    refine .after (Build.meets_known made.grown _) ?_
    rintro type c ⟨rfl, rfl⟩
    refine .ite (fun _ => .complain_bind made.grown) fun like => ?_
    refine .after (Pointer.coded_element made (by simpa using like) _) ?_
    rintro element c ⟨rfl, pointee, points, laid⟩
    refine .after (.pinned (Pointer.coded_base made made.grown.fills ready points laid)) ?_
    rintro pointer d ⟨emits, there, layout⟩
    refine .bind (Pointer.coded_offsets emits.toMade paren head others (t :: u :: us) subtract element 1 layout
      (emits.current ▸ there)) ?_
    rintro v e ⟨made, layout, there⟩
    have type : r.type.decay.layout = .ok v.layout := by rw [layout, Ty.layout_decay points laid]
    exact .of_meets (.get_bind (Result.coded_deliver made (Result.ready_ofValue made.coded.inside type there) _ _))

theorem Variable.coded_compileScope : Twin.Coded ctx s o b fun side => Variable.compileScope (ts.map side) := by
  have entered : Body.Coded ctx s { b with env := b.env.enter } :=
    made.coded.withEnv made.coded.sound.enter made.coded.vars.enter
  refine .inScope (.mono (Operand.coded_compileSequence ⟨.refl _, entered⟩ kept) ?_ fun _ _ inside =>
    made.grown.trans inside.leaveTo)
  rintro r c ⟨inside, ready⟩
  have left : Body.Coded ctx s (c.leaveTo b.env.depth) :=
    inside.coded.withEnv (inside.coded.sound.backTo _) (inside.coded.vars.backTo _)
  exact ⟨⟨made.grown.trans inside.grown.leaveTo, left⟩, ready.mono ⟨Nat.le_refl _, fun _ _ there => there⟩⟩

end Operands

section Operand

variable (kept : (Contract.code ctx s).Kept t)

include made kept

theorem Pointer.coded_compileAddressOf (us : List Twin) :
    Twin.Coded ctx s o b fun side => Pointer.compileAddressOf ⟨paren, head, us.map side⟩ (side t) demand := by
  refine .bind (kept.coded made .address) ?_
  rintro r c ⟨made, -, ready⟩
  exact .of_meets (Result.coded_deliver made ready _ _)

theorem Pointer.coded_compileDereference :
    Twin.Coded ctx s o b fun side => Pointer.compileDereference (side t) demand := by
  refine .bind (kept.coded made .value) ?_
  rintro r c ⟨made, -, ready⟩
  refine .of_meets (.bind (Build.meets_known made.grown _) ?_)
  rintro type c ⟨rfl, rfl⟩
  dsimp only
  split
  · rename_i pointee m type
    refine .bind (Result.coded_getValue made made.grown.fills ready (by rw [type]; rfl)) ?_
    rintro address d ⟨first, there, layout⟩
    have there : d.Offers s d.current address := first.current ▸ there
    cases demand with
    | address => exact .get_bind (.pure ⟨first.toMade, Result.ready_ofValue first.coded.inside layout there⟩)
    | value =>
      rw [type] at layout
      refine .bind (Build.coded_layout first.toMade _ _) ?_
      rintro l d ⟨rfl, laid⟩
      have stored : address.layout = .pointer l := by
        rcases Ty.layout_of_pointer layout with void | ⟨k, same, stored⟩
        · simp [Ty.isVoid_of_layout laid] at void
        · rw [stored, Except.ok.inj (same.symm.trans laid)]
      refine .bind (Build.coded_emit first.toMade (congrArg some stored) (by simpa [Inst.operands] using there)
        trivial) ?_
      rintro v e ⟨second, value, loaded⟩
      have there := there.mono second.retains (Nat.le_of_eq second.current.symm)
      exact .get_bind (.pure ⟨second.toMade,
        Result.ready_stored second.coded.inside laid loaded stored value there⟩)
  · exact .complain made.grown

theorem Variable.coded_initialise (name : String) {type : Ty} {storage : Value} {l : Layout}
    (laid : type.layout = .ok l) (there : b.Offers s b.current storage) :
    Twin.Agree b (fun side => Variable.initialise name type storage (side t))
      (fun _ c => Body.Made ctx s o c ∧ b.Retains c) fun _ => o.Grown := by
  refine .bind (kept.coded made .value) ?_
  rintro r c ⟨after, retains, ready⟩
  refine .of_meets (.ite (fun _ => .complain_bind after.grown) fun same => ?_)
  obtain rfl : r.type = type := by simpa using same
  refine .bind (Result.coded_getValue after after.grown.fills ready (Ty.isVoid_of_layout laid)) ?_
  rintro v d ⟨first, value, -⟩
  have retains := retains.trans first.retains
  have there := there.mono retains (made.coded.current_le first.coded retains)
  refine .mono (Build.coded_store first.toMade (first.current ▸ value) there) ?_ fun _ _ h => h
  rintro _ e ⟨second, -⟩
  exact ⟨second.toMade, retains.trans second.retains⟩

end Operand

theorem Variable.coded_declare (made : Body.Made ctx s o b) (name type : Twin) (init : Option Twin)
    (kept : ∀ t ∈ init, (Contract.code ctx s).Kept t) :
    Twin.Coded ctx s o b fun side => Variable.declare (side name) (side type) (init.map side) := by
  simp only [Twin.Coded, Twin.Agree, Variable.declare, Twin.left, Twin.right]
  cases name.node.symbol? with
  | none => exact .complain made.grown
  | some x =>
    refine .after (Build.meets_ofReport made.grown _) ?_
    rintro declared c rfl
    refine .after (Build.coded_layout made _ _) ?_
    rintro l c ⟨rfl, laid⟩
    refine .after (Build.coded_emit made trivial (by simp [Inst.operands]) trivial) ?_
    rintro storage d ⟨emits, there, layout⟩
    have bound (e : Body) (made : Body.Made ctx s o e) (there : e.Offers s e.current storage) :
        Meets e (modify (fun b => { b with env := b.env.add x ⟨declared, storage⟩ }) >>= fun _ => do
          return Result.void (← get).current) (Body.Makes ctx s o) fun _ => o.Grown := by
      have coded := made.coded.bindName (v := ⟨declared, storage⟩) ⟨l, laid, layout⟩ there x
      exact .changed_bind (.get_bind (.pure ⟨⟨made.grown.bindName _ _, coded⟩, Result.ready_void coded.inside⟩))
    cases init with
    | none => exact .of_meets (bound _ emits.toMade there)
    | some t =>
      refine .bind (Variable.coded_initialise emits.toMade (kept t rfl) x laid there) ?_
      rintro _ e ⟨made, retains⟩
      exact .of_meets (bound e made (there.mono retains (emits.coded.current_le made.coded retains)))

section Operands

variable (kept : ∀ t ∈ ts, (Contract.code ctx s).Kept t)

include made kept

theorem Variable.coded_compile : Twin.Coded ctx s o b fun side => Variable.compile ⟨paren, head, ts.map side⟩ := by
  match ts with
  | [] => exact .complain made.grown
  | [_] => exact .complain made.grown
  | [name, type] => exact Variable.coded_declare made name type none (by simp)
  | [name, type, init] =>
    exact Variable.coded_declare made name type (some init) (by simpa using kept init (by simp))
  | t :: u :: v :: w :: us =>
    simp only [Variable.compile, List.map_cons, List.length_cons, List.length_map]
    exact .complain made.grown

variable (linked : ctx.Linked s)

include linked

theorem Control.coded_compileReturn :
    Twin.Coded ctx s o b fun side => Control.compileReturn ctx ⟨paren, head, ts.map side⟩ := by
  match ts with
  | [] =>
    refine .of_meets (.ite (fun _ => .complain_bind made.grown) fun void => ?_)
    have void : ctx.function.returnType.isVoid = true := by simpa [Ty.isVoid_unmark] using void
    exact Control.coded_finish made trivial (Body.Coded.allows_ret_none linked.signature void _)
  | [t] =>
    refine .bind ((kept t List.mem_cons_self).coded made .value) ?_
    rintro r c ⟨made, -, ready⟩
    refine .of_meets (.ite (fun _ => .complain_bind made.grown) fun same => ?_)
    simp only [Bool.or_eq_true, not_or, Bool.not_eq_true, bne_eq_false_iff_eq] at same
    obtain ⟨type, value⟩ := same
    refine .bind (Result.coded_getValue made made.grown.fills ready (by rw [type]; exact value)) ?_
    rintro v d ⟨first, there, layout⟩
    refine .bind (Control.coded_returnValue first.toMade linked (by rw [← type]; exact layout)
      (first.current ▸ there)) ?_
    rintro u e ⟨second, allows, can⟩
    exact Control.coded_finish second.toMade can allows
  | t :: u :: us =>
    simp only [Control.compileReturn, List.map_cons, List.length_cons, List.length_map]
    exact .complain made.grown

theorem Builtin.coded_compile (form : Builtin) :
    Twin.Coded ctx s o b fun side => form.compile ctx ⟨paren, head, ts.map side⟩ demand := by
  refine Builtin.agree_compile_of (fun _ _ => made.grown) form
    (fun r c h => .of_meets (Result.coded_deliver h.1 h.2 _ _))
    (fun subtract => Pointer.coded_compileOffset made paren head demand kept subtract)
    (Operand.coded_compileSequence made kept) (Variable.coded_compileScope made kept)
    (Variable.coded_compile made paren head kept) (Control.coded_compileReturn made paren head kept linked) ?_
  rintro t rfl
  have single := kept t List.mem_cons_self
  exact ⟨Pointer.coded_compileAddressOf made paren head demand single [t],
    Pointer.coded_compileDereference made demand single,
    .of_meets (Control.coded_compileLabel made t.left), .of_meets (Control.coded_compileGoto made t.left)⟩

theorem Call.coded_compile : Twin.Coded ctx s o b fun side => Call.compile ctx ⟨paren, head, ts.map side⟩ demand := by
  unfold Call.compile
  refine .bind (Operand.coded_compileAll made kept) ?_
  rintro rs c ⟨made, length, each⟩
  dsimp only
  split
  · rename_i callee found
    obtain ⟨registered, accepts⟩ := Registry.lookup_eq_some found
    rw [Twin.emit_eq]
    exact .of_meets (Call.coded_emit made linked _ demand registered accepts (by simpa using length) each)
  · exact .of_meets (.complain made.grown)

theorem Form.coded_compileShared (form : Builtin) :
    Twin.Coded ctx s o b fun side => Form.compileShared ctx ⟨paren, head, ts.map side⟩ demand form := by
  -- What the attempt leaves is taken back to `b`, so it is followed from there and not from `o`.
  have tried : Twin.Agree b (fun side => Build.attempt (Operand.compileAll (ts.map side)))
    (fun args c => b.Grown c ∧ ∀ rs ∈ args, c.Coded ctx s ∧ rs.length = ts.length ∧
        ∀ r ∈ rs, ∃ k, b.Fills k ∧ r.Ready s c k) fun _ => o.Grown := by
    refine .attempt (.mono (Operand.coded_compileAll ⟨.refl b, made.coded⟩ kept) ?_ ?_)
    · rintro rs c ⟨after, length, each⟩
      exact ⟨after.grown, by simpa using ⟨after.coded, length, each⟩⟩
    · intro f c after
      split
      · exact ⟨after, by simp⟩
      · exact made.grown.trans after
  unfold Form.compileShared
  refine .get_bind (.bind tried ?_)
  rintro args c ⟨after, compiled⟩
  dsimp only
  split
  · rename_i rs callee fits
    obtain ⟨same, found⟩ := Form.fitting_eq_some fits
    obtain ⟨coded, length, each⟩ := compiled rs same
    obtain ⟨registered, accepts⟩ := Registry.lookup_eq_some found
    have placed : ∀ r ∈ rs, ∃ k, o.Fills k ∧ r.Ready s c k := by
      intro r inside
      obtain ⟨k, fills, ready⟩ := each r inside
      exact ⟨k, made.grown.evolves.extends.fills_of_fills fills, ready⟩
    rw [Twin.emit_eq]
    exact .of_meets (Call.coded_emit ⟨made.grown.trans after, coded⟩ linked _ demand registered accepts
      (by simpa using length) placed)
  · refine .changed_bind ?_
    rw [after.rollback_mark]
    exact Builtin.coded_compile made paren head demand kept linked form

theorem Form.coded_compileList : Twin.Coded ctx s o b fun side => Form.compileList ctx paren (ts.map side) demand := by
  refine Form.agree_compileList_of (fun _ _ => made.grown) fun t us split head => ?_
  have others : ∀ t ∈ us, (Contract.code ctx s).Kept t := fun t inside => kept t (split ▸ List.mem_cons_of_mem _ inside)
  exact ⟨fun form => Builtin.coded_compile made paren head demand others linked form,
    Call.coded_compile made paren head demand others linked,
    fun form => Form.coded_compileShared made paren head demand others linked form⟩

end Operands

end Forms

theorem Contract.code_inductive {ctx : Context} {s : Signature} (linked : ctx.Linked s) :
    (Contract.code ctx s).Inductive ctx where
  atom token demand _ coded := Atom.coded_compile ⟨.refl _, coded⟩ token demand
  list paren _ demand _ kept coded := Form.coded_compileList ⟨.refl _, coded⟩ paren demand kept linked

namespace Body

variable {ctx : Context} {s : Signature}

theorem coded_entry (ctx : Context) (s : Signature) : Body.entry.Coded ctx s where
  insts p i there := by
    obtain ⟨K, block, found⟩ := Option.bind_eq_some_iff.mp there
    obtain rfl : K = { name := "entry" } := by
      simpa [entry, startBlock, addBlock] using (Array.mem_of_getElem? block)
    simp at found
  terms k t ends := by
    obtain ⟨K, block, found⟩ := Option.bind_eq_some_iff.mp ends
    obtain rfl : K = { name := "entry" } := by
      simpa [entry, startBlock, addBlock] using (Array.mem_of_getElem? block)
    cases found
  sound := by decide
  last := rfl
  vars := by simp [Environment.All, entry, startBlock, addBlock]

theorem coded_fill_under (linked : ctx.Linked s) {m : Monitor} (grants : (Contract.code ctx s).Grants m)
    (forms : List Node) :
    Agree {} (Body.fill ctx (Form.operands ctx forms)) (Body.fill ctx (Form.operandsUnder m ctx forms))
      (fun _ => Made ctx s Body.entry) fun _ => Body.entry.Grown := by
  have kept := Form.kept_twins (Contract.code_inductive linked) grants forms
  have laid : ((ctx.function.params.map (·.type)).takeWhile (!·.isVariadic)).map Ty.layout =
      (s.fixed.drop 0).map .ok := linked.signature.fixed
  rw [Form.operands_eq_left (m := m), Form.operandsUnder_eq_right]
  refine .changed_bind (.after (Body.coded_enterParams ⟨.refl _, coded_entry ctx s⟩ 0 laid) ?_)
  intro _ c made
  refine .bind (Operand.coded_compileSequence made kept) ?_
  rintro r d ⟨made, -⟩
  exact .of_meets (.pure made)

theorem coded_fill (linked : ctx.Linked s) (forms : List Node) :
    Meets {} (Body.fill ctx (Form.operands ctx forms)) (fun _ => Made ctx s Body.entry) fun _ => Body.entry.Grown :=
  (coded_fill_under linked (Contract.grants_silent _) forms).2

@[simp] theorem inst?_resolveGoto (b : Body) (g : PendingGoto) (p : Place) : (b.resolveGoto g).inst? p = b.inst? p := by
  unfold resolveGoto
  split
  · exact inst?_terminate _ _ _ _
  · rfl

@[simp] theorem inst?_resolveGotos (b : Body) (p : Place) : b.resolveGotos.inst? p = b.inst? p := by
  have all (gs : List PendingGoto) (c : Body) : (gs.foldl resolveGoto c).inst? p = c.inst? p := by
    induction gs generalizing c with
    | nil => rfl
    | cons g gs ih => rw [List.foldl_cons, ih, inst?_resolveGoto]
  exact all b.gotos b

@[simp] theorem inst?_close (b : Body) (t : Term) (p : Place) : (b.close t).inst? p = b.inst? p := by
  simp only [inst?, close, Array.getElem?_map]
  cases b.blocks[p.block]? <;> rfl

theorem allows_fallOff (has : ctx.function.HasSignature s) (b : Body) (k : Nat) :
    b.Allows ctx s k (fallOff ctx.function.returnType) := by
  unfold fallOff
  split
  · rename_i void
    exact Coded.allows_ret_none has void k
  · exact ⟨trivial, by simp [Term.operands], fun _ _ ends => nomatch ends⟩

theorem code_of_compile (linked : ctx.Linked s) {forms : List Node} {b : Body}
    (h : Body.compile ctx forms = .ok b) : b.Code ctx s := by
  obtain ⟨filled, run, met, rfl⟩ := compile_eq_ok h
  have made := (coded_fill linked forms).ok run
  have flow := made.grown.evolves.flow flow_entry
  have retains : filled.Retains (filled.resolveGotos.close (fallOff ctx.function.returnType)) :=
    ⟨by simp [close, (flow.jumped met).size], by simp⟩
  refine ⟨fun p i there => (made.coded.insts p i (by simpa using there)).mono retains, fun k t ends => ?_⟩
  rw [flow.term?_finished met] at ends
  split at ends
  · cases ends
    exact allows_fallOff linked.signature _ k
  · rcases flow.term?_resolveGotos met k with ⟨-, same⟩ | ⟨-, l, -, jumps⟩
    · exact (made.coded.terms k t (same ▸ ends)).mono retains
    · rw [jumps] at ends
      cases ends
      exact Coded.allows_br k l.2

end Body

end FormCompiler
