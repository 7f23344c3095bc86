import FormCompiler.Body.Compile
import FormCompiler.Proofs.Evolution
import FormCompiler.Proofs.Monitor

namespace FormCompiler

open Build (Meets Agree)

variable {r : Result} {k : Nat}

structure Body.Grown (o b : Body) : Prop where
  evolves : o.Evolves b
  env : o.env.Within b.env

namespace Body.Grown

variable {o b c : Body}

theorem refl (o : Body) : o.Grown o := ⟨.refl, .refl _⟩

theorem trans (first : o.Grown b) (rest : b.Grown c) : o.Grown c :=
  ⟨first.evolves.trans rest.evolves, first.env.trans rest.env⟩

theorem fills (h : o.Grown b) : o.Fills b.current := h.evolves.extends.fills

theorem append (h : o.Grown b) (fills : o.Fills k) (i : IR.Inst) : o.Grown (b.append k i) :=
  ⟨h.evolves.step (.emit i fills), h.env⟩

theorem bindName (h : o.Grown b) (name : String) (v : Local) : o.Grown { b with env := b.env.add name v } :=
  ⟨h.evolves.scope _, h.env.trans (Environment.within_add _ _ _)⟩

theorem leaveTo (h : Body.Grown { o with env := o.env.enter } b) : o.Grown (b.leaveTo o.env.depth) := by
  have entered : o.Evolves { o with env := o.env.enter } := Evolves.refl.scope _
  have env : b.env.backTo o.env.depth = o.env := Environment.backTo_of_within_enter h.env
  refine ⟨(entered.trans h.evolves).scope _, ?_⟩
  show o.env.Within (b.env.backTo o.env.depth)
  rw [env]
  exact .refl _

theorem rollback_mark (h : o.Grown b) : b.rollback o.mark = o := h.evolves.extends.rollback_mark h.env

end Body.Grown

def Result.PlacedIn (r : Result) (o : Body) : Prop := ∃ k, r.block = some k ∧ o.Fills k

theorem Result.PlacedIn.mono {o b : Body} (h : r.PlacedIn b) (grown : o.Grown b) : r.PlacedIn o := by
  obtain ⟨k, block, fills⟩ := h
  exact ⟨k, block, grown.evolves.extends.fills_of_fills fills⟩

def Body.Stays (o b : Body) {α : Type} (_ : α) (c : Body) : Prop := o.Grown c ∧ c.current = b.current

abbrev Body.GrownTo (o : Body) (r : Result) (c : Body) : Prop := o.Grown c ∧ r.block = some c.current

section Leaves

variable {α : Type} {o b : Body} (grown : o.Grown b)

include grown

theorem Build.meets_demand (a : Option α) :
    Meets b (Build.demand a) (fun v c => a = some v ∧ c = b) fun _ => o.Grown := by
  cases a with
  | some a => exact .pure ⟨rfl, rfl⟩
  | none => exact .breakDown grown

theorem Build.meets_layout (t : Ty) :
    Meets b (Build.layout t) (fun _ c => c = b) fun _ => o.Grown := by
  unfold Build.layout
  split
  · exact .pure rfl
  · exact .breakDown grown
  · exact .throw grown

theorem Build.meets_pinned_layout (token : Option Token) (t : Ty) :
    Meets b (Build.pinned token (Build.layout t)) (fun _ c => c = b) fun _ => o.Grown :=
  .pinned (meets_layout grown t)

theorem Build.meets_known (t : Ty) :
    Meets b (Build.known t) (fun u c => u = t ∧ c = b) fun _ => o.Grown :=
  .ite (fun _ => .breakDown grown) fun _ => .pure ⟨rfl, rfl⟩

theorem Build.meets_ofReport (x : Except Report α) :
    Meets b (Build.ofReport x) (fun _ c => c = b) fun _ => o.Grown := by
  cases x with
  | ok a => exact .pure rfl
  | error r => exact .throw grown

theorem Build.meets_emitAt (fills : o.Fills k) (i : IR.Inst) :
    Meets b (Build.emitAt k i) (o.Stays b) fun _ => o.Grown :=
  .get_bind (.changed_bind (.pure ⟨grown.append fills i, rfl⟩))

theorem Build.meets_emit (i : IR.Inst) :
    Meets b (Build.emit i) (o.Stays b) fun _ => o.Grown :=
  .get_bind (meets_emitAt grown grown.fills i)

theorem Build.meets_storeAt (fills : o.Fills k) (v target : IR.Value) :
    Meets b (Build.storeAt k v target) (o.Stays b) fun _ => o.Grown := by
  unfold Build.storeAt
  refine .ite (fun _ => ?_) fun _ => .breakDown grown
  exact .bind (meets_emitAt grown fills _) fun _ _ stays => .pure stays

theorem Build.meets_store (v target : IR.Value) :
    Meets b (Build.store v target) (o.Stays b) fun _ => o.Grown :=
  .get_bind (meets_storeAt grown grown.fills v target)

theorem Result.meets_getValue (placed : r.PlacedIn o) :
    Meets b r.getValue (o.Stays b) fun _ => o.Grown := by
  obtain ⟨k, block, fills⟩ := placed
  unfold Result.getValue
  split
  · split
    · refine .bind (Build.meets_demand grown _) ?_
      rintro j c ⟨at_, rfl⟩
      rw [block, Option.some.injEq] at at_
      exact Build.meets_emitAt grown (at_ ▸ fills) _
    · exact .breakDown grown
    · exact .throw grown
  · exact .pure ⟨grown, rfl⟩
  · exact .pure ⟨grown, rfl⟩
  · exact .throw grown

theorem Result.meets_materialise (placed : r.PlacedIn o) :
    Meets b r.materialise (fun s c => o.Stays b s c ∧ s.block = r.block) fun _ => o.Grown := by
  obtain ⟨k, block, fills⟩ := id placed
  unfold Result.materialise
  split
  · exact .pure ⟨⟨grown, rfl⟩, rfl⟩
  · refine .bind (Build.meets_layout grown _) ?_
    rintro l c rfl
    refine .bind (Build.meets_demand grown _) ?_
    rintro j c ⟨at_, rfl⟩
    rw [block, Option.some.injEq] at at_
    subst at_
    refine .bind (Build.meets_emitAt grown fills _) ?_
    rintro address c ⟨grown, here⟩
    refine .bind (Result.meets_getValue grown placed) ?_
    rintro v d ⟨grown, here'⟩
    refine .bind (Build.meets_storeAt grown fills v address) ?_
    rintro _ e ⟨grown, here''⟩
    exact .pure ⟨⟨grown, here''.trans (here'.trans here)⟩, rfl⟩

theorem Result.meets_getAddress (placed : r.PlacedIn o) :
    Meets b r.getAddress (fun s c => o.Stays b s c ∧ s.block = r.block) fun _ => o.Grown := by
  refine .bind (Result.meets_materialise grown placed) ?_
  rintro s c ⟨stays, block⟩
  exact .pure ⟨stays, block⟩

theorem Result.meets_deliver (here : r.block = some b.current) (token : Token) (demand : Demand) :
    Meets b (r.deliver token demand) (fun s c => o.Grown c ∧ s.block = some c.current) fun _ => o.Grown := by
  cases demand with
  | value => exact .pure ⟨grown, here⟩
  | address =>
    refine .pinned (.mono (Result.meets_getAddress grown ⟨_, here, grown.fills⟩) ?_ fun _ _ h => h)
    rintro s c ⟨⟨grown, current⟩, block⟩
    exact ⟨grown, by rw [block, here, current]⟩

theorem Atom.meets_constant (type : Ty) (n : Int) (token : Token) (demand : Demand) :
    Meets b (Atom.constant type n >>= fun r => r.deliver token demand) o.GrownTo fun _ => o.Grown :=
  .get_bind (Result.meets_deliver grown rfl token demand)

theorem Atom.meets_reference (token : Token) (demand : Demand) :
    Meets b (Atom.reference token demand) o.GrownTo fun _ => o.Grown := by
  refine .get_bind ?_
  split
  · exact .complain grown
  · cases demand with
    | address => exact .get_bind (.pure ⟨grown, rfl⟩)
    | value =>
      refine .bind (Build.meets_pinned_layout grown _ _) ?_
      rintro l c rfl
      refine .bind (Build.meets_emit grown _) ?_
      rintro v d ⟨grown, here⟩
      exact .get_bind (.pure ⟨grown, rfl⟩)

theorem Atom.meets_compile (token : Token) (demand : Demand) :
    Meets b (Atom.compile token demand) o.GrownTo fun _ => o.Grown := by
  unfold Atom.compile
  split
  · split
    · exact Atom.meets_constant grown _ _ _ _
    · exact .complain grown
  · exact Atom.meets_constant grown _ _ _ _
  · exact Atom.meets_constant grown _ _ _ _
  · exact Atom.meets_reference grown _ _
  · exact .complain grown

theorem Call.meets_values (head : Token) (position : Nat) (args : List (Token × Result))
    (placed : ∀ a ∈ args, a.2.PlacedIn o) :
    Meets b (Call.values head position args) (o.Stays b) fun _ => o.Grown := by
  induction args generalizing position b with
  | nil => exact .pure ⟨grown, rfl⟩
  | cons a rest ih =>
    obtain ⟨token, r⟩ := a
    have first := placed _ List.mem_cons_self
    have others : ∀ a ∈ rest, a.2.PlacedIn o := fun a inside => placed a (List.mem_cons_of_mem _ inside)
    simp only [Call.values]
    refine .ite (fun _ => .complain_bind grown) fun _ => ?_
    refine .bind (Result.meets_getValue grown first) ?_
    rintro v c ⟨grown, here⟩
    refine .bind (ih grown (position + 1) others) ?_
    rintro vs d ⟨grown, here'⟩
    exact .pure ⟨grown, here'.trans here⟩

theorem Call.meets_symbol (callee : Function) :
    Meets b (Call.symbol callee) (fun _ c => c = b) fun _ => o.Grown := by
  unfold Call.symbol
  split
  · exact .pure rfl
  · exact .breakDown grown

theorem Call.meets_emit (call : Invocation) (callee : Function) (args : List Result)
    (demand : Demand) (placed : ∀ r ∈ args, r.PlacedIn o) :
    Meets b (Call.emit call callee args demand) o.GrownTo fun _ => o.Grown := by
  have zipped : ∀ a ∈ call.tokens.zip args, a.2.PlacedIn o := fun a inside =>
    placed a.2 (List.of_mem_zip inside).2
  unfold Call.emit
  refine .bind (Call.meets_values grown _ _ _ zipped) ?_
  rintro vs c ⟨grown, here⟩
  refine .bind (Call.meets_symbol grown callee) ?_
  rintro symbol c rfl
  refine .ite (fun _ => ?_) fun _ => ?_
  · refine .bind (Build.meets_pinned_layout grown _ _) ?_
    rintro l c rfl
    refine .bind (Build.meets_emit grown _) ?_
    rintro slot c ⟨grown, here⟩
    refine .bind (Build.meets_emit grown _) ?_
    rintro _ c ⟨grown, here⟩
    exact .get_bind (Result.meets_deliver grown rfl _ _)
  · refine .ite (fun _ => ?_) fun _ => ?_
    · refine .bind (Build.meets_emit grown _) ?_
      rintro _ c ⟨grown, here⟩
      exact .get_bind (Result.meets_deliver grown rfl _ _)
    · refine .bind (Build.meets_pinned_layout grown _ _) ?_
      rintro l c rfl
      refine .bind (Build.meets_emit grown _) ?_
      rintro v c ⟨grown, here⟩
      exact .get_bind (Result.meets_deliver grown rfl _ _)

theorem Pointer.meets_widen (type : Ty) (v : IR.Value) :
    Meets b (Pointer.widen type v) (o.Stays b) fun _ => o.Grown := by
  unfold Pointer.widen
  refine .ite (fun _ => .pure ⟨grown, rfl⟩) fun _ => .ite (fun _ => Build.meets_emit grown _) fun _ => ?_
  split
  · exact .pure ⟨grown, rfl⟩
  · exact Build.meets_emit grown _

theorem Pointer.meets_base (placed : r.PlacedIn o) :
    Meets b (Pointer.base r) (o.Stays b) fun _ => o.Grown := by
  unfold Pointer.base
  refine .bind (Build.meets_known grown _) ?_
  rintro type c ⟨-, rfl⟩
  refine .ite (fun _ => Result.meets_getValue grown placed) fun _ => ?_
  refine .bind (Result.meets_getAddress grown placed) ?_
  rintro address c ⟨⟨grown, here⟩, block⟩
  have placed' : address.PlacedIn o := by
    obtain ⟨k, at_, fills⟩ := placed
    exact ⟨k, block.trans at_, fills⟩
  refine .bind (Build.meets_layout grown _) ?_
  rintro l d rfl
  refine .bind (Result.meets_getValue grown placed') ?_
  rintro v d ⟨grown, here'⟩
  refine .bind (Build.meets_demand grown _) ?_
  rintro k d ⟨at_, rfl⟩
  obtain ⟨j, at', fills⟩ := placed'
  have same : j = k := Option.some.inj (at'.symm.trans at_)
  exact .mono (Build.meets_emitAt grown (same ▸ fills) _)
    (fun _ _ stays => ⟨stays.1, stays.2.trans (here'.trans here)⟩) fun _ _ h => h

theorem Pointer.meets_element (pointerType : Ty) (token : Token) :
    Meets b (Pointer.element pointerType token) (fun _ c => c = b) fun _ => o.Grown := by
  refine .bind (Build.meets_demand grown _) ?_
  rintro pointee c ⟨-, rfl⟩
  split
  · exact .pure rfl
  · exact .complain grown

theorem Control.meets_finish {t : IR.Term} (can : b.CanEnd t) :
    Meets b (Control.finish t) o.GrownTo fun _ => o.Grown := by
  have next : Body.Step o b ((b.terminate b.current t).startBlock "") := .finish can
  exact .of_ok rfl ⟨⟨grown.evolves.step next, grown.env⟩, rfl⟩

theorem Control.meets_labelName (form : String) (operand : Operand) :
    Meets b (Control.labelName form operand) (fun _ c => c = b) fun _ => o.Grown := by
  unfold Control.labelName
  split
  · exact .pure rfl
  · exact .complain grown

theorem Control.meets_compileLabel (operand : Operand) :
    Meets b (Control.compileLabel operand) o.GrownTo fun _ => o.Grown := by
  unfold Control.compileLabel
  refine .bind (Control.meets_labelName grown _ _) ?_
  rintro name c rfl
  refine .get_bind (.ite (fun _ => .complain_bind grown) fun fresh => ?_)
  have next : Body.Step o c (c.startLabel name) := .label (by simpa using fresh)
  exact .of_ok rfl ⟨⟨grown.evolves.step next, by rw [Body.env_startLabel]; exact grown.env⟩, rfl⟩

theorem Control.meets_compileGoto (operand : Operand) :
    Meets b (Control.compileGoto operand) o.GrownTo fun _ => o.Grown := by
  unfold Control.compileGoto
  refine .bind (Control.meets_labelName grown _ _) ?_
  rintro name c rfl
  refine .get_bind ?_
  split
  · rename_i target met
    exact Control.meets_finish grown ⟨name, met⟩
  · have next : Body.Step o c ((c.addGoto ⟨name, c.current, some operand.node.token⟩).startBlock "") := .wait rfl
    exact .of_ok rfl ⟨⟨grown.evolves.step next, grown.env⟩, rfl⟩

theorem Control.meets_returnValue (fn : Function) (v : IR.Value) :
    Meets b (Control.returnValue fn v) (fun t c => o.Grown c ∧ c.CanEnd t) fun _ => o.Grown := by
  unfold Control.returnValue
  refine .ite (fun _ => ?_) fun _ => .pure ⟨grown, trivial⟩
  refine .bind (Build.meets_layout grown _) ?_
  rintro l c rfl
  refine .bind (Build.meets_store grown _ _) ?_
  rintro _ c ⟨grown, here⟩
  exact .pure ⟨grown, trivial⟩

theorem Body.meets_enterParams (i : Nat) (ps : List Parameter) :
    Meets b (Body.enterParams i ps) (fun _ => o.Grown) fun _ => o.Grown := by
  induction ps generalizing b i with
  | nil => exact .pure grown
  | cons p ps ih =>
    refine .ite (fun _ => .pure grown) fun _ => ?_
    refine .bind (Build.meets_pinned_layout grown _ _) ?_
    rintro l c rfl
    refine .bind (Build.meets_emit grown _) ?_
    rintro storage c ⟨grown, -⟩
    refine .bind (Build.meets_store grown _ _) ?_
    rintro _ c ⟨grown, -⟩
    exact .changed_bind (ih (grown.bindName _ _) _)

end Leaves

def Contract.growth (I : Body → Prop) : Contract where
  start := I
  done := Body.GrownTo
  failed b _ c := b.Grown c

section Forms

-- Whatever every step keeps can be relied on wherever an operand is begun.
variable {I : Body → Prop} (closed : ∀ o b c, Body.Step o b c → I b → I c) {o b : Body} (start : I o)
  {t : Twin} {ts : List Twin} (paren head : Token) (demand : Demand)

include closed start

theorem Contract.Kept.agree (kept : (Contract.growth I).Kept t) (grown : o.Grown b) (demand : Demand) :
    Agree b (t.first demand) (t.second demand) o.GrownTo fun _ => o.Grown := by
  have here : I b := grown.evolves.keeps closed start
  exact .mono (kept demand b here) (fun r c h => ⟨grown.trans h.1, h.2⟩) fun f c h => grown.trans h

section Operands

variable (kept : ∀ t ∈ ts, (Contract.growth I).Kept t) (grown : o.Grown b)

include kept grown

theorem Operand.agree_compileAll :
    Twin.Agree b (fun side => Operand.compileAll (ts.map side))
      (fun rs c => o.Grown c ∧ ∀ r ∈ rs, r.PlacedIn o) fun _ => o.Grown := by
  induction ts generalizing b with
  | nil => exact .of_meets (.pure ⟨grown, by simp⟩)
  | cons t ts ih =>
    refine .bind ((kept t List.mem_cons_self).agree closed start grown .value) ?_
    rintro r c ⟨grown, block⟩
    have placed : r.PlacedIn o := ⟨_, block, grown.fills⟩
    refine .bind (ih (fun t inside => kept t (List.mem_cons_of_mem _ inside)) grown) ?_
    rintro rs d ⟨grown, others⟩
    exact .of_meets (.pure ⟨grown, List.forall_mem_cons.mpr ⟨placed, others⟩⟩)

theorem Operand.agree_compileSequence :
    Twin.Agree b (fun side => Operand.compileSequence (ts.map side)) o.GrownTo fun _ => o.Grown := by
  induction ts generalizing b with
  | nil => exact .of_meets (.get_bind (.pure ⟨grown, rfl⟩))
  | cons t ts ih =>
    have first := (kept t List.mem_cons_self).agree closed start grown .value
    have others := fun t inside => kept t (List.mem_cons_of_mem _ inside)
    cases ts with
    | nil => exact first
    | cons u us =>
      refine .bind first ?_
      rintro r c ⟨grown, -⟩
      exact ih others grown

theorem Call.agree_compile (ctx : Context) :
    Twin.Agree b (fun side => Call.compile ctx ⟨paren, head, ts.map side⟩ demand) o.GrownTo fun _ => o.Grown := by
  unfold Call.compile
  refine .bind (Operand.agree_compileAll closed start kept grown) ?_
  rintro rs c ⟨grown, placed⟩
  dsimp only
  split
  · rw [Twin.emit_eq]
    exact .of_meets (Call.meets_emit grown _ _ _ _ placed)
  · exact .of_meets (.complain grown)

theorem Pointer.agree_offsets (us : List Twin) (subtract : Bool) (element : IR.Layout)
    (position : Nat) (pointer : IR.Value) :
    Twin.Agree b (fun side => Pointer.offsets ⟨paren, head, us.map side⟩ subtract element position (ts.map side)
      pointer) (fun _ => o.Grown) fun _ => o.Grown := by
  induction ts generalizing b position pointer with
  | nil => exact .of_meets (.pure grown)
  | cons t ts ih =>
    have others := fun t inside => kept t (List.mem_cons_of_mem _ inside)
    refine .bind ((kept t List.mem_cons_self).agree closed start grown .value) ?_
    rintro r c ⟨grown, block⟩
    refine .after (Build.meets_known grown _) ?_
    rintro type c ⟨-, rfl⟩
    refine .ite (fun _ => .complain_bind grown) fun _ => ?_
    refine .after (Result.meets_getValue grown ⟨_, block, grown.fills⟩) ?_
    rintro v c ⟨grown, -⟩
    refine .after (Pointer.meets_widen grown type v) ?_
    rintro w c ⟨grown, -⟩
    refine .ite (fun _ => ?_) fun _ => ?_
    · refine .after (Build.meets_emit grown _) ?_
      rintro by_ c ⟨grown, -⟩
      refine .after (Build.meets_emit grown _) ?_
      rintro next c ⟨grown, -⟩
      exact ih others grown _ _
    · refine .pure_bind (.after (Build.meets_emit grown _) ?_)
      rintro next c ⟨grown, -⟩
      exact ih others grown _ _

theorem Pointer.agree_compileOffset (subtract : Bool) :
    Twin.Agree b (fun side => Pointer.compileOffset ⟨paren, head, ts.map side⟩ subtract demand)
      o.GrownTo fun _ => o.Grown := by
  unfold Pointer.compileOffset
  match ts with
  | [] => exact .complain grown
  | [_] => exact .complain grown
  | t :: u :: us =>
    have others : ∀ v ∈ u :: us, (Contract.growth I).Kept v := fun v inside =>
      kept v (List.mem_cons_of_mem _ inside)
    refine .bind ((kept t List.mem_cons_self).agree closed start grown .value) ?_
    rintro r c ⟨grown, block⟩
    refine .after (Build.meets_known grown _) ?_
    rintro type c ⟨-, rfl⟩
    refine .ite (fun _ => .complain_bind grown) fun _ => ?_
    refine .after (Pointer.meets_element grown _ _) ?_
    rintro element c rfl
    refine .after (.pinned (Pointer.meets_base grown ⟨_, block, grown.fills⟩)) ?_
    rintro pointer c ⟨grown, -⟩
    refine .bind (Pointer.agree_offsets closed start paren head others grown (t :: u :: us) subtract element 1
      pointer) ?_
    intro v c grown
    exact .of_meets (.get_bind (Result.meets_deliver grown rfl _ _))

theorem Variable.agree_compileScope :
    Twin.Agree b (fun side => Variable.compileScope (ts.map side)) o.GrownTo fun _ => o.Grown := by
  have here : I b := grown.evolves.keeps closed start
  have inner : I { b with env := b.env.enter } := closed b b _ (.scope _) here
  have sequence := Operand.agree_compileSequence closed inner kept (.refl _)
  refine .inScope (.mono sequence ?_ fun f c inside => grown.trans inside.leaveTo)
  rintro r c ⟨inside, block⟩
  exact ⟨grown.trans inside.leaveTo, block⟩

end Operands

section Operand

variable (kept : (Contract.growth I).Kept t) (grown : o.Grown b)

include kept grown

theorem Pointer.agree_compileAddressOf (us : List Twin) :
    Twin.Agree b (fun side => Pointer.compileAddressOf ⟨paren, head, us.map side⟩ (side t) demand)
      o.GrownTo fun _ => o.Grown := by
  refine .bind (kept.agree closed start grown .address) ?_
  rintro r c ⟨grown, block⟩
  exact .of_meets (Result.meets_deliver grown block _ _)

theorem Pointer.agree_compileDereference :
    Twin.Agree b (fun side => Pointer.compileDereference (side t) demand) o.GrownTo fun _ => o.Grown := by
  refine .bind (kept.agree closed start grown .value) ?_
  rintro r c ⟨grown, block⟩
  refine .of_meets (.bind (Build.meets_known grown _) ?_)
  rintro type c ⟨-, rfl⟩
  dsimp only
  split
  · refine .bind (Result.meets_getValue grown ⟨_, block, grown.fills⟩) ?_
    rintro address c ⟨grown, -⟩
    cases demand with
    | address => exact .get_bind (.pure ⟨grown, rfl⟩)
    | value =>
      refine .bind (Build.meets_pinned_layout grown _ _) ?_
      rintro l c rfl
      refine .bind (Build.meets_emit grown _) ?_
      rintro v c ⟨grown, -⟩
      exact .get_bind (.pure ⟨grown, rfl⟩)
  · exact .complain grown

theorem Variable.agree_initialise (name : String) (type : Ty) (storage : IR.Value) :
    Twin.Agree b (fun side => Variable.initialise name type storage (side t)) (fun _ => o.Grown) fun _ => o.Grown := by
  refine .bind (kept.agree closed start grown .value) ?_
  rintro r c ⟨grown, block⟩
  refine .of_meets (.ite (fun _ => .complain_bind grown) fun _ => ?_)
  refine .bind (Result.meets_getValue grown ⟨_, block, grown.fills⟩) ?_
  rintro v c ⟨grown, -⟩
  exact .mono (Build.meets_store grown _ _) (fun _ _ stays => stays.1) fun _ _ h => h

end Operand

theorem Variable.agree_declare (name type : Twin) (init : Option Twin)
    (kept : ∀ t ∈ init, (Contract.growth I).Kept t) (grown : o.Grown b) :
    Twin.Agree b (fun side => Variable.declare (side name) (side type) (init.map side)) o.GrownTo fun _ => o.Grown := by
  simp only [Twin.Agree, Variable.declare, Twin.left, Twin.right]
  cases name.node.symbol? with
  | none => exact .complain grown
  | some x =>
    refine .after (Build.meets_ofReport grown _) ?_
    rintro declared c rfl
    refine .after (Build.meets_pinned_layout grown _ _) ?_
    rintro l c rfl
    refine .after (Build.meets_emit grown _) ?_
    rintro storage c ⟨grown, -⟩
    cases init with
    | none => exact .of_meets (.changed_bind (.get_bind (.pure ⟨grown.bindName _ _, rfl⟩)))
    | some t =>
      refine .bind (Variable.agree_initialise closed start (kept t rfl) grown x declared storage) ?_
      intro _ c grown
      exact .of_meets (.changed_bind (.get_bind (.pure ⟨grown.bindName _ _, rfl⟩)))

section Operands

variable (kept : ∀ t ∈ ts, (Contract.growth I).Kept t) (grown : o.Grown b)

include kept grown

theorem Variable.agree_compile :
    Twin.Agree b (fun side => Variable.compile ⟨paren, head, ts.map side⟩) o.GrownTo fun _ => o.Grown := by
  match ts with
  | [] => exact .complain grown
  | [_] => exact .complain grown
  | [name, type] => exact Variable.agree_declare closed start name type none (by simp) grown
  | [name, type, init] =>
    exact Variable.agree_declare closed start name type (some init) (by simpa using kept init (by simp)) grown
  | t :: u :: v :: w :: us =>
    simp only [Variable.compile, List.map_cons, List.length_cons, List.length_map]
    exact .complain grown

theorem Control.agree_compileReturn (ctx : Context) :
    Twin.Agree b (fun side => Control.compileReturn ctx ⟨paren, head, ts.map side⟩) o.GrownTo fun _ => o.Grown := by
  match ts with
  | [] =>
    refine .of_meets (.ite (fun _ => .complain_bind grown) fun _ => ?_)
    exact Control.meets_finish grown trivial
  | [t] =>
    refine .bind ((kept t List.mem_cons_self).agree closed start grown .value) ?_
    rintro r c ⟨grown, block⟩
    refine .of_meets (.ite (fun _ => .complain_bind grown) fun _ => ?_)
    refine .bind (Result.meets_getValue grown ⟨_, block, grown.fills⟩) ?_
    rintro v c ⟨grown, -⟩
    refine .bind (Control.meets_returnValue grown _ _) ?_
    rintro t c ⟨grown, can⟩
    exact Control.meets_finish grown can
  | t :: u :: us =>
    simp only [Control.compileReturn, List.map_cons, List.length_cons, List.length_map]
    exact .complain grown

theorem Builtin.agree_compile (ctx : Context) (form : Builtin) :
    Twin.Agree b (fun side => form.compile ctx ⟨paren, head, ts.map side⟩ demand) o.GrownTo fun _ => o.Grown := by
  refine Builtin.agree_compile_of (fun _ _ => grown) form
    (fun r c h => .of_meets (Result.meets_deliver h.1 h.2 _ _))
    (fun subtract => Pointer.agree_compileOffset closed start paren head demand kept grown subtract)
    (Operand.agree_compileSequence closed start kept grown) (Variable.agree_compileScope closed start kept grown)
    (Variable.agree_compile closed start paren head kept grown)
    (Control.agree_compileReturn closed start paren head kept grown ctx) ?_
  rintro t rfl
  have single := kept t List.mem_cons_self
  exact ⟨Pointer.agree_compileAddressOf closed start paren head demand single grown [t],
    Pointer.agree_compileDereference closed start demand single grown,
    .of_meets (Control.meets_compileLabel grown t.left), .of_meets (Control.meets_compileGoto grown t.left)⟩

theorem Form.agree_attempt :
    Twin.Agree b (fun side => Build.attempt (Operand.compileAll (ts.map side)))
      (fun args c => o.Grown c ∧ ∀ rs ∈ args, ∀ r ∈ rs, r.PlacedIn o) fun _ => o.Grown := by
  refine .attempt (.mono (Operand.agree_compileAll closed start kept grown) ?_ ?_)
  · rintro rs c ⟨grown, placed⟩
    exact ⟨grown, by simpa using placed⟩
  · intro f c grown
    split
    · exact ⟨grown, by simp⟩
    · exact grown

theorem Form.agree_compileShared (ctx : Context) (form : Builtin) :
    Twin.Agree b (fun side => Form.compileShared ctx ⟨paren, head, ts.map side⟩ demand form)
      o.GrownTo fun _ => o.Grown := by
  have here : I b := grown.evolves.keeps closed start
  have tried := Form.agree_attempt closed here kept (.refl b)
  unfold Form.compileShared
  refine .get_bind (.bind (.mono tried (fun _ _ h => h) fun f c after => grown.trans after) ?_)
  rintro args c ⟨after, placed⟩
  dsimp only
  split
  · rename_i rs callee fits
    have compiled := (Form.fitting_eq_some fits).1
    rw [Twin.emit_eq]
    exact .of_meets (Call.meets_emit (grown.trans after) _ _ _ _ fun r inside =>
      (placed rs compiled r inside).mono grown)
  · refine .changed_bind ?_
    rw [after.rollback_mark]
    exact Builtin.agree_compile closed start paren head demand kept grown ctx form

theorem Form.agree_compileList (ctx : Context) :
    Twin.Agree b (fun side => Form.compileList ctx paren (ts.map side) demand) o.GrownTo fun _ => o.Grown := by
  refine Form.agree_compileList_of (fun _ _ => grown) fun t us split head => ?_
  have others : ∀ t ∈ us, (Contract.growth I).Kept t := fun t inside =>
    kept t (split ▸ List.mem_cons_of_mem _ inside)
  exact ⟨fun form => Builtin.agree_compile closed start paren head demand others grown ctx form,
    Call.agree_compile closed start paren head demand others grown ctx,
    fun form => Form.agree_compileShared closed start paren head demand others grown ctx form⟩

end Operands

end Forms

theorem Contract.growth_inductive {I : Body → Prop} (closed : ∀ o b c, Body.Step o b c → I b → I c)
    (ctx : Context) : (Contract.growth I).Inductive ctx where
  atom token demand b _ := Atom.meets_compile (.refl b) token demand
  list paren _ demand b kept start := Form.agree_compileList closed start paren demand kept (.refl b) ctx

def Body.entry : Body := ({} : Body).startBlock "entry"

theorem Body.agree_fill {I : Body → Prop} (closed : ∀ o b c, Body.Step o b c → I b → I c) (start : I Body.entry)
    {m : Monitor} (grants : (Contract.growth I).Grants m) (ctx : Context) (forms : List Node) :
    Agree {} (Body.fill ctx (Form.operands ctx forms)) (Body.fill ctx (Form.operandsUnder m ctx forms))
      (fun _ => Body.entry.Grown) fun _ => Body.entry.Grown := by
  have kept := Form.kept_twins (Contract.growth_inductive closed ctx) grants forms
  rw [Form.operands_eq_left (m := m), Form.operandsUnder_eq_right]
  refine .changed_bind (.after (Body.meets_enterParams (.refl _) _ _) ?_)
  intro _ c grown
  refine .bind (Operand.agree_compileSequence closed start kept grown) ?_
  rintro r d ⟨grown, -⟩
  exact .of_meets (.pure grown)

/-- Gotos are settled if each has met its label. Otherwise there is a complaint about each that has not. -/
theorem Body.meets_settleGotos (b : Body) (name : String) :
    Meets b (Body.settleGotos name) (fun _ c => b.unresolved = [] ∧ c = b.resolveGotos) fun f _ =>
      ∃ g gs, b.unresolved = g :: gs ∧ f = .reported ((Complaint.gotoUndefined g.label name).report g.token)
        (gs.map fun g => (Complaint.gotoUndefined g.label name).report g.token) := by
  refine .get_bind ?_
  split
  · rename_i g gs waiting
    exact .throw ⟨g, gs, waiting, rfl⟩
  · rename_i met
    exact .of_ok rfl ⟨met, rfl⟩

theorem Form.meets_compileAll (ctx : Context) (items : List Node) (b : Body) :
    Meets b (Operand.compileAll (Form.operands ctx items)) (fun _ c => b.Grown c) fun _ c => b.Grown c := by
  have closed : ∀ o b c : Body, Body.Step o b c → True → True := fun _ _ _ _ _ => trivial
  have kept := Form.kept_twins (Contract.growth_inductive closed ctx) (Contract.grants_silent _) items
  have agree := Operand.agree_compileAll closed trivial kept (.refl b)
  rw [Form.operands_eq_left (m := .silent)]
  exact agree.2.mono (fun _ _ h => h.1) fun _ _ h => h

end FormCompiler
