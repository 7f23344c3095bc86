import FormCompiler.Body.Form
import FormCompiler.Proofs.Meets

namespace FormCompiler

open Build (Meets Agree)

/-- `after` is asked about the body in which a form began, its result, and the body in which it ended;
`failing` about the fault of a form that fails. -/
structure Monitor where
  before : Body → Bool
  after : Body → Result → Body → Bool
  failing : Fault → Bool := fun _ => true
  alarm : Fault

namespace Monitor

def silent : Monitor where
  before _ := true
  after _ _ _ := true
  alarm := .broken .incomplete

def watch (m : Monitor) (x : Build Result) : Build Result := fun b =>
  if m.before b then
    match x b with
    | .ok r c => if m.after b r c then .ok r c else .error m.alarm c
    | .error f c => if m.failing f then .error f c else .error m.alarm c
  else .error m.alarm b

end Monitor

namespace Form

mutual
def compileUnder (m : Monitor) (ctx : Context) : Node → Demand → Build Result
  | .atom token, demand => m.watch (Atom.compile token demand)
  | .list paren items, demand => m.watch (compileList ctx paren (operandsUnder m ctx items) demand)

def operandsUnder (m : Monitor) (ctx : Context) : List Node → List Operand
  | [] => []
  | n :: ns => ⟨n, compileUnder m ctx n⟩ :: operandsUnder m ctx ns
end

end Form

structure Twin where
  node : Node
  first : Demand → Build Result
  second : Demand → Build Result

namespace Twin

def left (t : Twin) : Operand := ⟨t.node, t.first⟩

def right (t : Twin) : Operand := ⟨t.node, t.second⟩

/-- What is run with one side of its twins agrees with what is run with the other. -/
abbrev Agree {α : Type} (b : Body) (run : (Twin → Operand) → Build α) (done : α → Body → Prop)
    (failed : Fault → Body → Prop) : Prop :=
  Build.Agree b (run left) (run right) done failed

theorem tokens_eq (paren head : Token) (ts : List Twin) :
    Invocation.tokens ⟨paren, head, ts.map left⟩ = Invocation.tokens ⟨paren, head, ts.map right⟩ := by
  simp only [Invocation.tokens, List.map_map]
  rfl

theorem emit_eq (paren head : Token) (ts : List Twin) :
    Call.emit ⟨paren, head, ts.map left⟩ = Call.emit ⟨paren, head, ts.map right⟩ := by
  funext callee args demand
  simp only [Call.emit, tokens_eq]

end Twin

def Builtin.isUnary : Builtin → Bool
  | addressOf | dereference | label | jump => true
  | _ => false

theorem Builtin.compile_of_arity {ctx : Context} {call : Invocation} {demand : Demand} {form : Builtin}
    (unary : form.isUnary = true) (given : call.operands.length ≠ 1) :
    form.compile ctx call demand =
      Build.complain (.arity call.head.literal (Text.plural 1 "operand") call.operands.length) call.paren := by
  obtain ⟨paren, head, operands⟩ := call
  rcases operands with _ | ⟨o, _ | ⟨p, rest⟩⟩
  · cases form with
    | addressOf | dereference | label | jump => rfl
    | _ => cases unary
  · exact absurd rfl given
  · cases form with
    | addressOf | dereference | label | jump => rfl
    | _ => cases unary

theorem Form.fitting_eq_some {ctx : Context} {name : String} {args : Option (List Result)} {rs : List Result}
    {callee : Function} (h : Form.fitting ctx name args = some (rs, callee)) :
    args = some rs ∧ ctx.registry.lookup name (rs.map (·.type)) = some callee := by
  cases args with
  | none => cases h
  | some qs =>
    cases found : ctx.registry.lookup name (qs.map (·.type)) with
    | none => simp [Form.fitting, found] at h
    | some f =>
      simp only [Form.fitting, Option.bind_eq_bind, Option.bind_some, found, Option.pure_def, Option.some.injEq,
        Prod.mk.injEq] at h
      obtain ⟨rfl, rfl⟩ := h
      exact ⟨rfl, found⟩

section Dispatch

variable {ctx : Context} {paren : Token} {demand : Demand} {b : Body} {done : Result → Body → Prop}
  {failed : Fault → Body → Prop} {ts : List Twin} (refused : ∀ c token, failed (.complaint c (some token)) b)

include refused

theorem Builtin.agree_compile_of {head : Token} (form : Builtin)
    (delivered : ∀ r c, done r c → Agree c (r.deliver paren demand) (r.deliver paren demand) done failed)
    (offset : ∀ subtract, Twin.Agree b (fun side => Pointer.compileOffset ⟨paren, head, ts.map side⟩ subtract demand)
      done failed)
    (sequence : Twin.Agree b (fun side => Operand.compileSequence (ts.map side)) done failed)
    (scope : Twin.Agree b (fun side => Variable.compileScope (ts.map side)) done failed)
    (declare : Twin.Agree b (fun side => Variable.compile ⟨paren, head, ts.map side⟩) done failed)
    (ret : Twin.Agree b (fun side => Control.compileReturn ctx ⟨paren, head, ts.map side⟩) done failed)
    (single : ∀ t, ts = [t] →
      Twin.Agree b (fun side => Pointer.compileAddressOf ⟨paren, head, ts.map side⟩ (side t) demand) done failed ∧
      Twin.Agree b (fun side => Pointer.compileDereference (side t) demand) done failed ∧
      Twin.Agree b (fun side => Control.compileLabel (side t)) done failed ∧
      Twin.Agree b (fun side => Control.compileGoto (side t)) done failed) :
    Twin.Agree b (fun side => form.compile ctx ⟨paren, head, ts.map side⟩ demand) done failed := by
  by_cases wrong : form.isUnary = true ∧ ts.length ≠ 1
  · dsimp only [Twin.Agree]
    rw [Builtin.compile_of_arity wrong.1 (by simpa using wrong.2),
      Builtin.compile_of_arity wrong.1 (by simpa using wrong.2), List.length_map, List.length_map]
    exact .complain (refused _ _)
  have one (unary : form.isUnary = true) : ∃ t, ts = [t] :=
    List.length_eq_one_iff.mp (by simpa [unary] using wrong)
  cases form with
  | pointerAdd => exact offset false
  | pointerSubtract => exact offset true
  | sequence => exact .bind sequence delivered
  | scope => exact .bind scope delivered
  | declare => exact .bind declare delivered
  | ret => exact .bind ret delivered
  | addressOf =>
    obtain ⟨t, rfl⟩ := one rfl
    exact (single t rfl).1
  | dereference =>
    obtain ⟨t, rfl⟩ := one rfl
    exact (single t rfl).2.1
  | label =>
    obtain ⟨t, rfl⟩ := one rfl
    exact .bind (single t rfl).2.2.1 delivered
  | jump =>
    obtain ⟨t, rfl⟩ := one rfl
    exact .bind (single t rfl).2.2.2 delivered

theorem Form.agree_compileList_of
    (invoked : ∀ t us, ts = t :: us → ∀ head,
      (∀ form : Builtin, Twin.Agree b (fun side => form.compile ctx ⟨paren, head, us.map side⟩ demand) done failed) ∧
      Twin.Agree b (fun side => Call.compile ctx ⟨paren, head, us.map side⟩ demand) done failed ∧
      ∀ form, Twin.Agree b (fun side => Form.compileShared ctx ⟨paren, head, us.map side⟩ demand form) done failed) :
    Twin.Agree b (fun side => Form.compileList ctx paren (ts.map side) demand) done failed := by
  match ts with
  | [] => exact .complain (refused _ _)
  | ⟨.list _ _, _, _⟩ :: _ => exact .complain (refused _ _)
  | ⟨.atom head, _, _⟩ :: us =>
    obtain ⟨builtin, call, shared⟩ := invoked _ us rfl head
    refine .ite (fun _ => ?_) fun _ => .complain (refused _ _)
    unfold Form.compileInvocation
    dsimp only
    split
    · split
      · exact .complain (refused _ _)
      · exact builtin _
      · exact call
      · exact shared _
    · split
      · exact builtin _
      · exact .complain (refused _ _)
    · exact .complain (refused _ _)

end Dispatch

/-- What a form can rely on where it begins, and what it owes where it succeeds or fails. -/
structure Contract where
  start : Body → Prop
  done : Body → Result → Body → Prop
  failed : Body → Fault → Body → Prop

namespace Contract

/-- Both ways to compile a node do the same wherever the contract lets them begin, and keep it. -/
def Kept (c : Contract) (t : Twin) : Prop :=
  ∀ demand b, c.start b → Agree b (t.first demand) (t.second demand) (c.done b) (c.failed b)

structure Inductive (c : Contract) (ctx : Context) : Prop where
  atom : ∀ token demand b, c.start b → Meets b (Atom.compile token demand) (c.done b) (c.failed b)
  list : ∀ paren (ts : List Twin) demand b, (∀ t ∈ ts, c.Kept t) → c.start b →
    Twin.Agree b (fun side => Form.compileList ctx paren (ts.map side) demand) (c.done b) (c.failed b)

structure Grants (c : Contract) (m : Monitor) : Prop where
  before : ∀ b, c.start b → m.before b = true
  after : ∀ b r d, c.start b → c.done b r d → m.after b r d = true
  failing : ∀ b f d, c.start b → c.failed b f d → m.failing f = true

theorem grants_silent (c : Contract) : c.Grants .silent := ⟨fun _ _ => rfl, fun _ _ _ _ _ => rfl, fun _ _ _ _ _ => rfl⟩

end Contract

theorem Build.Agree.watch {m : Monitor} {b : Body} {x y : Build Result} {done : Result → Body → Prop}
    {failed : Fault → Body → Prop} (h : Agree b x y done failed) (before : m.before b = true)
    (after : ∀ r c, done r c → m.after b r c = true) (failing : ∀ f c, failed f c → m.failing f = true) :
    Agree b x (m.watch y) done failed := by
  refine ⟨?_, h.2⟩
  cases run : x b with
  | ok r c =>
    have other : y b = .ok r c := h.1 ▸ run
    have fine := after r c (h.2.ok run)
    simp only [Monitor.watch, before, other, fine, if_true]
  | error f c =>
    have other : y b = .error f c := h.1 ▸ run
    have fine := failing f c (h.2.error run)
    simp only [Monitor.watch, before, other, fine, if_true]

namespace Form

variable {c : Contract} {m : Monitor} {ctx : Context}

def twins (m : Monitor) (ctx : Context) (ns : List Node) : List Twin :=
  ns.map fun n => ⟨n, compile ctx n, compileUnder m ctx n⟩

theorem operands_eq_left (ns : List Node) : operands ctx ns = (twins m ctx ns).map Twin.left := by
  induction ns with
  | nil => rfl
  | cons n ns ih => rw [operands, ih]; rfl

theorem operandsUnder_eq_right (ns : List Node) : operandsUnder m ctx ns = (twins m ctx ns).map Twin.right := by
  induction ns with
  | nil => rfl
  | cons n ns ih => rw [operandsUnder, ih]; rfl

mutual
theorem kept_compileUnder (keeps : c.Inductive ctx) (grants : c.Grants m) :
    (n : Node) → c.Kept ⟨n, compile ctx n, compileUnder m ctx n⟩
  | .atom token => by
    intro demand b start
    have plain := Agree.of_meets (keeps.atom token demand b start)
    simp only [compile, compileUnder]
    exact plain.watch (grants.before b start) (fun r d => grants.after b r d start)
      fun f d => grants.failing b f d start
  | .list paren items => by
    intro demand b start
    have inside := kept_twins keeps grants items
    have plain := keeps.list paren (twins m ctx items) demand b inside start
    simp only [compile, compileUnder, operands_eq_left (m := m), operandsUnder_eq_right]
    exact plain.watch (grants.before b start) (fun r d => grants.after b r d start)
      fun f d => grants.failing b f d start

theorem kept_twins (keeps : c.Inductive ctx) (grants : c.Grants m) :
    (ns : List Node) → ∀ t ∈ twins m ctx ns, c.Kept t
  | [] => by intro t inside; cases inside
  | n :: ns => by
    intro t inside
    rcases List.mem_cons.mp inside with rfl | inside
    · exact kept_compileUnder keeps grants n
    · exact kept_twins keeps grants ns t inside
end

end Form

end FormCompiler
