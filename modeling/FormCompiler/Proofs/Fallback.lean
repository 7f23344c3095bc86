import FormCompiler.Node.Read
import FormCompiler.Proofs.Growth

namespace FormCompiler

structure Report.SameTopic (r s : Report) : Prop where
  id : r.id = s.id
  kind : r.kind = s.kind
  token : r.token = s.token

inductive Fault.Alike : Fault → Fault → Prop
  | same (f : Fault) : Alike f f
  | reworded {r s : Report} (more : List Report) (h : r.SameTopic s) : Alike (.reported r more) (.reported s more)

namespace Build

inductive Alike {α : Type} : EStateM.Result Fault Body α → EStateM.Result Fault Body α → Prop
  | ok (a : α) (b : Body) : Alike (.ok a b) (.ok a b)
  | error {f g : Fault} (h : f.Alike g) (b : Body) : Alike (.error f b) (.error g b)

variable {α β : Type}

theorem Alike.refl (r : EStateM.Result Fault Body α) : Alike r r := by
  cases r with
  | ok a b => exact .ok a b
  | error f b => exact .error (.same f) b

theorem Alike.complain {c d : Complaint} (same : c.topic = d.topic) (token : Token) (b : Body) :
    Alike ((Build.complain c token : Build α) b) ((Build.complain d token : Build α) b) := by
  have topic : (c.report (some token)).SameTopic (d.report (some token)) :=
    ⟨congrArg Report.Topic.id same, congrArg (fun t => (Report.Topic.entry t).kind) same, rfl⟩
  exact .error (.reworded [] topic) b

theorem Alike.bind {x y : Build α} {f g : α → Build β} {b : Body} (first : Alike (x b) (y b))
    (rest : ∀ a c, Alike (f a c) (g a c)) : Alike ((x >>= f) b) ((y >>= g) b) := by
  simp only [Bind.bind, EStateM.bind]
  revert first
  generalize x b = r
  generalize y b = s
  intro first
  cases first with
  | ok a c => exact rest a c
  | error h c => exact .error h c

theorem Alike.complain_bind {c d : Complaint} {f g : α → Build β} (same : c.topic = d.topic) (token : Token)
    (b : Body) : Alike ((Build.complain c token >>= f) b) ((Build.complain d token >>= g) b) := by
  have topic : (c.report (some token)).SameTopic (d.report (some token)) :=
    ⟨congrArg Report.Topic.id same, congrArg (fun t => (Report.Topic.entry t).kind) same, rfl⟩
  exact .error (.reworded [] topic) b

theorem Alike.after {x : Build α} {f g : α → Build β} {b : Body} (rest : ∀ a c, Alike (f a c) (g a c)) :
    Alike ((x >>= f) b) ((x >>= g) b) := .bind (.refl _) rest

theorem Alike.ite {p : Prop} [Decidable p] {x y x' y' : Build α} {b : Body} (hx : Alike (x b) (x' b))
    (hy : Alike (y b) (y' b)) : Alike ((if p then x else y) b) ((if p then x' else y') b) := by
  split
  · exact hx
  · exact hy

end Build

open Build (Alike Agree Meets)

section Head

-- Two invocations that differ in how their head is written.
variable (paren head core : Token) (operands : List Operand)

theorem Pointer.alike_offsets (subtract : Bool) (element : IR.Layout) (position : Nat) (os : List Operand)
    (pointer : IR.Value) (b : Body) :
    Alike (Pointer.offsets ⟨paren, head, operands⟩ subtract element position os pointer b)
      (Pointer.offsets ⟨paren, core, operands⟩ subtract element position os pointer b) := by
  induction os generalizing position pointer b with
  | nil => exact .refl _
  | cons o os ih =>
    simp only [Pointer.offsets]
    refine .after fun r c => .after fun type d => .ite (.complain_bind ?_ _ _) ?_
    · rfl
    · refine .after fun v c => .after fun w c => .ite ?_ ?_
      · exact .after fun by_ c => .after fun next c => ih _ _ _
      · exact .after fun by_ c => .after fun next c => ih _ _ _

theorem Pointer.alike_compileOffset (subtract : Bool) (demand : Demand) (b : Body) :
    Alike (Pointer.compileOffset ⟨paren, head, operands⟩ subtract demand b)
      (Pointer.compileOffset ⟨paren, core, operands⟩ subtract demand b) := by
  have topic : (Complaint.pointerArity head.literal).topic = (Complaint.pointerArity core.literal).topic := rfl
  match operands with
  | [] => exact Alike.complain topic paren b
  | [_] => exact Alike.complain topic paren b
  | o :: first :: rest =>
    simp only [Pointer.compileOffset]
    refine .after fun r c => .after fun type d => .ite (.complain_bind ?_ _ _) ?_
    · rfl
    · refine .after fun element c => .after fun pointer c => .bind ?_ fun v c => .refl _
      exact Pointer.alike_offsets paren head core _ _ _ _ _ _ _

theorem Builtin.alike_compile (ctx : Context) (demand : Demand) (form : Builtin) (b : Body) :
    Alike (form.compile ctx ⟨paren, head, operands⟩ demand b)
      (form.compile ctx ⟨paren, core, operands⟩ demand b) := by
  by_cases wrong : form.isUnary = true ∧ operands.length ≠ 1
  · rw [Builtin.compile_of_arity wrong.1 wrong.2, Builtin.compile_of_arity wrong.1 wrong.2]
    refine .complain ?_ _ _
    rfl
  have single (unary : form.isUnary = true) : ∃ o, operands = [o] :=
    List.length_eq_one_iff.mp (by simpa [unary] using wrong)
  cases form with
  | pointerAdd => exact Pointer.alike_compileOffset paren head core operands false demand b
  | pointerSubtract => exact Pointer.alike_compileOffset paren head core operands true demand b
  | addressOf | dereference | label | jump =>
    obtain ⟨o, rfl⟩ := single rfl
    exact .refl _
  | sequence | scope | declare | ret => exact .refl _

end Head

theorem splitQualified_of_plain {s name : String} (h : splitQualified s = ("", name)) : name = s := by
  unfold splitQualified at h
  dsimp only at h
  split at h
  · exact (Prod.mk.inj h).2.symm
  · rename_i some
    have empty := congrArg String.toList (Prod.mk.inj h).1
    rw [String.toList_ofList] at empty
    simp [empty] at some

theorem Builtin.ofName?_name (form : Builtin) : Builtin.ofName? form.name = some form := by
  cases form <;> rfl

theorem Builtin.splitQualified_name (form : Builtin) : splitQualified form.name = ("", form.name) := by
  cases form <;> rfl

theorem Builtin.splitQualified_core (form : Builtin) :
    splitQualified ("core." ++ form.name) = ("core", form.name) := by
  cases form <;> rfl

/-- No function of that name takes the operands: they cannot be compiled, through a fault of the user's,
or they can and none fits their types. -/
def Form.FallsBack (ctx : Context) (name : String) (operands : List Operand) (b : Body) : Prop :=
  Meets b (Operand.compileAll operands)
    (fun rs _ => ctx.registry.lookup name (rs.map (·.type)) = none) fun f _ => f.isUserFault = true

instance (ctx : Context) (name : String) (operands : List Operand) (b : Body) :
    Decidable (Form.FallsBack ctx name operands b) := inferInstanceAs (Decidable (Meets b _ _ _))

variable {ctx : Context} {name : String} {items : List Node} {b : Body}

theorem Form.FallsBack.attempt (falls : FallsBack ctx name (Form.operands ctx items) b) :
    Meets b (Build.attempt (Operand.compileAll (Form.operands ctx items)))
      (fun args c => Form.fitting ctx name args = none ∧ c.rollback b.mark = b) fun _ _ => False := by
  refine (Agree.attempt (.of_meets (.mono (falls.and (Form.meets_compileAll ctx items b)) ?_ ?_))).2
  · rintro rs c ⟨unfit, grown⟩
    exact ⟨by simp [Form.fitting, unfit], grown.rollback_mark⟩
  · rintro f c ⟨user, grown⟩
    simp only [user, if_true]
    exact ⟨rfl, grown.rollback_mark⟩

theorem Form.compileShared_of_fallsBack (paren head : Token) (demand : Demand) (form : Builtin)
    (falls : FallsBack ctx head.literal (Form.operands ctx items) b) :
    Form.compileShared ctx ⟨paren, head, Form.operands ctx items⟩ demand form b =
      form.compile ctx ⟨paren, head, Form.operands ctx items⟩ demand b := by
  have tried := falls.attempt
  cases run : Build.attempt (Operand.compileAll (Form.operands ctx items)) b with
  | error f c => exact (tried.error run).elim
  | ok args c =>
    obtain ⟨unfit, back⟩ := tried.ok run
    unfold Form.compileShared
    show (Build.attempt (Operand.compileAll (Form.operands ctx items)) >>= _) b = _
    rw [Build.bind_of_ok run]
    simp only [unfit]
    show form.compile ctx ⟨paren, head, Form.operands ctx items⟩ demand (c.rollback b.mark) = _
    rw [back]

/-- A form whose head names functions that do not take its operands is compiled as the built-in form of that name,
with reports on the same topics and into the same body. -/
theorem Form.fallback_alike_core (form : Builtin) (paren head : Token) (args : List Node) (demand : Demand)
    (symbol : head.kind = .symbol) (named : head.literal = form.name)
    (falls : FallsBack ctx form.name (Form.operands ctx args) b) :
    Alike (Form.compile ctx (.list paren (.atom head :: args)) demand b)
      (Form.compile ctx (.list paren (.atom { head with literal := "core." ++ form.name } :: args)) demand b) := by
  have plain : Form.compile ctx (.list paren (.atom head :: args)) demand b =
      form.compile ctx ⟨paren, head, Form.operands ctx args⟩ demand b := by
    simp only [Form.compile, Form.operands, Form.compileList, symbol, if_true, Form.compileInvocation, named,
      Builtin.splitQualified_name, Builtin.ofName?_name]
    cases ctx.registry.has form.name with
    | false => rfl
    | true => exact Form.compileShared_of_fallsBack paren head demand form (named ▸ falls)
  have core : Form.compile ctx (.list paren (.atom { head with literal := "core." ++ form.name } :: args)) demand b =
      form.compile ctx ⟨paren, { head with literal := "core." ++ form.name }, Form.operands ctx args⟩ demand b := by
    simp only [Form.compile, Form.operands, Form.compileList, symbol, if_true, Form.compileInvocation,
      Builtin.splitQualified_core, Builtin.ofName?_name]
  rw [plain, core]
  exact Builtin.alike_compile ..

/-- A function `do` that takes a truth value, and operands that it does not take: they declare a variable,
end a block and leave a goto to a label that is only met behind it. -/
theorem Form.fallback_alike_core_do :
    let f : Function := { returnType := .void, params := [⟨"b", .bool, none⟩], internalName := .ofString "do_b" }
    let ctx : Context := ⟨⟨[("do", [f])]⟩, "do", f⟩
    let args := (Node.read "" "(var x int32 7) (goto end) (label end) (@ (# x))").nodes
    let form (head : String) : Node := .list (.synthetic "(" "") (.atom (.synthetic head "") :: args)
    let b := ({} : Body).startBlock "entry"
    FallsBack ctx "do" (Form.operands ctx args) b ∧
      Alike (Form.compile ctx (form "do") .value b) (Form.compile ctx (form "core.do") .value b) := by
  intro f ctx args form b
  have falls : FallsBack ctx "do" (Form.operands ctx args) b := by decide +kernel
  exact ⟨falls, Form.fallback_alike_core .sequence (.synthetic "(" "") (.synthetic "do" "") args .value rfl rfl falls⟩

end FormCompiler
