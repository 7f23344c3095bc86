import FormCompiler.Proofs.Fallback
import FormCompiler.Proofs.Linking

namespace FormCompiler

open Build (Agree Meets)
open IR (Func Inst Layout Module Place Term Value)

namespace Form

/-- As `compileShared`, but the operands are compiled into a copy of the body, which is thrown away if no function
takes them. -/
def sharedApart (ctx : Context) (call : Invocation) (demand : Demand) (form : Builtin) : Build Result := fun b =>
  match Build.attempt (Operand.compileAll call.operands) b with
  | .error f copy => .error f copy
  | .ok args copy =>
    match fitting ctx call.head.literal args with
    | some (rs, callee) => Call.emit call callee rs demand copy
    | none => form.compile ctx call demand b

def shared? (ctx : Context) (name : String) : Option Builtin :=
  if (splitQualified name).1 = "" ∧ ctx.registry.has name then Builtin.ofName? name else none

def invocationApart (ctx : Context) (call : Invocation) (demand : Demand) : Build Result :=
  match shared? ctx call.head.literal with
  | some form => sharedApart ctx call demand form
  | none => compileInvocation ctx call demand

def listApart (ctx : Context) (paren : Token) (operands : List Operand) (demand : Demand) : Build Result :=
  match operands with
  | ⟨.atom head, _⟩ :: rest =>
    if head.kind = .symbol then invocationApart ctx ⟨paren, head, rest⟩ demand
    else compileList ctx paren operands demand
  | operands => compileList ctx paren operands demand

mutual
def compileApart (ctx : Context) : Node → Demand → Build Result
  | .atom token, demand => Atom.compile token demand
  | .list paren items, demand => listApart ctx paren (operandsApart ctx items) demand

def operandsApart (ctx : Context) : List Node → List Operand
  | [] => []
  | n :: ns => ⟨n, compileApart ctx n⟩ :: operandsApart ctx ns
end

variable {ctx : Context}

theorem meets_attempt (ctx : Context) (ns : List Node) (b : Body) :
    Meets b (Build.attempt (Operand.compileAll (operands ctx ns))) (fun _ c => c.rollback b.mark = b)
      fun _ _ => True := by
  refine (Agree.attempt (.of_meets ((meets_compileAll ctx ns b).mono ?_ ?_))).2
  · intro rs c grown
    exact grown.rollback_mark
  · intro f c grown
    split
    · exact grown.rollback_mark
    · trivial

theorem compileShared_of_rollback {call : Invocation} {demand : Demand} {form : Builtin} {b : Body}
    (back : ∀ args c, Build.attempt (Operand.compileAll call.operands) b = .ok args c → c.rollback b.mark = b) :
    compileShared ctx call demand form b = sharedApart ctx call demand form b := by
  unfold compileShared sharedApart
  show (Build.attempt (Operand.compileAll call.operands) >>= _) b = _
  cases run : Build.attempt (Operand.compileAll call.operands) b with
  | error f c =>
    rw [Build.bind_of_error run]
  | ok args c =>
    rw [Build.bind_of_ok run]
    dsimp only
    cases fits : fitting ctx call.head.literal args with
    | some found => rfl
    | none =>
      show form.compile ctx call demand (c.rollback b.mark) = _
      rw [back args c run]

theorem compileShared_eq_apart (paren head : Token) (ns : List Node) (demand : Demand) (form : Builtin) :
    compileShared ctx ⟨paren, head, operands ctx ns⟩ demand form =
      sharedApart ctx ⟨paren, head, operands ctx ns⟩ demand form := by
  funext b
  exact compileShared_of_rollback fun _ _ run => (meets_attempt ctx ns b).ok run

/-- A form under a shared name fails with an operand, calls one of the functions behind its operands, or is the
built-in form from where it began, just if it falls back to that. Which of them depends on no more than what became of
the operands. -/
theorem sharedApart_cases (ctx : Context) (paren head : Token) (demand : Demand) (form : Builtin) (b : Body)
    (tried : EStateM.Result Fault Body (List Result)) :
    (∃ f c, tried = .error f c ∧ ∀ os, Operand.compileAll os b = tried →
        sharedApart ctx ⟨paren, head, os⟩ demand form b = .error f c) ∨
      (∃ rs callee c, tried = .ok rs c ∧ ∀ os, Operand.compileAll os b = tried →
        ¬FallsBack ctx head.literal os b ∧
        sharedApart ctx ⟨paren, head, os⟩ demand form b = Call.emit ⟨paren, head, os⟩ callee rs demand c) ∨
      ∀ os, Operand.compileAll os b = tried → FallsBack ctx head.literal os b ∧
        sharedApart ctx ⟨paren, head, os⟩ demand form b = form.compile ctx ⟨paren, head, os⟩ demand b := by
  unfold sharedApart Build.attempt
  cases tried with
  | error f c =>
    cases user : f.isUserFault with
    | true =>
      refine .inr (.inr fun os run => ⟨.of_error run user, ?_⟩)
      simp only [run, user, if_true]
      rfl
    | false =>
      refine .inl ⟨f, c, rfl, fun os run => ?_⟩
      simp only [run, user]
      rfl
  | ok rs c =>
    cases fits : fitting ctx head.literal (some rs) with
    | none =>
      have unfit : ctx.registry.lookup head.literal (rs.map (·.type)) = none := by
        simpa [fitting, ← Option.eq_none_iff_forall_ne_some] using fits
      refine .inr (.inr fun os run => ⟨.of_ok run unfit, ?_⟩)
      simp only [run, fits]
    | some found =>
      obtain ⟨qs, callee⟩ := found
      obtain ⟨same, fit⟩ := fitting_eq_some fits
      cases same
      refine .inr (.inl ⟨rs, callee, c, rfl, fun os run => ⟨fun falls => ?_, ?_⟩⟩)
      · cases fit.symm.trans (Meets.ok falls run)
      · simp only [run, fits]

theorem compileInvocation_eq_apart (paren head : Token) (ns : List Node) (demand : Demand) :
    compileInvocation ctx ⟨paren, head, operands ctx ns⟩ demand =
      invocationApart ctx ⟨paren, head, operands ctx ns⟩ demand := by
  unfold invocationApart
  split
  · rename_i form named
    unfold shared? at named
    split at named
    · rename_i both
      obtain ⟨plain, has⟩ := both
      have rest : (splitQualified head.literal).2 = head.literal := splitQualified_of_plain (Prod.ext plain rfl)
      have split : splitQualified head.literal = ("", head.literal) := Prod.ext plain rest
      simp only [compileInvocation, split, named, has]
      exact compileShared_eq_apart paren head ns demand form
    · cases named
  · rfl

mutual
theorem compile_eq_apart (ctx : Context) : (n : Node) → compile ctx n = compileApart ctx n
  | .atom token => rfl
  | .list paren items => by
    funext demand
    rw [compile, compileApart, ← operands_eq_apart ctx items]
    match items with
    | [] => rfl
    | .list _ _ :: _ => rfl
    | .atom head :: ns =>
      rw [operands, listApart]
      split
      · rename_i symbol
        rw [compileList, if_pos symbol]
        exact compileInvocation_eq_apart paren head ns demand
      · rfl

theorem operands_eq_apart (ctx : Context) : (ns : List Node) → operands ctx ns = operandsApart ctx ns
  | [] => rfl
  | n :: ns => by rw [operands, operandsApart, compile_eq_apart ctx n, operands_eq_apart ctx ns]
end

end Form

namespace Body

def buildApart (ctx : Context) (forms : List Node) : Build Unit := do
  fill ctx (Form.operandsApart ctx forms)
  settleGotos ctx.name
  modify (·.close (fallOff ctx.function.returnType))

def compileApart (ctx : Context) (forms : List Node) : Except Fault Body :=
  match buildApart ctx forms {} with
  | .ok _ b => .ok b
  | .error f _ => .error f

theorem compile_eq_apart (ctx : Context) (forms : List Node) : compile ctx forms = compileApart ctx forms := by
  have same : build ctx forms = buildApart ctx forms := by
    rw [build, buildApart, Form.operands_eq_apart]
  rw [compile, same]
  rfl

theorem target_lt_of_compile {ctx : Context} {forms : List Node} {b : Body} (h : Body.compile ctx forms = .ok b)
    {k target : Nat} (ends : b.term? k = some (.br target)) : target < b.blocks.size := by
  obtain ⟨filled, -, -, finishes⟩ := finishes_of_compile h
  obtain ⟨name, -, -, named⟩ := finishes.complete.jumps k target ends
  obtain ⟨K, there, -⟩ := Option.map_eq_some_iff.mp named
  exact (Array.getElem?_eq_some_iff.mp there).1

end Body

namespace IR

def Func.Has (g : Func) : Value → Prop
  | .const .. => True
  | .param i l => ∃ p, g.params[i]? = some p ∧ p.layout = l
  | .inst p l => ∃ i, g.inst? p = some i ∧ i.layout = l

theorem Func.has_of_layoutOf? {g : Func} {v : Value} (h : g.layoutOf? v = some v.layout) : g.Has v := by
  cases v with
  | const => trivial
  | param => exact Option.map_eq_some_iff.mp h
  | inst => exact Option.map_eq_some_iff.mp h

theorem Func.isDeclaration_eq_false_of_term? {g : Func} {k : Nat} {t : Term} (ends : g.term? k = some t) :
    g.isDeclaration = false := by
  obtain ⟨K, there, -⟩ := Option.bind_eq_some_iff.mp ends
  have inside : k < g.blocks.size := (Array.getElem?_eq_some_iff.mp there).1
  rw [Func.isDeclaration, Array.isEmpty_eq_false_iff, ← Array.size_pos_iff]
  omega

structure Func.Continues (g g' : Func) : Prop where
  name : g'.name = g.name
  params : g'.params = g.params
  result : g'.result = g.result
  variadic : g'.variadic = g.variadic
  body : g.isDeclaration = false → g' = g

theorem Func.Continues.refl (g : Func) : g.Continues g := ⟨rfl, rfl, rfl, rfl, fun _ => rfl⟩

theorem Func.Continues.trans {g g' g'' : Func} (h : g.Continues g') (h' : g'.Continues g'') : g.Continues g'' := by
  refine ⟨h'.name.trans h.name, h'.params.trans h.params, h'.result.trans h.result, h'.variadic.trans h.variadic, ?_⟩
  intro defined
  have same := h.body defined
  rw [← same] at defined ⊢
  exact h'.body defined

def Module.Continues (m m' : Module) : Prop :=
  ∀ (n : Nat) (g : Func), m.funcs[n]? = some g → ∃ g', m'.funcs[n]? = some g' ∧ g.Continues g'

namespace Module.Continues

theorem refl (m : Module) : m.Continues m := fun _ g there => ⟨g, there, .refl g⟩

theorem trans {m m' m'' : Module} (h : m.Continues m') (h' : m'.Continues m'') : m.Continues m'' := by
  intro n g there
  obtain ⟨g', there', same⟩ := h n g there
  obtain ⟨g'', there'', same'⟩ := h' n g' there'
  exact ⟨g'', there'', same.trans same'⟩

theorem push (m : Module) (g : Func) : m.Continues { m with funcs := m.funcs.push g } := by
  intro n h there
  have inside := (Array.getElem?_eq_some_iff.mp there).1
  refine ⟨h, ?_, .refl h⟩
  rw [Array.getElem?_push, if_neg (Nat.ne_of_lt inside)]
  exact there

theorem install {m : Module} {f : Function} (bare : f.isDeclaration m = true) (body : Body) :
    m.Continues (CompilationUnit.install m f body) := by
  intro n g there
  unfold CompilationUnit.install
  split
  · rename_i k symbol
    simp only [Array.getElem?_modify, there]
    split
    · rename_i same
      subst same
      have declaration : g.isDeclaration = true := by
        simpa [Function.isDeclaration, symbol, there] using bare
      refine ⟨_, rfl, rfl, rfl, rfl, rfl, ?_⟩
      intro defined
      rw [declaration] at defined
      cases defined
    · exact ⟨g, rfl, .refl g⟩
  · exact ⟨g, there, .refl g⟩

end Module.Continues

end IR

namespace CompilationUnit

variable {u : CompilationUnit} {m : Module} {r : Registry}

theorem Placing.continues {d : Definition} {p : Placed} (placing : u.Placing d p) :
    u.module.Continues p.module ∧ p.function.isDeclaration p.module = true := by
  cases placing with
  | @new g _ _ _ declared =>
    have bare := (Function.declaration_eq_ok declared).2.2.2.2
    exact ⟨.push _ g, by simp [Function.isDeclaration, Func.isDeclaration, bare]⟩
  | known _ _ _ bare => exact ⟨.refl _, bare⟩

theorem Advances.continues (advances : u.Advances m r) : u.module.Continues m := by
  cases advances with
  | kept => exact .refl _
  | declared _ placing _ => exact placing.continues.1
  | defined _ placing _ _ => exact placing.continues.1.trans (.install placing.continues.2 _)
  | unsaved _ _ _ _ bare _ =>
    refine .install ?_ _
    exact bare

theorem continues_compileSource {σ : Type} [Storage σ] (links : u.module.Links u.registry) (store : Option σ)
    (source code : String) : u.module.Continues (u.compileSource store source code).unit.module :=
  (kept_compileForms (u := CompilationUnit.addReports _ _) (fun m r => m.Links r ∧ u.module.Continues m)
    (fun h => h.1.tidy) (fun h next => ⟨next.links h.1, h.2.trans next.continues⟩) ⟨links, .refl _⟩ store _).2

/-- Whatever is referred to in a function is there: its operands, the blocks that it jumps to and the functions that
it calls. No body is any different for what was taken back, and numbers go on to mean the same functions. -/
theorem references_resolve (arises : u.Arises) {n : Nat} {g : Func} (there : u.module.funcs[n]? = some g) :
    (∀ p i, g.inst? p = some i → ∀ v ∈ i.operands, g.Has v) ∧
    (∀ k t, g.term? k = some t → (∀ v ∈ t.operands, g.Has v) ∧ ∀ target, t = .br target → target < g.blocks.size) ∧
    (∀ p result callee args, g.inst? p = some (.call result callee args) → ∃ f ∈ u.registry.functions,
      f.symbol = some callee ∧ ∃ h, u.module.funcs[callee]? = some h ∧ f.DeclaredAs h) ∧
    (g.isDeclaration = false → ∃ ctx forms body, Body.compile ctx forms = .ok body ∧ g.blocks = body.blocks) ∧
    (∀ ctx forms, Body.compile ctx forms = Body.compileApart ctx forms) ∧
    ∀ (σ : Type) [Storage σ] (store : Option σ) (source code : String),
      u.module.Continues (u.compileSource store source code).unit.module := by
  have links := arises.links
  obtain ⟨f, -, -, -, coded⟩ := arises.exists_function there
  refine ⟨fun p i inst v used => Func.has_of_layoutOf? (coded.used p i inst v used), fun k t ends => ⟨?_, ?_⟩, ?_,
    arises.exists_body there, Body.compile_eq_apart,
    fun σ _ store source code => continues_compileSource links store source code⟩
  · intro v used
    exact Func.has_of_layoutOf? (coded.returned k t ends v used)
  · intro target jump
    subst jump
    obtain ⟨ctx, forms, body, compiled, given⟩ :=
      arises.exists_body there (Func.isDeclaration_eq_false_of_term? ends)
    have ends : body.term? k = some (.br target) := by
      rw [Body.term?, ← given]
      exact ends
    rw [given]
    exact Body.target_lt_of_compile compiled ends
  · intro p result callee args call
    obtain ⟨f', registered, symbol, -⟩ := coded.calls p result callee args call
    obtain ⟨k, h, symbol', here⟩ := links.exists_symbol registered
    obtain rfl : k = callee := Option.some.inj (symbol'.symm.trans symbol)
    exact ⟨f', registered, symbol, h, here, links.declared f' registered k h symbol here⟩

/-- The operands of the second `do` are compiled twice, and between the two functions stood one whose body could not
be compiled. -/
theorem references_resolve_shared_name :
    let u := ((CompilationUnit.new "0").compileSource (none : Option Store) ""
      "(def do (fn extern void ((b bool)))) (def f (fn extern int () (h)))
       (def g (fn extern int () (return (do (var y int (g)) (label l) (do true) y))))").unit
    u.reports.length = 1 ∧ ∃ g : Func, u.module.funcs[1]? = some g ∧ g.isDeclaration = false ∧
      g.inst? ⟨0, 2⟩ = some (.store (.inst ⟨0, 1⟩ (.int 32)) (.inst ⟨0, 0⟩ (.pointer (.int 32)))) ∧
      g.inst? ⟨1, 0⟩ = some (.call .void 0 [.const 1 1]) ∧ g.term? 0 = some (.br 1) ∧
      g.term? 1 = some (.ret (some (.inst ⟨1, 1⟩ (.int 32)))) ∧
      g.Has (.inst ⟨0, 1⟩ (.int 32)) ∧ g.Has (.inst ⟨1, 1⟩ (.int 32)) ∧ 1 < g.blocks.size ∧
      (∃ f ∈ u.registry.functions, f.symbol = some 0 ∧ ∃ h, u.module.funcs[0]? = some h ∧ f.DeclaredAs h) ∧
      (∃ ctx forms body, Body.compileApart ctx forms = .ok body ∧ g.blocks = body.blocks) ∧
      u.module.Continues (u.compileSource (none : Option Store) "" "(def g (fn extern int () (h)))").unit.module := by
  intro u
  have facts : u.reports.length = 1 ∧ (u.module.funcs[1]?.map fun g =>
      (g.isDeclaration, g.inst? ⟨0, 2⟩, g.inst? ⟨1, 0⟩, g.term? 0, g.term? 1)) =
      some (false, some (.store (.inst ⟨0, 1⟩ (.int 32)) (.inst ⟨0, 0⟩ (.pointer (.int 32)))),
        some (.call .void 0 [.const 1 1]), some (.br 1), some (.ret (some (.inst ⟨1, 1⟩ (.int 32))))) := by
    decide +kernel
  obtain ⟨reports, facts⟩ := facts
  obtain ⟨g, there, facts⟩ := Option.map_eq_some_iff.mp facts
  simp only [Prod.mk.injEq] at facts
  obtain ⟨defined, store, call, jump, ret⟩ := facts
  obtain ⟨used, ends, calls, given, apart, continues⟩ := references_resolve (.source (.new "0") none "" _) there
  have value : g.Has (.inst ⟨0, 1⟩ (.int 32)) := used ⟨0, 2⟩ _ store _ (by simp [Inst.operands])
  have returned : g.Has (.inst ⟨1, 1⟩ (.int 32)) := (ends 1 _ ret).1 _ (by simp [Term.operands])
  obtain ⟨ctx, forms, body, compiled, same⟩ := given defined
  exact ⟨reports, g, there, defined, store, call, jump, ret, value, returned, (ends 0 _ jump).2 1 rfl,
    calls ⟨1, 0⟩ _ 0 _ call, ⟨ctx, forms, body, apart ctx forms ▸ compiled, same⟩, continues Store none "" _⟩

end CompilationUnit

end FormCompiler
