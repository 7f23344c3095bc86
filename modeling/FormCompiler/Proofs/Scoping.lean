import FormCompiler.Proofs.Jumps
import FormCompiler.Proofs.Offsets

namespace FormCompiler

open Build (Agree Meets)
open IR (Inst Layout Value)

namespace Environment

variable {α : Type}

def declare (e : Environment α) (D : List (String × α)) : Environment α := D.foldr (fun d e => e.add d.1 d.2) e

theorem declare_append (e : Environment α) (D E : List (String × α)) : e.declare (D ++ E) = (e.declare E).declare D :=
  List.foldr_append

theorem find?_declare (e : Environment α) (D : List (String × α)) (name : String) :
    (e.declare D).find? name = (D.lookup name).or (e.find? name) := by
  induction D with
  | nil => rfl
  | cons d D ih =>
    obtain ⟨first, a⟩ := d
    show ((e.declare D).add first a).find? name = _
    rw [find?_add, ih, List.lookup_cons]
    by_cases same : name = first
    · rw [if_pos same, beq_iff_eq.mpr same]
      rfl
    · rw [if_neg same, beq_eq_false_iff_ne.mpr same]

theorem within_declare (e : Environment α) (D : List (String × α)) : e.Within (e.declare D) := by
  induction D with
  | nil => exact .refl e
  | cons d D ih => exact ih.trans (within_add _ _ _)

end Environment

/-- The scopes around the innermost one are as they were, and all of them if nothing was declared in between. -/
structure Body.Frames (still : Prop) (b c : Body) : Prop where
  within : b.env.Within c.env
  same : still → c.env = b.env

namespace Body.Frames

variable {p q : Prop} {b c d : Body}

theorem of_env (same : c.env = b.env) : b.Frames p c := ⟨same ▸ .refl _, fun _ => same⟩

theorem trans (h : b.Frames p c) (k : c.Frames q d) : b.Frames (p ∧ q) d :=
  ⟨h.within.trans k.within, fun still => (k.same still.2).trans (h.same still.1)⟩

theorem mono (h : b.Frames p c) (fewer : q → p) : b.Frames q c := ⟨h.within, fun still => h.same (fewer still)⟩

theorem leaveTo (h : Body.Frames p { b with env := b.env.enter } c) : b.Frames q (c.leaveTo b.env.depth) :=
  .of_env (Environment.backTo_of_within_enter h.within)

end Body.Frames

def Reckoning.still : Reckoning Prop where
  none := True
  seq p q := p ∧ q
  scope _ := True
  declared _ _ _ := False
  label _ := True
  jump _ := True
  none_seq p := true_and p
  seq_none p := and_true p

namespace Judgement

def frames : Judgement id Reckoning.still where
  node _ := False
  holds p x _ := ∀ b, Meets b x (fun _ c => b.Frames p c) fun _ c => b.Frames p c
  pure _ _ := .pure (.of_env rfl)
  throw _ _ := .throw (.of_env rfl)
  bind h rest b := by
    refine .bind (.mono (h b) (fun _ _ h => h) fun _ _ framed => framed.mono And.left) fun a c framed => ?_
    exact .mono (rest a c) (fun _ _ => framed.trans) fun _ _ => framed.trans
  get_bind h b := .get_bind (h b b)
  pinned _ h b := .pinned (h b)
  inScope h b := (Agree.inScope (.mono (.of_meets (h _)) (fun _ _ => .leaveTo) fun _ _ => .leaveTo)).2
  emitAt k i _ := .get_bind (.changed_bind (.pure (.of_env rfl)))
  declared name type l initial b := by
    have emitted : Meets b (Build.emit (.alloca l)) (fun _ c => b.Frames True c) fun _ c => b.Frames False c :=
      .of_ok rfl (.of_env rfl)
    refine .bind emitted fun v c framed => ?_
    refine .bind (.mono (initial v c) (fun _ _ => framed.trans) fun _ _ inside => ?_) fun _ d inside => ?_
    · exact (framed.trans inside).mono False.elim
    · exact .changed ⟨inside.within.trans (Environment.within_add _ _ _), False.elim⟩
  ret _ _ := .of_ok rfl (.of_env rfl)
  label n x _ b := by
    refine .mono (Control.meets_label ⟨n, x⟩ b) ?_ fun _ _ same => .of_env (congrArg Body.env same)
    rintro _ c ⟨name, -, rfl⟩
    exact .of_env (b.env_startLabel name)
  goto n x _ b := by
    refine .mono (Control.meets_goto ⟨n, x⟩ b) ?_ fun _ _ same => .of_env (congrArg Body.env same)
    rintro _ c ⟨name, -, ⟨t, -, rfl⟩ | ⟨-, rfl⟩⟩
    · exact .of_env rfl
    · exact .of_env rfl

theorem frames_within {α : Type} {p : Prop} {x y : Build α} (h : frames.holds p x y) : frames.holds False x y :=
  fun b => .mono (h b) (fun _ _ framed => framed.mono False.elim) fun _ _ framed => framed.mono False.elim

theorem frames_allows (ctx : Context) : frames.Allows ctx (Form.compile (ctx.renumber id)) where
  list paren items demand := by rw [Form.compile, Form.operands_eq_map]
  atom token demand := frames_within (frames.atom token demand)
  called _ _ _ _ _ h := frames_within h
  builtin _ _ _ _ _ _ h := frames_within h
  shared paren head ns demand form same each _ _ b := by
    subst same
    rw [Form.compileShared_eq_apart]
    rcases Form.sharedApart_cases ctx paren head demand form b _ with
      ⟨f, c, run, same⟩ | ⟨rs, callee, c, run, same⟩ | same
    · exact .of_error (same _ rfl) ((frames_within each.compileAll b).error run)
    · have framed := (frames_within each.compileAll b).ok run
      have emitted : Meets c _ (fun _ d => c.Frames True d) fun _ d => c.Frames True d :=
        each.emit paren head callee rs demand c
      rw [Meets, (same _ rfl).2]
      exact emitted.mono (fun _ _ k => (framed.trans k).mono False.elim) fun _ _ k => (framed.trans k).mono False.elim
    · rw [Meets, (same _ rfl).2]
      exact frames_within (each.compileBuiltin paren head ctx demand form) b

end Judgement

namespace Form

variable {ctx : Context} {demand : Demand}

theorem meets_within (ctx : Context) (n : Node) (demand : Demand) (b : Body) :
    Meets b (compile ctx n demand) (fun _ c => b.env.Within c.env) fun _ c => b.env.Within c.env :=
  .mono (Judgement.compile (Judgement.frames_allows ctx) demand n b) (fun _ _ h => h.within) fun _ _ h => h.within

theorem meets_scope {head : Token} {args : List Node} {b : Body} (h : IsBuiltin ctx .scope head args b) (paren : Token)
    (demand : Demand) : Meets b (compile ctx (.list paren (.atom head :: args)) demand) (fun _ c => c.env = b.env)
      fun _ c => c.env = b.env := by
  have each := Judgement.operands (Judgement.frames_allows ctx) args
  have framed : Meets b _ (fun _ c => b.Frames True c) fun _ c => b.Frames True c :=
    each.compileBuiltin paren head ctx demand .scope b
  rw [Meets, h.compile_eq]
  exact framed.mono (fun _ _ h => h.same trivial) fun _ _ h => h.same trivial

end Form

def Body.Precedes (b c : Body) : Prop := ∃ L, b.Passes L c

namespace Body.Precedes

variable {b c d : Body}

theorem refl (b : Body) : b.Precedes b := ⟨[], .start⟩

theorem trans (h : b.Precedes c) (k : c.Precedes d) : b.Precedes d := by
  obtain ⟨L, passes⟩ := h
  obtain ⟨M, passes'⟩ := k
  exact ⟨L ++ M, passes.trans passes'⟩

theorem emit (b : Body) (k : Nat) (i : Inst) : b.Precedes (b.append k i) := ⟨[], .emit .start k i⟩

theorem scope (b : Body) (e : Environment Local) : b.Precedes { b with env := e } := ⟨[], .scope .start e⟩

end Body.Precedes

abbrev Bindings := List (String × Local)

/-- What can be declared from a body on: until another body in the scope that is innermost, and until a reference is
compiled in another body, in all scopes that are open there. Steps that declare nothing do not count. -/
@[ext]
structure Course where
  after : Body → Bindings → Body → Prop
  before : Body → Token → Bindings → Body → Prop
  after_of_precedes {b b' c c' : Body} {D : Bindings} :
    b.Precedes b' → after b' D c' → c'.Precedes c → after b D c
  before_of_precedes {b b' c : Body} {t : Token} {D : Bindings} : b.Precedes b' → before b' t D c → before b t D c

namespace Course

theorem eq_of {m k : Course} (after : ∀ b D c, m.after b D c ↔ k.after b D c)
    (before : ∀ b t D c, m.before b t D c ↔ k.before b t D c) : m = k := by
  ext
  · exact after ..
  · exact before ..

def reference (t : Token) : Course where
  after b D c := D = [] ∧ b.Precedes c
  before b u D c := u = t ∧ D = [] ∧ b.Precedes c
  after_of_precedes first h last := ⟨h.1, first.trans (h.2.trans last)⟩
  before_of_precedes first h := ⟨h.1, h.2.1, first.trans h.2.2⟩

def none : Course where
  after b D c := D = [] ∧ b.Precedes c
  before _ _ _ _ := False
  after_of_precedes first h last := ⟨h.1, first.trans (h.2.trans last)⟩
  before_of_precedes _ h := h

def seq (m k : Course) : Course where
  after b D c := ∃ A B d, m.after b A d ∧ k.after d B c ∧ D = B ++ A
  before b t D c := m.before b t D c ∨ ∃ A B d, m.after b A d ∧ k.before d t B c ∧ D = B ++ A
  after_of_precedes first h last := by
    obtain ⟨A, B, d, hm, hk, rfl⟩ := h
    exact ⟨A, B, d, m.after_of_precedes first hm (.refl d), k.after_of_precedes (.refl d) hk last, rfl⟩
  before_of_precedes first h := by
    rcases h with h | ⟨A, B, d, hm, hk, rfl⟩
    · exact .inl (m.before_of_precedes first h)
    · exact .inr ⟨A, B, d, m.after_of_precedes first hm (.refl d), hk, rfl⟩

def scope (m : Course) : Course where
  after b D c := D = [] ∧ ∃ A, m.after b A c
  before := m.before
  after_of_precedes first h last := by
    obtain ⟨rfl, A, h⟩ := h
    exact ⟨rfl, A, m.after_of_precedes first h last⟩
  before_of_precedes := m.before_of_precedes

/-- A variable is stored where an instruction reserves room for it, before its initial value is compiled, and is
declared behind whatever that declares. -/
def declared (name : String) (type : Ty) (initial : Course) : Course where
  after b D c := ∃ d l A, b.Precedes d ∧ initial.after (d.append d.current (.alloca l)) A c ∧
    D = (name, ⟨type, .inst d.next (Inst.alloca l).layout⟩) :: A
  before := initial.before
  after_of_precedes first h last := by
    obtain ⟨d, l, A, start, h, rfl⟩ := h
    exact ⟨d, l, A, first.trans start, initial.after_of_precedes (.refl _) h last, rfl⟩
  before_of_precedes := initial.before_of_precedes

def either (m k : Course) : Course where
  after b D c := m.after b D c ∨ k.after b D c
  before b t D c := m.before b t D c ∨ k.before b t D c
  after_of_precedes first h last :=
    h.imp (fun h => m.after_of_precedes first h last) fun h => k.after_of_precedes first h last
  before_of_precedes first h := h.imp (m.before_of_precedes first) (k.before_of_precedes first)

theorem none_seq (m : Course) : none.seq m = m := by
  refine eq_of (fun b D c => ⟨?_, fun h => ?_⟩) fun b t D c => ⟨?_, fun h => ?_⟩
  · rintro ⟨_, B, d, ⟨rfl, first⟩, h, rfl⟩
    rw [List.append_nil]
    exact m.after_of_precedes first h (.refl c)
  · exact ⟨[], D, b, ⟨rfl, .refl b⟩, h, (List.append_nil D).symm⟩
  · rintro (h | ⟨_, B, d, ⟨rfl, first⟩, h, rfl⟩)
    · exact h.elim
    · rw [List.append_nil]
      exact m.before_of_precedes first h
  · exact .inr ⟨[], D, b, ⟨rfl, .refl b⟩, h, (List.append_nil D).symm⟩

theorem seq_none (m : Course) : m.seq none = m := by
  refine eq_of (fun b D c => ⟨?_, fun h => ?_⟩) fun b t D c => ⟨?_, fun h => .inl h⟩
  · rintro ⟨A, _, d, h, ⟨rfl, last⟩, rfl⟩
    exact m.after_of_precedes (.refl b) h last
  · exact ⟨D, [], c, h, ⟨rfl, .refl c⟩, rfl⟩
  · rintro (h | ⟨_, _, _, _, h, _⟩)
    · exact h
    · exact h.elim

end Course

def Reckoning.courses : Reckoning Course where
  none := .none
  seq := .seq
  scope := .scope
  declared := .declared
  label _ := .none
  jump _ := .none
  none_seq := Course.none_seq
  seq_none := Course.seq_none

/-- The courses that a form can take, by its text and by the functions that are known. A name that functions share with
a built-in form can mean either. -/
def Node.course (ctx : Context) : Node → Course := Reckoning.courses.node ctx .reference fun _ _ => .either

namespace Form

mutual
/-- Compiles a form with an alarm that is raised where an atom is to be compiled in a body that it should stop in. -/
def compileUntil (ctx : Context) (stop : Token → Body → Bool) (alarm : Fault) : Node → Demand → Build Result
  | .atom t, demand => fun b => if stop t b then .error alarm b else Atom.compile t demand b
  | .list paren items, demand => compileList ctx paren (operandsUntil ctx stop alarm items) demand

def operandsUntil (ctx : Context) (stop : Token → Body → Bool) (alarm : Fault) : List Node → List Operand
  | [] => []
  | n :: ns => ⟨n, compileUntil ctx stop alarm n⟩ :: operandsUntil ctx stop alarm ns
end

theorem operandsUntil_eq_map (ctx : Context) (stop : Token → Body → Bool) (alarm : Fault) (ns : List Node) :
    operandsUntil ctx stop alarm ns = ns.map fun n => ⟨n, compileUntil ctx stop alarm n⟩ := by
  induction ns with
  | nil => rfl
  | cons n ns ih => rw [operandsUntil, ih, List.map_cons]

/-- An atom of that token is compiled in that body on the way: an alarm there makes a difference. -/
def Reaches (ctx : Context) (n : Node) (demand : Demand) (b : Body) (t : Token) (c : Body) : Prop :=
  ∃ alarm, compileUntil ctx (fun u d => u = t ∧ d = c) alarm n demand b ≠ compile ctx n demand b

end Form

def Body.Sees (c b : Body) (D : Bindings) : Prop := ∀ name, c.env.find? name = (D.lookup name).or (b.env.find? name)

namespace Body.Sees

variable {b c d : Body} {A B : Bindings}

theorem refl (b : Body) : b.Sees b [] := fun _ => rfl

theorem of_env (h : d.Sees c B) (same : c.env = b.env) : d.Sees b B := fun name => same ▸ h name

theorem append (h : d.Sees c B) (declared : c.env = b.env.declare A) : d.Sees b (B ++ A) := by
  intro name
  rw [h name, declared, Environment.find?_declare, List.lookup_append, Option.or_assoc]

end Body.Sees

def Course.Avoids (m : Course) (stop : Token → Body → Bool) (b : Body) : Prop :=
  ∀ t D c, m.before b t D c → c.Sees b D → stop t c = false

namespace Build

/-- If nothing stops where a reference is met with its names as they should be, two steps do the same, and they leave
declared what they should. -/
def Resolves {α : Type} (stop : Token → Body → Bool) (m : Course) (x y : Build α) : Prop :=
  ∀ b, m.Avoids stop b → Agree b x y (fun _ c => ∃ D, m.after b D c ∧ c.env = b.env.declare D) fun _ _ => True

namespace Resolves

variable {α β : Type} {stop : Token → Body → Bool} {m k : Course} {x y : Build α} {f g : α → Build β}

theorem quiet (h : ∀ b, Meets b x (fun _ c => b.Precedes c ∧ c.env = b.env) fun _ _ => True) :
    Resolves stop .none x x := fun b _ =>
  .of_meets (.mono (h b) (fun _ _ quiet => ⟨[], ⟨rfl, quiet.1⟩, quiet.2⟩) fun _ _ _ => trivial)

theorem mono (h : Resolves stop m x y) (after : ∀ b D c, m.after b D c → k.after b D c)
    (before : ∀ b t D c, m.before b t D c → k.before b t D c) : Resolves stop k x y := by
  intro b avoids
  refine .mono (h b fun t D c met => avoids t D c (before b t D c met)) ?_ fun _ _ _ => trivial
  rintro _ c ⟨D, declared, env⟩
  exact ⟨D, after b D c declared, env⟩

theorem bind (h : Resolves stop m x y) (rest : ∀ a, Resolves stop k (f a) (g a)) :
    Resolves stop (m.seq k) (x >>= f) (y >>= g) := by
  intro b avoids
  refine .bind (h b fun t D c met => avoids t D c (.inl met)) ?_
  rintro a c ⟨A, first, env⟩
  have onward : k.Avoids stop c := fun t B d met sees =>
    avoids t (B ++ A) d (.inr ⟨A, B, c, first, met, rfl⟩) (sees.append env)
  refine .mono (rest a c onward) ?_ fun _ _ _ => trivial
  rintro _ d ⟨B, second, env'⟩
  refine ⟨B ++ A, ⟨A, B, c, first, second, rfl⟩, ?_⟩
  rw [env', env, Environment.declare_append]

theorem inScope (h : Resolves stop m x y) : Resolves stop m.scope (Build.inScope x) (Build.inScope y) := by
  intro b avoids
  have entered := Body.Precedes.scope b b.env.enter
  have inside : m.Avoids stop { b with env := b.env.enter } := fun t D c met sees =>
    avoids t D c (m.before_of_precedes entered met) fun name => sees name
  refine .inScope (.mono (h _ inside) ?_ fun _ _ _ => trivial)
  rintro _ c ⟨A, after, env⟩
  refine ⟨[], ⟨rfl, A, m.after_of_precedes entered after (.scope c _)⟩, ?_⟩
  exact Environment.backTo_of_within_enter (env ▸ Environment.within_declare _ A)

theorem declared {x y : Value → Build PUnit} (name : String) (type : Ty) (l : Layout)
    (initial : ∀ v, Resolves stop m (x v) (y v)) : Resolves stop (m.declared name type)
      (do
        let v ← Build.emit (.alloca l)
        x v
        modify fun b => { b with env := b.env.add name ⟨type, v⟩ })
      (do
        let v ← Build.emit (.alloca l)
        y v
        modify fun b => { b with env := b.env.add name ⟨type, v⟩ }) := by
  intro b avoids
  have emitted : Meets b (Build.emit (.alloca l)) (fun v c => v = .inst b.next (Inst.alloca l).layout ∧
      c = b.append b.current (.alloca l)) fun _ _ => True := .of_ok rfl ⟨rfl, rfl⟩
  refine .after emitted ?_
  rintro v c ⟨rfl, rfl⟩
  have reserved := Body.Precedes.emit b b.current (.alloca l)
  have inside : m.Avoids stop (b.append b.current (.alloca l)) := fun t D c met sees =>
    avoids t D c (m.before_of_precedes reserved met) (sees.of_env rfl)
  refine .bind (initial _ _ inside) ?_
  rintro _ d ⟨A, after, env⟩
  have bound := m.after_of_precedes (.refl _) after
    (.scope d (d.env.add name ⟨type, .inst b.next (Inst.alloca l).layout⟩))
  refine .of_meets (.changed ⟨_, ⟨b, l, A, .refl b, bound, rfl⟩, ?_⟩)
  show d.env.add _ _ = (b.env.declare A).add _ _
  rw [env]
  rfl

end Resolves

end Build

namespace Judgement

def resolves (ctx : Context) (stop : Token → Body → Bool) : Judgement id Reckoning.courses where
  node := Node.course ctx
  holds m x y := Build.Resolves stop m x y
  pure _ := .quiet fun b => .pure ⟨.refl b, rfl⟩
  throw _ _ _ := .of_meets (.throw trivial)
  bind h rest := .bind h rest
  get_bind h b avoids := by
    have run := h b b avoids
    rw [Body.renumber_id] at run
    exact .get_bind run
  pinned t h b avoids := by
    have run := h b avoids
    exact ⟨by simp only [Build.pinned, EStateM.adaptExcept, run.1], .pinned run.2⟩
  inScope h := .inScope h
  emitAt k i := by
    rw [Inst.renumber_id]
    exact .quiet fun b => .of_ok rfl ⟨.emit b k i, rfl⟩
  declared name type l initial := .declared name type l initial
  ret v := .quiet fun b => .of_ok rfl ⟨⟨[], .ret .start rfl⟩, rfl⟩
  label n x y := .quiet fun b => by
    refine .mono (.and (.self b _) (Control.meets_label ⟨n, x⟩ b)) ?_ fun _ _ _ => trivial
    rintro _ c ⟨run, name, -, rfl⟩
    exact ⟨⟨[], .label .start run⟩, b.env_startLabel name⟩
  goto n x y := .quiet fun b => by
    refine .mono (.and (.self b _) (Control.meets_goto ⟨n, x⟩ b)) ?_ fun _ _ _ => trivial
    rintro _ c ⟨run, name, named, ends⟩
    refine ⟨⟨_, .goto .start named run⟩, ?_⟩
    rcases ends with ⟨t, -, rfl⟩ | ⟨-, rfl⟩
    · rfl
    · rfl

theorem resolves_called {ctx : Context} {stop : Token → Body → Bool} {α : Type} {x y : Build α} (paren : Token)
    {head : Token} {ns : List Node} (calls : ctx.callsFor head.literal = true)
    (h : Build.Resolves stop ((resolves ctx stop).all ns) x y) :
    Build.Resolves stop (Node.course ctx (.list paren (.atom head :: ns))) x y := by
  rw [Node.course, Reckoning.node, Reckoning.nodes_eq_map, Reckoning.headed, calls]
  cases Builtin.ofHead? head.literal with
  | none => exact h
  | some form => exact h.mono (fun _ _ _ => .inl) fun _ _ _ _ => .inl

theorem resolves_builtin {ctx : Context} {stop : Token → Body → Bool} {α : Type} {x y : Build α} (paren : Token)
    {head : Token} {ns : List Node} {form : Builtin} (named : Builtin.ofHead? head.literal = some form)
    (h : Build.Resolves stop ((resolves ctx stop).form form ns) x y) :
    Build.Resolves stop (Node.course ctx (.list paren (.atom head :: ns))) x y := by
  rw [Node.course, Reckoning.node, Reckoning.nodes_eq_map, Reckoning.headed, named]
  cases ctx.callsFor head.literal with
  | false => exact h
  | true => exact h.mono (fun _ _ _ => .inr) fun _ _ _ _ => .inr

theorem resolves_allows (ctx : Context) (stop : Token → Body → Bool) (alarm : Fault) :
    (resolves ctx stop).Allows ctx (Form.compileUntil ctx stop alarm) where
  list paren items demand := by rw [Form.compileUntil, Form.operandsUntil_eq_map, Context.renumber_id]
  atom t demand := by
    intro b avoids
    have onward : stop t b = false := avoids t [] b ⟨rfl, rfl, .refl b⟩ (.refl b)
    have compiled : Build.Resolves stop .none (Atom.compile t demand) (Atom.compile t demand) :=
      (resolves ctx stop).atom t demand
    refine ⟨?_, (compiled b fun _ _ _ met => met.elim).2⟩
    rw [Form.compileUntil]
    exact (if_neg (by rw [onward]; exact Bool.false_ne_true)).symm
  called paren _ _ calls _ h := resolves_called paren calls h
  builtin paren _ _ _ _ named h := resolves_builtin paren named h
  shared := by
    intro _ os' paren head ns demand form same each calls named b avoids
    subst same
    rw [Context.renumber_id]
    have tried := resolves_called paren calls each.compileAll b avoids
    -- Both ways to compile the operands end in the same body, so that what is taken back is the same as well.
    have restored (args : Option (List Result)) (c : Body)
        (run : Build.attempt (Operand.compileAll os') b = .ok args c) : c.rollback b.mark = b := by
      have same : Build.attempt (Operand.compileAll (Form.operands ctx ns)) b = .ok args c := by
        simpa only [Build.attempt, tried.1] using run
      exact (Form.meets_attempt ctx ns b).ok same
    rw [Form.compileShared_eq_apart]
    refine .of_eq rfl (Form.compileShared_of_rollback restored) ?_
    rcases Form.sharedApart_cases ctx paren head demand form b _ with
      ⟨f, c, -, same⟩ | ⟨rs, callee, c, run, same⟩ | same
    · exact ⟨(same _ rfl).trans (same _ tried.1.symm).symm, .of_error (same _ rfl) trivial⟩
    · obtain ⟨D, after, env⟩ := tried.2.ok run
      have emitted : Build.Resolves stop .none _ _ := each.emit paren head callee rs demand
      rw [Function.renumber_id] at emitted
      have called := emitted c fun _ _ _ met => met.elim
      refine .of_eq (same _ rfl).2 (same _ tried.1.symm).2 (.mono called ?_ fun _ _ _ => trivial)
      rintro _ d ⟨_, ⟨rfl, quiet⟩, env'⟩
      exact ⟨D, (Node.course ..).after_of_precedes (.refl b) after quiet, env'.trans env⟩
    · have built := resolves_builtin paren named (each.compileBuiltin paren head ctx demand form) b avoids
      rw [Context.renumber_id] at built
      exact .of_eq (same _ rfl).2 (same _ tried.1.symm).2 built

end Judgement

/-- How a name is compiled that means this variable, if any: the variable's own storage is its address or is loaded
from, and a name that means nothing is reported as undefined. -/
inductive Atom.Refers (t : Token) (c : Body) : Option Local → Demand → EStateM.Result Fault Body Result → Prop
  | undefined (demand : Demand) : Refers t c none demand (.error (.complaint (.undefined t.literal) (some t)) c)
  | address (v : Local) : Refers t c (some v) .address (.ok (.ofValue c.current v.type.pointerTo v.storage) c)
  | loaded {v : Local} {l : Layout} (laid : v.type.layout = .ok l) : Refers t c (some v) .value
      (.ok { Result.ofValue c.current v.type (.inst (c.nextPlace c.current) l) with
          address := some v.storage, lvalue := true }
        (c.append c.current (.load l v.storage)))
  | unsized {v : Local} {f : Fault} (unsized : Build.layout v.type c = .error f c) :
      Refers t c (some v) .value (.error (f.pinned (some t)) c)

theorem Atom.refers_reference (t : Token) (demand : Demand) (c : Body) :
    Refers t c (c.env.find? t.literal) demand (Atom.reference t demand c) := by
  have read : (get : Build Body) c = .ok c c := rfl
  rw [Atom.reference, Build.bind_of_ok read]
  cases c.env.find? t.literal with
  | none => exact .undefined demand
  | some v =>
    cases demand with
    | address => exact .address v
    | value =>
      cases laid : v.type.layout with
      | ok l =>
        have sized : Build.pinned (some t) (Build.layout v.type) c = .ok l c := by rw [Build.layout, laid]; rfl
        dsimp only
        rw [Build.bind_of_ok sized]
        exact .loaded laid
      | error u =>
        obtain ⟨f, unsized⟩ : ∃ f, Build.layout v.type c = .error f c := by
          rw [Build.layout, laid]
          cases u <;> exact ⟨_, rfl⟩
        have pinned : Build.pinned (some t) (Build.layout v.type) c = .error (f.pinned (some t)) c := by
          simp only [Build.pinned, EStateM.adaptExcept, unsized]
        dsimp only
        rw [Build.bind_of_error pinned]
        exact .unsized unsized

theorem Atom.refers_compile {t : Token} (symbol : t.kind = .symbol) (name : t.literal ∉ ["true", "false"])
    (demand : Demand) (c : Body) : Refers t c (c.env.find? t.literal) demand (Atom.compile t demand c) := by
  have run : Atom.compile t demand = Atom.reference t demand := by
    rw [Atom.compile, symbol]
    split
    all_goals simp_all
  rw [run]
  exact refers_reference t demand c

namespace Form

structure Scoped (ctx : Context) (n : Node) (demand : Demand) (b : Body) : Prop where
  /-- However it ends, the scope that it began in is innermost again, and those around it are as they were. -/
  framed : Meets b (compile ctx n demand) (fun _ c => b.env.Within c.env) fun _ c => b.env.Within c.env
  /-- Behind a form with a scope of its own, every name means what it did. -/
  restored (paren head : Token) (args : List Node) : n = .list paren (.atom head :: args) →
    IsBuiltin ctx .scope head args b →
      Meets b (compile ctx n demand) (fun _ c => c.env = b.env) fun _ c => c.env = b.env
  /-- Behind any form, the variables that its text declares outside of such scopes have been added. -/
  declared (r : Result) (c : Body) : compile ctx n demand b = .ok r c →
    ∃ D, (n.course ctx).after b D c ∧ c.env = b.env.declare D
  /-- Where a reference is compiled inside, names mean what its text declares last before it, in scopes still open, and
  the reference stands for what its own name means so. -/
  resolved (t : Token) (c : Body) : Reaches ctx n demand b t c → ∃ D, (n.course ctx).before b t D c ∧ c.Sees b D ∧
    (t.kind = .symbol → t.literal ∉ ["true", "false"] → ∀ want,
      Atom.Refers t c ((D.lookup t.literal).or (b.env.find? t.literal)) want (compile ctx (.atom t) want c))

theorem lexically_scoped (ctx : Context) (n : Node) (demand : Demand) (b : Body) : Scoped ctx n demand b where
  framed := meets_within ctx n demand b
  restored paren head args form builtin := form ▸ meets_scope builtin paren demand
  declared r c run := by
    have judged := Judgement.compile (Judgement.resolves_allows ctx (fun _ _ => false) (.broken .incomplete)) demand n
    exact (judged b fun _ _ _ _ _ => rfl).2.ok run
  resolved t c reached := by
    obtain ⟨alarm, differs⟩ := reached
    -- Were the names anything else there, an alarm would not be noticed.
    refine Classical.byContradiction fun unresolved => differs ?_
    have judged := Judgement.compile (Judgement.resolves_allows ctx (fun u d => u = t ∧ d = c) alarm) demand n
    refine (judged b fun u D d met sees => decide_eq_false ?_).1.symm
    rintro ⟨rfl, rfl⟩
    refine unresolved ⟨D, met, sees, fun symbol name want => ?_⟩
    rw [← sees u.literal, compile]
    exact Atom.refers_compile symbol name want d

/-- In a scope, a name is compiled where it means the variable that hides the one around it. -/
example :
    let ctx : Context :=
      ⟨{}, "f", ⟨.void, [], .ofString "f", false, false, false, false, false, true, .internal, none, [], none⟩⟩
    let x (n : Int) := Node.form [.word "var", .word "x", .word "int", .numeral n]
    let entered := compile ctx (x 1) .value >>= fun _ => Build.inScope (compile ctx (x 2) .value >>= fun _ => get)
    Meets Body.entry entered (fun c _ => c.env.find? "x" = some ⟨.int32, .inst ⟨0, 2⟩ (.pointer (.int 32))⟩ ∧
      Reaches ctx (.form [.word "do", x 1, .form [.word "new-scope", x 2, .word "x"]]) .value Body.entry
        (.synthetic "x" "") c) fun _ _ => False := by
  intro ctx x entered
  have facts : Meets Body.entry entered (fun c _ =>
      c.env.find? "x" = some ⟨.int32, .inst ⟨0, 2⟩ (.pointer (.int 32))⟩ ∧
      let n := Node.form [.word "do", x 1, .form [.word "new-scope", x 2, .word "x"]]
      Meets Body.entry (compile ctx n .value) (fun _ _ => True) (fun _ _ => False) ∧
      Meets Body.entry (compileUntil ctx (fun u d => u = .synthetic "x" "" ∧ d = c) (.broken .incomplete) n .value)
        (fun _ _ => False) fun _ _ => True) fun _ _ => False := by
    decide +kernel
  refine facts.mono ?_ fun _ _ h => h
  rintro c _ ⟨means, done, stopped⟩
  refine ⟨means, .broken .incomplete, fun same => ?_⟩
  obtain ⟨r, d, run, -⟩ := done.exists_ok
  exact stopped.ok (same.trans run)

end Form

end FormCompiler
