import FormCompiler.Proofs.Fallback
import FormCompiler.Proofs.Outline
import FormCompiler.Unit.Compile

namespace FormCompiler

open IR (Block Inst Layout Value)

theorem Registry.has_eq_isSome (r : Registry) (name : String) : r.has name = (r.entries.lookup name).isSome := by
  unfold has
  induction r.entries with
  | nil => rfl
  | cons e entries ih =>
    obtain ⟨key, fs⟩ := e
    rw [List.any_cons, List.lookup_cons, ih]
    rw [show (key == name) = (name == key) from BEq.comm]
    cases name == key <;> rfl

section Renumber

variable (ρ : Nat → Nat)

def Function.renumber (f : Function) : Function := { f with symbol := f.symbol.map ρ }

def IR.Inst.renumber : Inst → Inst
  | .call result callee args => .call result (ρ callee) args
  | i => i

def IR.Block.renumber (k : Block) : Block := { k with insts := k.insts.map (Inst.renumber ρ) }

def Body.renumber (b : Body) : Body := { b with blocks := b.blocks.map (Block.renumber ρ) }

def Registry.renumber (r : Registry) : Registry := r.mapFunctions (Function.renumber ρ)

def Context.renumber (ctx : Context) : Context := ⟨ctx.registry.renumber ρ, ctx.name, ctx.function.renumber ρ⟩

end Renumber

section Identity

theorem Function.renumber_id : Function.renumber id = id := by
  funext f
  show { f with symbol := f.symbol.map id } = f
  rw [Option.map_id]
  rfl

theorem IR.Inst.renumber_id : Inst.renumber id = id := by
  funext i
  cases i <;> rfl

theorem IR.Block.renumber_id : Block.renumber id = id := by
  funext k
  unfold renumber
  rw [Inst.renumber_id, Array.map_id]
  rfl

theorem Body.renumber_id (b : Body) : b.renumber id = b := by
  unfold renumber
  rw [Block.renumber_id, Array.map_id]

theorem Context.renumber_id (ctx : Context) : ctx.renumber id = ctx := by
  have registry : ctx.registry.renumber id = ctx.registry := by
    unfold Registry.renumber Registry.mapFunctions
    rw [Function.renumber_id]
    simp
  unfold renumber
  rw [registry, Function.renumber_id]
  rfl

end Identity

variable {ρ : Nat → Nat}

theorem Registry.lookup_renumber (r : Registry) (name : String) (types : List Ty) :
    (r.renumber ρ).lookup name types = (r.lookup name types).map (Function.renumber ρ) :=
  r.lookup_mapFunctions name types (fun _ => rfl) fun _ => rfl

theorem Form.operands_eq_map (ctx : Context) (ns : List Node) :
    Form.operands ctx ns = ns.map fun n => ⟨n, Form.compile ctx n⟩ := by
  induction ns with
  | nil => rfl
  | cons n ns ih => rw [Form.operands, ih, List.map_cons]

def Builtin.ofHead? (head : String) : Option Builtin :=
  match splitQualified head with
  | ("", name) | ("core", name) => Builtin.ofName? name
  | _ => none

def Context.callsFor (ctx : Context) (head : String) : Bool :=
  match splitQualified head with
  | ("", name) => ctx.registry.has name
  | _ => false

/-- How what is met in steps is put together: one after another, in a scope, in the declaration of a variable, and where
a label is named or jumped to. -/
structure Reckoning (ι : Type) where
  none : ι
  seq : ι → ι → ι
  scope : ι → ι
  declared : String → Ty → ι → ι
  label : Node → ι
  jump : Node → ι
  none_seq (m : ι) : seq none m = m
  seq_none (m : ι) : seq m none = m

namespace Reckoning

variable {ι : Type} (R : Reckoning ι)

def all (ms : List ι) : ι := ms.foldr R.seq R.none

theorem all_singleton (m : ι) : R.all [m] = m := R.seq_none m

def declaration (name type : Node) (initial : ι) : ι :=
  match name.symbol?, Ty.read type with
  | some x, .ok t => R.declared x t initial
  | _, _ => R.none

def form : Builtin → List Node → List ι → ι
  | .scope, _, ms => R.scope (R.all ms)
  | .declare, [name, type], _ => R.declaration name type R.none
  | .declare, [name, type, _], [_, _, initial] => R.declaration name type initial
  | .label, [n], _ => R.label n
  | .jump, [n], _ => R.jump n
  | _, _, ms => R.all ms

/-- What a form amounts to by its head, which names functions or a built-in form. A name that they share can mean
either. -/
def headed (ctx : Context) (shared : ι → ι → ι) (head : Token) (ns : List Node) (ms : List ι) : ι :=
  match ctx.callsFor head.literal, Builtin.ofHead? head.literal with
  | true, some form => shared (R.all ms) (R.form form ns ms)
  | true, .none => R.all ms
  | false, some form => R.form form ns ms
  | false, .none => R.none

section Node

variable (ctx : Context) (atom : Token → ι) (shared : Token → List Node → ι → ι → ι)

mutual
def node : Node → ι
  | .atom t => atom t
  | .list _ (.atom head :: ns) => R.headed ctx (shared head ns) head ns (nodes ns)
  | .list _ _ => R.none

def nodes : List Node → List ι
  | [] => []
  | n :: ns => node n :: nodes ns
end

theorem nodes_eq_map (ns : List Node) : R.nodes ctx atom shared ns = ns.map (R.node ctx atom shared) := by
  induction ns with
  | nil => rfl
  | cons n ns ih => rw [nodes, ih, List.map_cons]

end Node

end Reckoning

/-- What is judged of two steps, of which the second is taken under other numbers, and of what is met in them. -/
structure Judgement (ρ : Nat → Nat) {ι : Type} (R : Reckoning ι) where
  node : Node → ι
  holds {α : Type} : ι → Build α → Build α → Prop
  pure {α : Type} (a : α) : holds R.none (Pure.pure a : Build α) (Pure.pure a)
  throw {α : Type} {m : ι} (f : Fault) : holds m (MonadExcept.throw f : Build α) (MonadExcept.throw f)
  bind {α β : Type} {x y : Build α} {f g : α → Build β} {m k : ι} :
    holds m x y → (∀ a, holds k (f a) (g a)) → holds (R.seq m k) (x >>= f) (y >>= g)
  get_bind {β : Type} {f g : Body → Build β} {m : ι} :
    (∀ b : Body, holds m (f b) (g (b.renumber ρ))) → holds m (get >>= f) (get >>= g)
  pinned {α : Type} {x y : Build α} {m : ι} (token : Option Token) :
    holds m x y → holds m (Build.pinned token x) (Build.pinned token y)
  inScope {α : Type} {x y : Build α} {m : ι} : holds m x y → holds (R.scope m) (Build.inScope x) (Build.inScope y)
  emitAt (k : Nat) (i : Inst) : holds R.none (Build.emitAt k i) (Build.emitAt k (i.renumber ρ))
  declared {x y : Value → Build PUnit} {m : ι} (name : String) (type : Ty) (l : Layout) :
    (∀ v, holds m (x v) (y v)) → holds (R.declared name type m)
      (do
        let v ← Build.emit (.alloca l)
        x v
        modify fun b => { b with env := b.env.add name ⟨type, v⟩ })
      (do
        let v ← Build.emit (.alloca l)
        y v
        modify fun b => { b with env := b.env.add name ⟨type, v⟩ })
  ret (v : Option Value) : holds R.none (Control.finish (.ret v)) (Control.finish (.ret v))
  label (n : Node) (x y : Demand → Build Result) :
    holds (R.label n) (Control.compileLabel ⟨n, x⟩) (Control.compileLabel ⟨n, y⟩)
  goto (n : Node) (x y : Demand → Build Result) :
    holds (R.jump n) (Control.compileGoto ⟨n, x⟩) (Control.compileGoto ⟨n, y⟩)

namespace Judgement

variable {ι : Type} {R : Reckoning ι} (J : Judgement ρ R) {α β : Type} {x y x' y' : Build α} {f g : α → Build β}
  {m k : ι}

theorem complain (c : Complaint) (t : Token) : J.holds m (Build.complain c t : Build α)
    (Build.complain c t) := J.throw _

theorem after (h : J.holds R.none x y) (rest : ∀ a, J.holds m (f a) (g a)) : J.holds m (x >>= f) (y >>= g) :=
  R.none_seq m ▸ J.bind h rest

theorem before (h : J.holds m x y) (rest : ∀ a, J.holds R.none (f a) (g a)) : J.holds m (x >>= f) (y >>= g) :=
  R.seq_none m ▸ J.bind h rest

theorem ite {p : Prop} [Decidable p] (hx : J.holds m x y) (hy : J.holds m x' y') :
    J.holds m (if p then x else x') (if p then y else y') := by
  split
  · exact hx
  · exact hy

theorem guard {p : Prop} [Decidable p] {c : Complaint} {t : Token} {f g : PUnit → Build β}
    (h : ∀ u, J.holds m (f u) (g u)) :
    J.holds m (if p then Build.complain c t >>= f else f ⟨⟩) (if p then Build.complain c t >>= g else g ⟨⟩) :=
  J.ite (J.after (J.complain c t) h) (h _)

theorem demand (a : Option α) : J.holds R.none (Build.demand a) (Build.demand a) := by
  cases a with
  | some a => exact J.pure a
  | none => exact J.throw _

theorem layout (t : Ty) : J.holds R.none (Build.layout t) (Build.layout t) := by
  unfold Build.layout
  split
  · exact J.pure _
  · exact J.throw _
  · exact J.throw _

theorem known (t : Ty) : J.holds R.none (Build.known t) (Build.known t) := J.ite (J.throw _) (J.pure t)

theorem emit (i : Inst) : J.holds R.none (Build.emit i) (Build.emit (i.renumber ρ)) :=
  J.get_bind fun b => J.emitAt b.current i

theorem storeAt (k : Nat) (v target : Value) : J.holds R.none (Build.storeAt k v target) (Build.storeAt k v target) :=
  J.ite (J.after (J.emitAt k (.store v target)) fun _ => J.pure _) (J.throw _)

theorem store (v target : Value) : J.holds R.none (Build.store v target) (Build.store v target) :=
  J.get_bind fun b => J.storeAt b.current v target

theorem getValue (r : Result) : J.holds R.none r.getValue r.getValue := by
  unfold Result.getValue
  split
  · split
    · exact J.after (J.demand _) fun k => J.emitAt k (.load _ _)
    · exact J.throw _
    · exact J.throw _
  · exact J.pure _
  · exact J.pure _
  · exact J.throw _

theorem getAddress (r : Result) : J.holds R.none r.getAddress r.getAddress := by
  refine J.after ?_ fun _ => J.pure _
  unfold Result.materialise
  split
  · exact J.pure r
  · refine J.after (J.layout _) fun l => J.after (J.demand _) fun k => J.after (J.emitAt k (.alloca l)) fun _ => ?_
    exact J.after (J.getValue r) fun _ => J.after (J.storeAt _ _ _) fun _ => J.pure _

theorem deliver (r : Result) (token : Token) (demand : Demand) :
    J.holds R.none (r.deliver token demand) (r.deliver token demand) := by
  cases demand with
  | value => exact J.pure r
  | address => exact J.pinned _ (J.getAddress r)

theorem atom (token : Token) (demand : Demand) :
    J.holds R.none (Atom.compile token demand) (Atom.compile token demand) := by
  have constant (type : Ty) (n : Int) : J.holds R.none (Atom.constant type n >>= fun r => r.deliver token demand)
      (Atom.constant type n >>= fun r => r.deliver token demand) :=
    J.after (J.get_bind fun _ => J.pure _) fun r => J.deliver r token demand
  unfold Atom.compile
  split
  · split
    · exact constant _ _
    · exact J.complain _ _
  · exact constant _ _
  · exact constant _ _
  · refine J.get_bind fun b => ?_
    rw [show (b.renumber ρ).env = b.env from rfl]
    split
    · exact J.complain _ _
    · rename_i v _
      cases demand with
      | address => exact J.get_bind fun _ => J.pure _
      | value =>
        refine J.after (J.pinned _ (J.layout _)) fun l => ?_
        exact J.after (J.emit (.load l v.storage)) fun _ => J.get_bind fun _ => J.pure _
  · exact J.complain _ _

def all (ns : List Node) : ι := R.all (ns.map J.node)

def form (f : Builtin) (ns : List Node) : ι := R.form f ns (ns.map J.node)

theorem all_singleton (n : Node) : J.all [n] = J.node n := R.all_singleton _

inductive Each : List Node → List Operand → List Operand → Prop
  | nil : Each [] [] []
  | cons {n : Node} {x y : Demand → Build Result} {ns : List Node} {os os' : List Operand}
    (first : ∀ demand, J.holds (J.node n) (x demand) (y demand)) (others : Each ns os os') :
    Each (n :: ns) (⟨n, x⟩ :: os) (⟨n, y⟩ :: os')

variable {J} {ns : List Node} {os os' : List Operand}

namespace Each

theorem tokens (h : J.Each ns os os') : os'.map (·.node.token) = os.map (·.node.token) := by
  induction h with
  | nil => rfl
  | cons _ _ ih => rw [List.map_cons, List.map_cons, ih]

theorem length (h : J.Each ns os os') : os'.length = os.length := by
  simpa using congrArg List.length h.tokens

theorem single (h : J.Each ns os os') (one : os.length = 1) :
    ∃ n x y, ns = [n] ∧ os = [⟨n, x⟩] ∧ os' = [⟨n, y⟩] ∧ ∀ demand, J.holds (J.node n) (x demand) (y demand) := by
  cases h with
  | nil => cases one
  | cons first others =>
    cases others with
    | nil => exact ⟨_, _, _, rfl, rfl, rfl, first⟩
    | cons => simp at one

theorem compileAll (h : J.Each ns os os') : J.holds (J.all ns) (Operand.compileAll os) (Operand.compileAll os') := by
  induction h with
  | nil => exact J.pure _
  | cons first _ ih => exact J.bind (first .value) fun _ => J.before ih fun _ => J.pure _

theorem compileSequence (h : J.Each ns os os') :
    J.holds (J.all ns) (Operand.compileSequence os) (Operand.compileSequence os') := by
  induction h with
  | nil => exact J.get_bind fun _ => J.pure _
  | cons first others ih =>
    cases others with
    | nil =>
      rw [all_singleton]
      exact first .value
    | cons => exact J.bind (first .value) fun _ => ih

section Forms

variable (h : J.Each ns os os') (paren head : Token)

include h

theorem offsets (all all' : List Operand) (subtract : Bool) (l : Layout) (position : Nat) (pointer : Value) :
    J.holds (J.all ns) (Pointer.offsets ⟨paren, head, all⟩ subtract l position os pointer)
      (Pointer.offsets ⟨paren, head, all'⟩ subtract l position os' pointer) := by
  induction h generalizing position pointer with
  | nil => exact J.pure _
  | cons first _ ih =>
    have widen (type : Ty) (v : Value) : J.holds R.none (Pointer.widen type v) (Pointer.widen type v) := by
      refine J.ite (J.pure v) (J.ite (J.emit (.extend false v 64)) ?_)
      split
      · exact J.pure _
      · exact J.emit (.extend true _ 64)
    refine J.bind (first .value) fun r => J.after (J.known _) fun type => J.guard fun _ => ?_
    refine J.after (J.getValue r) fun v => J.after (widen type v) fun w => ?_
    refine J.ite (J.after (J.emit (.sub (.const 64 0) w)) fun distance => ?_) (J.after (J.pure w) fun distance => ?_)
    · exact J.after (J.emit (.offset l pointer distance)) fun v => ih (position + 1) v
    · exact J.after (J.emit (.offset l pointer distance)) fun v => ih (position + 1) v

theorem compileOffset (subtract : Bool) (demand : Demand) :
    J.holds (J.all ns) (Pointer.compileOffset ⟨paren, head, os⟩ subtract demand)
      (Pointer.compileOffset ⟨paren, head, os'⟩ subtract demand) := by
  cases h with
  | nil => exact J.complain _ _
  | cons first others =>
    cases others with
    | nil => exact J.complain _ _
    | cons second others =>
      refine J.bind (first .value) fun r => J.after (J.known _) fun type => J.guard fun _ => ?_
      have element (token : Token) :
          J.holds R.none (Pointer.element type.decay token) (Pointer.element type.decay token) := by
        refine J.after (J.demand _) fun t => ?_
        split
        · exact J.pure _
        · exact J.complain _ _
      have base : J.holds R.none (Pointer.base r) (Pointer.base r) := by
        refine J.after (J.known _) fun type => J.ite (J.getValue r) (J.after (J.getAddress r) fun address => ?_)
        exact J.after (J.layout type) fun l => J.after (J.getValue address) fun v => J.after (J.demand _) fun k =>
          J.emitAt k (.firstElement l v)
      refine J.after (element _) fun l => J.after (J.pinned _ base) fun p => ?_
      exact J.before (offsets (.cons second others) paren head _ _ subtract l 1 p) fun v => J.get_bind fun _ =>
        J.deliver _ _ _

omit h in
theorem declare (name type : Node) {x y z w : Demand → Build Result} {init init' : Option Operand}
    (initial : init = none ∧ init' = none ∧ m = R.none ∨
      ∃ n x y, init = some ⟨n, x⟩ ∧ init' = some ⟨n, y⟩ ∧ ∀ demand, J.holds m (x demand) (y demand)) :
    J.holds (R.declaration name type m) (Variable.declare ⟨name, x⟩ ⟨type, y⟩ init)
      (Variable.declare ⟨name, z⟩ ⟨type, w⟩ init') := by
  unfold Variable.declare Reckoning.declaration
  dsimp only
  cases name.symbol? with
  | none => exact J.complain _ _
  | some s =>
    cases Ty.read type with
    | error r => exact J.throw (.reported r [])
    | ok t =>
      simp only [Build.ofReport, pure_bind]
      refine J.after (J.pinned _ (J.layout t)) fun l => ?_
      have ended {x y : Build PUnit} (bound : J.holds (R.declared s t m) x y) :
          J.holds (R.declared s t m) (do x; return Result.void (← get).current)
            (do y; return Result.void (← get).current) :=
        J.before bound fun _ => J.get_bind fun _ => J.pure _
      rcases initial with ⟨rfl, rfl, rfl⟩ | ⟨n, x, y, rfl, rfl, each⟩
      · simpa only [bind_assoc, pure_bind] using ended (J.declared s t l fun _ => J.pure ())
      · have initialised (v : Value) :
            J.holds m (Variable.initialise s t v ⟨n, x⟩) (Variable.initialise s t v ⟨n, y⟩) :=
          J.before (each .value) fun r => J.guard fun _ => J.after (J.getValue r) fun _ => J.store _ v
        simpa only [bind_assoc] using ended (J.declared s t l initialised)

theorem compileVariable :
    J.holds (J.form .declare ns) (Variable.compile ⟨paren, head, os⟩) (Variable.compile ⟨paren, head, os'⟩) := by
  cases h with
  | nil => exact J.complain _ _
  | cons _ others =>
    cases others with
    | nil => exact J.complain _ _
    | cons _ others =>
      cases others with
      | nil => exact declare _ _ (.inl ⟨rfl, rfl, rfl⟩)
      | cons third others =>
        cases others with
        | nil => exact declare _ _ (.inr ⟨_, _, _, rfl, rfl, third⟩)
        | cons _ others =>
          have length := others.length
          show J.holds _ (Build.complain (.arity _ _ (_ + 4)) _) (Build.complain (.arity _ _ (_ + 4)) _)
          rw [length]
          exact J.complain _ _

theorem compileReturn (ctx : Context) :
    J.holds (J.all ns) (Control.compileReturn ctx ⟨paren, head, os⟩)
      (Control.compileReturn (ctx.renumber ρ) ⟨paren, head, os'⟩) := by
  have returned (f : Function) (v : Value) : J.holds R.none (Control.returnValue f v >>= Control.finish)
      (Control.returnValue (f.renumber ρ) v >>= Control.finish) := by
    unfold Control.returnValue
    rw [show (f.renumber ρ).hasSlot = f.hasSlot from rfl]
    split
    · simp only [bind_assoc, pure_bind]
      exact J.after (J.layout _) fun _ => J.after (J.store v _) fun _ => J.ret none
    · exact J.ret (some v)
  cases h with
  | nil => exact J.guard fun _ => J.ret none
  | cons first others =>
    cases others with
    | nil =>
      exact J.bind (first .value) fun r => J.guard fun _ => J.after (J.getValue r) fun v => returned ctx.function v
    | cons _ others =>
      have length := others.length
      show J.holds _ (Build.complain (.arity _ _ (_ + 2)) _) (Build.complain (.arity _ _ (_ + 2)) _)
      rw [length]
      exact J.complain _ _

theorem emit (callee : Function) (args : List Result) (demand : Demand) :
    J.holds R.none (Call.emit ⟨paren, head, os⟩ callee args demand)
      (Call.emit ⟨paren, head, os'⟩ (callee.renumber ρ) args demand) := by
  have tokens : Invocation.tokens ⟨paren, head, os'⟩ = Invocation.tokens ⟨paren, head, os⟩ := h.tokens
  have values (position : Nat) (args : List (Token × Result)) :
      J.holds R.none (Call.values head position args) (Call.values head position args) := by
    induction args generalizing position with
    | nil => exact J.pure _
    | cons arg args ih =>
      rw [Call.values]
      exact J.guard fun _ => J.after (J.getValue arg.2) fun _ => J.after (ih (position + 1)) fun _ => J.pure _
  unfold Call.emit
  rw [tokens]
  refine J.after (values 1 _) fun vs => ?_
  -- A call goes to the number that its callee has.
  cases called : callee.symbol with
  | none =>
    simp only [Call.symbol, Function.renumber, called, Option.map_none]
    exact J.throw (.broken .undeclared)
  | some n =>
    simp only [Call.symbol, Function.renumber, called, Option.map_some, pure_bind]
    refine J.ite ?_ (J.ite ?_ ?_)
    · refine J.after (J.pinned _ (J.layout _)) fun l => J.after (J.emit (.alloca l)) fun slot => ?_
      exact J.after (J.emit (.call .void n (vs ++ [slot]))) fun _ => J.get_bind fun _ => J.deliver _ _ _
    · exact J.after (J.emit (.call .void n vs)) fun _ => J.get_bind fun _ => J.deliver _ _ _
    · refine J.after (J.pinned _ (J.layout _)) fun l => ?_
      exact J.after (J.emit (.call l n vs)) fun v => J.get_bind fun _ => J.deliver _ _ _

theorem compileCall (ctx : Context) (demand : Demand) :
    J.holds (J.all ns) (Call.compile ctx ⟨paren, head, os⟩ demand)
      (Call.compile (ctx.renumber ρ) ⟨paren, head, os'⟩ demand) := by
  refine J.before h.compileAll fun args => ?_
  have found := ctx.registry.lookup_renumber (ρ := ρ) head.literal (args.map (·.type))
  dsimp only [Context.renumber]
  rw [found]
  cases ctx.registry.lookup head.literal (args.map (·.type)) with
  | none => exact J.complain _ _
  | some callee => exact h.emit paren head callee args demand

theorem compileBuiltin (ctx : Context) (demand : Demand) (form : Builtin) :
    J.holds (J.form form ns) (form.compile ctx ⟨paren, head, os⟩ demand)
      (form.compile (ctx.renumber ρ) ⟨paren, head, os'⟩ demand) := by
  have delivered {m : ι} {x y : Build Result} (h : J.holds m x y) :
      J.holds m (x >>= (·.deliver paren demand)) (y >>= (·.deliver paren demand)) :=
    J.before h fun r => J.deliver r paren demand
  by_cases wrong : form.isUnary = true ∧ os.length ≠ 1
  · have length := h.length
    rw [Builtin.compile_of_arity wrong.1 wrong.2, Builtin.compile_of_arity wrong.1 (length ▸ wrong.2)]
    rw [length]
    exact J.complain _ _
  have one (unary : form.isUnary = true) := h.single (by simpa [unary] using wrong)
  cases form with
  | pointerAdd => exact h.compileOffset paren head false demand
  | pointerSubtract => exact h.compileOffset paren head true demand
  | sequence => exact delivered h.compileSequence
  | scope => exact delivered (J.inScope h.compileSequence)
  | declare => exact delivered (h.compileVariable paren head)
  | ret => exact delivered (h.compileReturn paren head ctx)
  | addressOf =>
    obtain ⟨n, x, y, rfl, rfl, rfl, each⟩ := one rfl
    show J.holds (J.all [n]) _ _
    rw [all_singleton]
    exact delivered (each .address)
  | dereference =>
    obtain ⟨n, x, y, rfl, rfl, rfl, each⟩ := one rfl
    show J.holds (J.all [n]) _ _
    rw [all_singleton]
    refine J.before (each .value) fun r => J.after (J.known _) fun type => ?_
    split
    · refine J.after (J.getValue r) fun address => ?_
      cases demand with
      | address => exact J.get_bind fun _ => J.pure _
      | value =>
        refine J.after (J.pinned _ (J.layout _)) fun l => ?_
        exact J.after (J.emit (.load l address)) fun _ => J.get_bind fun _ => J.pure _
    · exact J.complain _ _
  | label =>
    obtain ⟨n, x, y, rfl, rfl, rfl, -⟩ := one rfl
    exact delivered (J.label n x y)
  | jump =>
    obtain ⟨n, x, y, rfl, rfl, rfl, -⟩ := one rfl
    exact delivered (J.goto n x y)

end Forms

end Each

/-- What is left to be judged of forms: atoms, what their heads let them be, and a name that functions share with a
built-in form. The second of the steps may be any way to compile nodes by what their operands do. -/
structure Allows (J : Judgement ρ R) (ctx : Context) (second : Node → Demand → Build Result) : Prop where
  list (paren : Token) (items : List Node) (demand : Demand) : second (.list paren items) demand =
    Form.compileList (ctx.renumber ρ) paren (items.map fun n => ⟨n, second n⟩) demand
  atom (token : Token) (demand : Demand) :
    J.holds (J.node (.atom token)) (Atom.compile token demand) (second (.atom token) demand)
  called {x y : Build Result} (paren head : Token) (ns : List Node) : ctx.callsFor head.literal = true →
    Builtin.ofHead? head.literal = none → J.holds (J.all ns) x y → J.holds (J.node (.list paren (.atom head :: ns))) x y
  builtin {x y : Build Result} (paren head : Token) (ns : List Node) {form : Builtin} :
    ctx.callsFor head.literal = false → Builtin.ofHead? head.literal = some form → J.holds (J.form form ns) x y →
      J.holds (J.node (.list paren (.atom head :: ns))) x y
  shared {os os' : List Operand} (paren head : Token) (ns : List Node) (demand : Demand) {form : Builtin} :
    os = Form.operands ctx ns → J.Each ns os os' → ctx.callsFor head.literal = true →
    Builtin.ofHead? head.literal = some form →
      J.holds (J.node (.list paren (.atom head :: ns))) (Form.compileShared ctx ⟨paren, head, os⟩ demand form)
        (Form.compileShared (ctx.renumber ρ) ⟨paren, head, os'⟩ demand form)

variable {ctx : Context} {second : Node → Demand → Build Result}

theorem compileInvocation (allows : J.Allows ctx second) (each : J.Each ns (Form.operands ctx ns) os')
    (paren head : Token) (demand : Demand) :
    J.holds (J.node (.list paren (.atom head :: ns)))
      (Form.compileInvocation ctx ⟨paren, head, Form.operands ctx ns⟩ demand)
      (Form.compileInvocation (ctx.renumber ρ) ⟨paren, head, os'⟩ demand) := by
  have has (name : String) : (ctx.renumber ρ).registry.has name = ctx.registry.has name := by
    rw [Registry.has_eq_isSome, Registry.has_eq_isSome]
    dsimp only [Context.renumber, Registry.renumber]
    rw [Registry.lookup_entries_mapFunctions, Option.isSome_map]
  unfold Form.compileInvocation
  dsimp only
  split
  · rename_i name plain
    have calls : ctx.callsFor head.literal = ctx.registry.has name := by simp only [Context.callsFor, plain]
    have named : Builtin.ofHead? head.literal = Builtin.ofName? name := by simp only [Builtin.ofHead?, plain]
    rw [has name]
    split
    · exact J.complain _ _
    · rename_i is has
      exact allows.builtin paren head ns (calls.trans has) (named.trans is)
        (each.compileBuiltin paren head ctx demand _)
    · rename_i is has
      exact allows.called paren head ns (calls.trans has) (named.trans is) (each.compileCall paren head ctx demand)
    · rename_i is has
      exact allows.shared paren head ns demand rfl each (calls.trans has) (named.trans is)
  · rename_i name core
    have calls : ctx.callsFor head.literal = false := by simp [Context.callsFor, core]
    have named : Builtin.ofHead? head.literal = Builtin.ofName? name := by simp only [Builtin.ofHead?, core]
    split
    · rename_i is
      exact allows.builtin paren head ns calls (named.trans is) (each.compileBuiltin paren head ctx demand _)
    · exact J.complain _ _
  · exact J.complain _ _

mutual
theorem compile (allows : J.Allows ctx second) (demand : Demand) : (n : Node) →
    J.holds (J.node n) (Form.compile ctx n demand) (second n demand)
  | .atom token => by
    rw [Form.compile]
    exact allows.atom token demand
  | .list paren [] | .list paren (.list _ _ :: _) => by
    rw [Form.compile, allows.list]
    exact J.complain _ _
  | .list paren (.atom head :: ns) => by
    rw [Form.compile, allows.list]
    exact J.ite (compileInvocation allows (operands allows ns) paren head demand) (J.complain _ _)

theorem operands (allows : J.Allows ctx second) : (ns : List Node) →
    J.Each ns (Form.operands ctx ns) (ns.map fun n => ⟨n, second n⟩)
  | [] => .nil
  | n :: ns => .cons (fun demand => compile allows demand n) (operands allows ns)
end

theorem enterParams (J : Judgement ρ R) (nothing : ∀ x t, R.declared x t R.none = R.none) (i : Nat)
    (ps : List Parameter) : J.holds R.none (Body.enterParams i ps) (Body.enterParams i ps) := by
  induction ps generalizing i with
  | nil => exact J.pure _
  | cons p ps ih =>
    refine J.ite (J.pure _) (J.after (J.pinned _ (J.layout _)) fun l => ?_)
    have bound := J.declared p.name p.type l fun v => J.store (.param i l) v
    rw [nothing] at bound
    simpa only [bind_assoc] using J.after bound fun _ => ih (i + 1)

end Judgement

end FormCompiler
