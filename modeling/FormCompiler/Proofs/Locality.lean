import FormCompiler.Proofs.Judgement

namespace FormCompiler

open IR (Block Inst Layout Term Value)

variable {x y : Demand → Build Result}

namespace Node

def plainHead : List Node → Option String
  | .atom t :: _ => if t.kind = .symbol ∧ (splitQualified t.literal).1 = "" then some t.literal else none
  | _ => none

mutual
def heads : Node → List String
  | atom _ => []
  | list _ items => (plainHead items).toList ++ headsAll items

def headsAll : List Node → List String
  | [] => []
  | n :: ns => n.heads ++ headsAll ns
end

end Node

section Heads

variable {r r' : Registry} {ctx : Context} {name : String}

theorem Form.compileInvocation_congr {call : Invocation} (demand : Demand)
    (same : (splitQualified call.head.literal).1 = "" →
      r'.entries.lookup call.head.literal = r.entries.lookup call.head.literal) :
    Form.compileInvocation { ctx with registry := r' } call demand =
      Form.compileInvocation { ctx with registry := r } call demand := by
  cases split : splitQualified call.head.literal with
  | mk space name =>
    by_cases plain : space = ""
    · subst plain
      obtain rfl := splitQualified_of_plain split
      have same := same (by rw [split])
      have has : r'.has call.head.literal = r.has call.head.literal := by
        rw [Registry.has_eq_isSome, Registry.has_eq_isSome, same]
      have lookup (types : List Ty) : r'.lookup call.head.literal types = r.lookup call.head.literal types := by
        unfold Registry.lookup Registry.overloads
        rw [same]
      simp only [Form.compileInvocation, split, has, Form.compileShared, Form.fitting, Call.compile, lookup]
      rfl
    · unfold Form.compileInvocation
      rw [split]
      split
      · rename_i empty
        exact absurd (Prod.mk.inj empty).1 plain
      · rfl
      · rfl

mutual
theorem Form.compile_congr : (n : Node) → (∀ name ∈ n.heads, r'.entries.lookup name = r.entries.lookup name) →
    Form.compile { ctx with registry := r' } n = Form.compile { ctx with registry := r } n
  | .atom token => by
    intro _
    rfl
  | .list paren items => by
    intro same
    have inner := Form.operands_congr items fun name inside => same name (List.mem_append_right _ inside)
    funext demand
    rw [Form.compile, Form.compile, inner]
    match items with
    | [] => rfl
    | .list _ _ :: _ => rfl
    | .atom head :: ns =>
      show Form.compileList _ _ (⟨.atom head, _⟩ :: Form.operands _ ns) _ =
        Form.compileList _ _ (⟨.atom head, _⟩ :: Form.operands _ ns) _
      unfold Form.compileList
      dsimp only
      split
      · rename_i symbol
        refine Form.compileInvocation_congr demand fun plain => same head.literal (List.mem_append_left _ ?_)
        simp [Node.plainHead, symbol, plain]
      · rfl

theorem Form.operands_congr : (ns : List Node) →
    (∀ name ∈ Node.headsAll ns, r'.entries.lookup name = r.entries.lookup name) →
      Form.operands { ctx with registry := r' } ns = Form.operands { ctx with registry := r } ns
  | [] => by
    intro _
    rfl
  | n :: ns => by
    intro same
    have first := Form.compile_congr n fun name inside => same name (List.mem_append_left _ inside)
    have others := Form.operands_congr ns fun name inside => same name (List.mem_append_right _ inside)
    rw [Form.operands, Form.operands, first, others]
end

theorem Body.compile_congr (forms : List Node)
    (same : ∀ name ∈ Node.headsAll forms, r'.entries.lookup name = r.entries.lookup name) :
    Body.compile { ctx with registry := r' } forms = Body.compile { ctx with registry := r } forms := by
  unfold Body.compile Body.build Body.fill
  rw [Form.operands_congr forms same]

end Heads

variable {ρ : Nat → Nat}

theorem IR.Inst.layout_renumber (i : Inst) : (i.renumber ρ).layout = i.layout := by
  cases i <;> rfl

namespace Body

variable (b : Body)

theorem renumber_append (k : Nat) (i : Inst) : (b.append k i).renumber ρ = (b.renumber ρ).append k (i.renumber ρ) := by
  have blocks : (b.append k i).blocks.map (Block.renumber ρ) = ((b.renumber ρ).append k (i.renumber ρ)).blocks := by
    dsimp only [append, renumber]
    apply map_modify
    intro block
    simp [Block.renumber]
  simp only [renumber, blocks]
  rfl

theorem renumber_terminate (k : Nat) (t : Term) : (b.terminate k t).renumber ρ = (b.renumber ρ).terminate k t := by
  have blocks : (b.terminate k t).blocks.map (Block.renumber ρ) = ((b.renumber ρ).terminate k t).blocks := by
    dsimp only [terminate, renumber]
    apply map_modify
    intro block
    rfl
  simp only [renumber, blocks]
  rfl

theorem renumber_addBlock (name : String) : (b.addBlock name).renumber ρ = (b.renumber ρ).addBlock name := by
  simp [addBlock, renumber, Block.renumber]

theorem size_renumber : (b.renumber ρ).blocks.size = b.blocks.size := Array.size_map

theorem renumber_startBlock (name : String) : (b.startBlock name).renumber ρ = (b.renumber ρ).startBlock name := by
  rw [startBlock, startBlock, size_renumber, ← renumber_addBlock]
  rfl

theorem isOpen_renumber (k : Nat) : (b.renumber ρ).isOpen k = b.isOpen k := by
  simp only [isOpen, renumber, Array.getElem?_map]
  cases b.blocks[k]? with
  | none => rfl
  | some block => rfl

theorem nextPlace_renumber (k : Nat) : (b.renumber ρ).nextPlace k = b.nextPlace k := by
  simp only [nextPlace, renumber, Array.getElem?_map]
  cases b.blocks[k]? with
  | none => rfl
  | some block => simp [Block.renumber]

theorem renumber_fallInto (target : Nat) : (b.fallInto target).renumber ρ = (b.renumber ρ).fallInto target := by
  unfold fallInto
  rw [show (b.renumber ρ).current = b.current from rfl, isOpen_renumber]
  split
  · exact renumber_terminate b b.current (.br target)
  · rfl

theorem renumber_startLabel (name : String) : (b.startLabel name).renumber ρ = (b.renumber ρ).startLabel name := by
  have fallen := renumber_fallInto (ρ := ρ) (b.addBlock ("label." ++ name)) b.blocks.size
  rw [renumber_addBlock] at fallen
  simp only [startLabel, size_renumber, ← fallen]
  rfl

theorem renumber_resolveGoto (g : PendingGoto) : (b.resolveGoto g).renumber ρ = (b.renumber ρ).resolveGoto g := by
  unfold resolveGoto
  rw [show (b.renumber ρ).label? g.label = b.label? g.label from rfl]
  split
  · exact renumber_terminate b _ _
  · rfl

theorem renumber_resolveGotos : b.resolveGotos.renumber ρ = (b.renumber ρ).resolveGotos := by
  have each (gs : List PendingGoto) (b : Body) :
      (gs.foldl resolveGoto b).renumber ρ = gs.foldl resolveGoto (b.renumber ρ) := by
    induction gs generalizing b with
    | nil => rfl
    | cons g gs ih => rw [List.foldl_cons, List.foldl_cons, ih, renumber_resolveGoto]
  have all := each b.gotos b
  rw [resolveGotos, resolveGotos, show (b.renumber ρ).gotos = b.gotos from rfl, ← all]
  rfl

theorem renumber_close (t : Term) : (b.close t).renumber ρ = (b.renumber ρ).close t := by
  simp only [close, renumber, Array.map_map]
  rfl

theorem mark_renumber : (b.renumber ρ).mark = b.mark := by
  have term : (b.renumber ρ).blocks[b.current]?.bind (·.term) = b.blocks[b.current]?.bind (·.term) := by
    simp only [renumber, Array.getElem?_map]
    cases b.blocks[b.current]? <;> rfl
  rw [mark, mark, nextPlace_renumber, size_renumber, show (b.renumber ρ).current = b.current from rfl, term]
  rfl

theorem renumber_rollback (m : Mark) : (b.rollback m).renumber ρ = (b.renumber ρ).rollback m := by
  have blocks : (b.rollback m).blocks.map (Block.renumber ρ) = ((b.renumber ρ).rollback m).blocks := by
    have front : (b.blocks.map (Block.renumber ρ)).take m.blocks = (b.blocks.take m.blocks).map (Block.renumber ρ) :=
      Array.map_extract.symm
    dsimp only [rollback, renumber]
    rw [front]
    apply map_modify
    intro block
    simp [cutBlock, Block.renumber]
  simp only [renumber, blocks]
  rfl

end Body

namespace Build

variable {α β : Type} {x y : Build α}

def renumbered (ρ : Nat → Nat) : EStateM.Result Fault Body α → EStateM.Result Fault Body α
  | .ok a b => .ok a (b.renumber ρ)
  | .error f b => .error f (b.renumber ρ)

/-- A step that does with other numbers what `x` does: it gives the same or fails for the same reason. -/
def Follows (ρ : Nat → Nat) (x y : Build α) : Prop := ∀ b, y (b.renumber ρ) = renumbered ρ (x b)

namespace Follows

theorem pure (a : α) : Follows ρ (Pure.pure a) (Pure.pure a) := fun _ => rfl

theorem throw (f : Fault) : Follows ρ (MonadExcept.throw f : Build α) (MonadExcept.throw f) := fun _ => rfl

theorem bind {f g : α → Build β} (h : Follows ρ x y) (rest : ∀ a, Follows ρ (f a) (g a)) :
    Follows ρ (x >>= f) (y >>= g) := by
  intro b
  cases run : x b with
  | ok a c =>
    have run' : y (b.renumber ρ) = .ok a (c.renumber ρ) := by rw [h b, run]; rfl
    rw [bind_of_ok run, bind_of_ok run', rest a c]
  | error f c =>
    have run' : y (b.renumber ρ) = .error f (c.renumber ρ) := by rw [h b, run]; rfl
    rw [bind_of_error run, bind_of_error run']
    rfl

theorem get_bind {f g : Body → Build β} (h : ∀ b, Follows ρ (f b) (g (b.renumber ρ))) :
    Follows ρ (MonadState.get >>= f) (MonadState.get >>= g) := fun b => h b b

theorem changed {k l : Body → Body} (h : ∀ b, l (b.renumber ρ) = (k b).renumber ρ) :
    Follows ρ (modify k : Build PUnit) (modify l) := by
  intro b
  show EStateM.Result.ok PUnit.unit (l (b.renumber ρ)) = .ok PUnit.unit ((k b).renumber ρ)
  rw [h b]

theorem pinned (token : Option Token) (h : Follows ρ x y) : Follows ρ (Build.pinned token x)
    (Build.pinned token y) := by
  intro b
  simp only [Build.pinned, EStateM.adaptExcept, h b]
  cases x b <;> rfl

theorem attempt (h : Follows ρ x y) : Follows ρ (Build.attempt x) (Build.attempt y) := by
  intro b
  simp only [Build.attempt, h b]
  cases x b with
  | ok a c => rfl
  | error f c =>
    show (if f.isUserFault then _ else _) = renumbered ρ (if f.isUserFault then _ else _)
    split <;> rfl

theorem inScope (h : Follows ρ x y) : Follows ρ (Build.inScope x) (Build.inScope y) := by
  intro b
  have run : y { b.renumber ρ with env := (b.renumber ρ).env.enter } =
      renumbered ρ (x { b with env := b.env.enter }) := h { b with env := b.env.enter }
  simp only [Build.inScope, run]
  cases x { b with env := b.env.enter } <;> rfl

end Follows

end Build

open Build (Follows)

namespace Control

theorem follows_afterTerminator : Follows ρ afterTerminator afterTerminator :=
  .bind (.changed fun b => (b.renumber_startBlock "").symm) fun _ => .get_bind fun _ => .pure _

theorem follows_finish (t : Term) : Follows ρ (finish t) (finish t) :=
  .bind (.changed fun b => (b.renumber_terminate b.current t).symm) fun _ => follows_afterTerminator

theorem follows_labelName (form : String) (n : Node) : Follows ρ (labelName form ⟨n, x⟩) (labelName form ⟨n, y⟩) := by
  unfold labelName
  dsimp only
  split
  · exact .pure _
  · exact .throw _

theorem follows_compileLabel (n : Node) : Follows ρ (compileLabel ⟨n, x⟩) (compileLabel ⟨n, y⟩) := by
  refine .bind (follows_labelName _ n) fun name => .get_bind fun b => ?_
  rw [show (b.renumber ρ).label? name = b.label? name from rfl]
  have started : Follows ρ (do modify (·.startLabel name); return Result.void (← get).current)
      (do modify (·.startLabel name); return Result.void (← get).current) :=
    .bind (.changed fun b => (b.renumber_startLabel name).symm) fun _ => .get_bind fun _ => .pure _
  split
  · exact .bind (.throw _) fun _ => started
  · exact started

theorem follows_compileGoto (n : Node) : Follows ρ (compileGoto ⟨n, x⟩) (compileGoto ⟨n, y⟩) := by
  refine .bind (follows_labelName _ n) fun name => .get_bind fun b => ?_
  rw [show (b.renumber ρ).label? name = b.label? name from rfl]
  split
  · exact follows_finish _
  · exact .bind (.changed fun _ => rfl) fun _ => follows_afterTerminator

end Control

def Reckoning.unit : Reckoning Unit where
  none := ()
  seq _ _ := ()
  scope _ := ()
  declared _ _ _ := ()
  label _ := ()
  jump _ := ()
  none_seq _ := rfl
  seq_none _ := rfl

theorem Build.Follows.emitAt (k : Nat) (i : Inst) : Follows ρ (Build.emitAt k i) (Build.emitAt k (i.renumber ρ)) := by
  refine .get_bind fun b => ?_
  rw [Body.nextPlace_renumber, i.layout_renumber]
  exact .bind (.changed fun b => (b.renumber_append k i).symm) fun _ => .pure _

def Judgement.follows (ρ : Nat → Nat) : Judgement ρ Reckoning.unit where
  node _ := ()
  holds _ x y := Follows ρ x y
  pure a := .pure a
  throw f := .throw f
  bind h rest := .bind h rest
  get_bind h := .get_bind h
  pinned token h := .pinned token h
  inScope h := .inScope h
  emitAt k i := .emitAt k i
  declared _ _ l initial :=
    .bind (.get_bind fun b => .emitAt b.current (.alloca l)) fun v => .bind (initial v) fun _ => .changed fun _ => rfl
  ret v := Control.follows_finish (.ret v)
  label n _ _ := Control.follows_compileLabel n
  goto n _ _ := Control.follows_compileGoto n

theorem Judgement.follows_shared {ctx : Context} {ns : List Node} {os os' : List Operand}
    (each : (Judgement.follows ρ).Each ns os os') (paren head : Token) (demand : Demand) (form : Builtin) :
    Follows ρ (Form.compileShared ctx ⟨paren, head, os⟩ demand form)
      (Form.compileShared (ctx.renumber ρ) ⟨paren, head, os'⟩ demand form) := by
  refine Build.Follows.get_bind fun b => ?_
  rw [Body.mark_renumber]
  refine Build.Follows.bind (.attempt each.compileAll) fun args => ?_
  have fits : Form.fitting (ctx.renumber ρ) head.literal args =
      (Form.fitting ctx head.literal args).map fun found => (found.1, found.2.renumber ρ) := by
    cases args with
    | none => rfl
    | some rs =>
      have found := ctx.registry.lookup_renumber (ρ := ρ) head.literal (rs.map (·.type))
      simp only [Form.fitting, Context.renumber, Option.bind_eq_bind, Option.bind_some, found]
      cases ctx.registry.lookup head.literal (rs.map (·.type)) <;> rfl
  dsimp only
  rw [fits]
  cases Form.fitting ctx head.literal args with
  | none =>
    refine Build.Follows.bind (.changed fun c => (c.renumber_rollback b.mark).symm) fun _ => ?_
    exact each.compileBuiltin paren head ctx demand form
  | some found => exact each.emit paren head found.2 found.1 demand

theorem Judgement.follows_allows (ctx : Context) :
    (Judgement.follows ρ).Allows ctx (Form.compile (ctx.renumber ρ)) where
  list paren items demand := by rw [Form.compile, Form.operands_eq_map]
  atom token demand := by
    rw [Form.compile]
    exact (Judgement.follows ρ).atom token demand
  called _ _ _ _ _ h := h
  builtin _ _ _ _ _ _ h := h
  shared paren head _ demand form _ each _ _ := Judgement.follows_shared each paren head demand form

namespace Body

theorem follows_settleGotos (name : String) : Follows ρ (settleGotos name) (settleGotos name) := by
  refine .get_bind fun b => ?_
  rw [show (b.renumber ρ).unresolved = b.unresolved from rfl]
  dsimp only
  split
  · exact .throw _
  · exact .changed fun b => b.renumber_resolveGotos.symm

theorem compile_renumber (ctx : Context) (forms : List Node) :
    Body.compile (ctx.renumber ρ) forms = (Body.compile ctx forms).map (Body.renumber ρ) := by
  have filled : Follows ρ (fill ctx (Form.operands ctx forms))
      (fill (ctx.renumber ρ) (Form.operands (ctx.renumber ρ) forms)) := by
    refine .bind (.changed fun b => (b.renumber_startBlock "entry").symm) fun _ => ?_
    refine .bind ((Judgement.follows ρ).enterParams (fun _ _ => rfl) 0 ctx.function.params) fun _ => ?_
    rw [Form.operands_eq_map (ctx.renumber ρ)]
    exact .bind (Judgement.operands (Judgement.follows_allows ctx) forms).compileSequence fun _ => .pure _
  have built : Follows ρ (build ctx forms) (build (ctx.renumber ρ) forms) :=
    .bind filled fun _ => .bind (follows_settleGotos ctx.name) fun _ => .changed fun b => (b.renumber_close _).symm
  have empty : ({} : Body).renumber ρ = {} := by simp [renumber]
  have run := built {}
  rw [empty] at run
  unfold Body.compile
  rw [run]
  cases build ctx forms {} <;> rfl

/-- Contexts that hold the same overloads for the names which the lists in a body are headed by compile it alike,
whatever else they hold and whatever the numbers of the functions are. -/
theorem compile_depends_on_heads (ρ : Nat → Nat) {ctx ctx' : Context} (forms : List Node)
    (name : ctx'.name = ctx.name) (function : ctx'.function = ctx.function.renumber ρ)
    (overloads : ∀ head ∈ Node.headsAll forms,
      ctx'.registry.entries.lookup head = (ctx.registry.entries.lookup head).map (List.map (Function.renumber ρ))) :
    Body.compile ctx' forms = (Body.compile ctx forms).map (Body.renumber ρ) := by
  have same : ∀ head ∈ Node.headsAll forms,
      ctx'.registry.entries.lookup head = (ctx.registry.renumber ρ).entries.lookup head := by
    intro head inside
    rw [overloads head inside]
    exact (Registry.lookup_entries_mapFunctions ctx.registry head).symm
  have other : ctx' = { ctx.renumber ρ with registry := ctx'.registry } := by
    obtain ⟨registry, _, _⟩ := ctx'
    dsimp only at name function
    rw [name, function]
    rfl
  calc Body.compile ctx' forms
      = Body.compile { ctx.renumber ρ with registry := ctx'.registry } forms := by rw [← other]
    _ = Body.compile (ctx.renumber ρ) forms := compile_congr forms same
    _ = (Body.compile ctx forms).map (Body.renumber ρ) := compile_renumber ctx forms

/-- The same function is called in a unit where others are registered, one under the name of a built-in form. -/
theorem compile_depends_on_heads_elsewhere :
    let compile (u : CompilationUnit) (code : String) := (u.compileSource (none : Option Store) "" code).unit
    let u := compile (.new "0") "(def g (fn extern int ()))"
    let v := compile (compile (.new "1") "(def a (fn intern int () (b))) (def do (fn extern int ()))")
      "(def g (fn extern int ()))"
    let f : Function := { returnType := .int32, params := [], internalName := .ofString "f", symbol := some 1 }
    let forms := (Node.read "" "(return (g))").nodes
    v.reports.length = 1 ∧ v.registry.names = ["do", "g"] ∧
      (∀ head ∈ Node.headsAll forms,
        v.registry.entries.lookup head = (u.registry.entries.lookup head).map (List.map (Function.renumber (· + 1)))) ∧
      (Body.compile ⟨u.registry, "f", f⟩ forms).toOption.isSome = true ∧
      Body.compile ⟨v.registry, "f", f.renumber (· + 1)⟩ forms =
        (Body.compile ⟨u.registry, "f", f⟩ forms).map (Body.renumber (· + 1)) := by
  intro compile u v f forms
  have facts : v.reports.length = 1 ∧ v.registry.names = ["do", "g"] ∧
      (Node.headsAll forms).all (fun head => v.registry.entries.lookup head =
        (u.registry.entries.lookup head).map (List.map (Function.renumber (· + 1)))) = true ∧
      (Body.compile ⟨u.registry, "f", f⟩ forms).toOption.isSome = true := by decide +kernel
  obtain ⟨reports, names, overloads, compiled⟩ := facts
  have overloads := fun head inside => of_decide_eq_true (List.all_eq_true.mp overloads head inside)
  exact ⟨reports, names, overloads, compiled, compile_depends_on_heads (· + 1) forms rfl rfl overloads⟩

end Body

end FormCompiler
