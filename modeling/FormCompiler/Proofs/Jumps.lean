import FormCompiler.Proofs.Dispatch
import FormCompiler.Proofs.Reading
import FormCompiler.Proofs.References

namespace FormCompiler

open Build (Meets)
open IR (Inst Term Value)

variable {b : Body} {ctx : Context}

namespace Control

theorem meets_label (operand : Operand) (b : Body) :
    Meets b (compileLabel operand) (fun _ c => ∃ name, b.label? name = none ∧ c = b.startLabel name)
      fun _ c => c = b := by
  unfold compileLabel labelName
  cases operand.node.symbol? with
  | none => exact .complain_bind rfl
  | some name =>
    refine .pure_bind (.get_bind (.ite (fun _ => .complain_bind rfl) fun fresh => ?_))
    exact .of_ok rfl ⟨name, by simpa using fresh, rfl⟩

theorem meets_goto (operand : Operand) (b : Body) :
    Meets b (compileGoto operand) (fun _ c => ∃ name, operand.node.symbol? = some name ∧
      ((∃ t, b.label? name = some t ∧ c = (b.terminate b.current (.br t)).startBlock "") ∨
        b.label? name = none ∧ c = (b.addGoto ⟨name, b.current, some operand.node.token⟩).startBlock ""))
      fun _ c => c = b := by
  unfold compileGoto labelName
  cases operand.node.symbol? with
  | none => exact .complain_bind rfl
  | some name =>
    refine .pure_bind (.get_bind ?_)
    cases found : b.label? name with
    | some t => exact .of_ok rfl ⟨name, rfl, .inl ⟨t, found, rfl⟩⟩
    | none => exact .of_ok rfl ⟨name, rfl, .inr ⟨found, rfl⟩⟩

end Control

namespace Body

variable {o b c : Body} {L M : List PendingGoto}

/-- How a body comes about from another, and which gotos are on the way: each with the name of its label, the block
that it ends and the token of the label. -/
inductive Passes (o : Body) : List PendingGoto → Body → Prop
  | start : Passes o [] o
  | emit {L : List PendingGoto} {b : Body} (before : Passes o L b) (k : Nat) (i : Inst) : Passes o L (b.append k i)
  | scope {L : List PendingGoto} {b : Body} (before : Passes o L b) (e : Environment Local) :
    Passes o L { b with env := e }
  | ret {L : List PendingGoto} {b c : Body} {v : Option Value} {r : Result} (before : Passes o L b)
    (run : Control.finish (.ret v) b = .ok r c) : Passes o L c
  | label {L : List PendingGoto} {b c : Body} {operand : Operand} {r : Result} (before : Passes o L b)
    (run : Control.compileLabel operand b = .ok r c) : Passes o L c
  | goto {L : List PendingGoto} {b c : Body} {operand : Operand} {r : Result} {name : String} (before : Passes o L b)
    (named : operand.node.symbol? = some name) (run : Control.compileGoto operand b = .ok r c) :
    Passes o (L ++ [⟨name, b.current, some operand.node.token⟩]) c

theorem Passes.trans (h : o.Passes L b) (h' : b.Passes M c) : o.Passes (L ++ M) c := by
  induction h' with
  | start =>
    rw [List.append_nil]
    exact h
  | emit _ k i ih => exact .emit ih k i
  | scope _ e ih => exact .scope ih e
  | ret _ run ih => exact .ret ih run
  | label _ run ih => exact .label ih run
  | goto _ named run ih =>
    rw [← List.append_assoc]
    exact .goto ih named run

end Body

/-- The gotos that can be met between a body and another. Steps that meet none do not count. -/
@[ext]
structure Route where
  leads : Body → List PendingGoto → Body → Prop
  passes {b c : Body} {L : List PendingGoto} : leads b L c → b.Passes L c
  leads_of_quiet {b b' c c' : Body} {L : List PendingGoto} :
    b.Passes [] b' → leads b' L c' → c'.Passes [] c → leads b L c

namespace Route

theorem eq_of {m k : Route} (leads : ∀ b L c, m.leads b L c ↔ k.leads b L c) : m = k := by
  ext
  exact leads ..

def none : Route where
  leads b L c := L = [] ∧ b.Passes [] c
  passes h := h.1 ▸ h.2
  leads_of_quiet first h last := ⟨h.1, first.trans (h.2.trans last)⟩

def seq (m k : Route) : Route where
  leads b L c := ∃ M N d, m.leads b M d ∧ k.leads d N c ∧ L = M ++ N
  passes h := by
    obtain ⟨M, N, d, first, second, rfl⟩ := h
    exact (m.passes first).trans (k.passes second)
  leads_of_quiet first h last := by
    obtain ⟨M, N, d, hm, hk, rfl⟩ := h
    exact ⟨M, N, d, m.leads_of_quiet first hm .start, k.leads_of_quiet .start hk last, rfl⟩

def goto (n : Node) : Route where
  leads b L c := ∃ d e x r name, b.Passes [] d ∧ n.symbol? = some name ∧ Control.compileGoto ⟨n, x⟩ d = .ok r e ∧
    e.Passes [] c ∧ L = [⟨name, d.current, some n.token⟩]
  passes h := by
    obtain ⟨d, e, x, r, name, first, named, run, last, rfl⟩ := h
    have named : (Operand.mk n x).node.symbol? = some name := named
    exact (Body.Passes.goto first named run).trans last
  leads_of_quiet first h last := by
    obtain ⟨d, e, x, r, name, before, named, run, behind, rfl⟩ := h
    exact ⟨d, e, x, r, name, first.trans before, named, run, behind.trans last, rfl⟩

def choose (p : Body → Prop) (m k : Route) : Route where
  leads b L c := ∃ d, b.Passes [] d ∧ (¬p d ∧ m.leads d L c ∨ p d ∧ k.leads d L c)
  passes h := by
    obtain ⟨d, first, ⟨-, h⟩ | ⟨-, h⟩⟩ := h
    · exact first.trans (m.passes h)
    · exact first.trans (k.passes h)
  leads_of_quiet first h last := by
    obtain ⟨d, before, h⟩ := h
    refine ⟨d, first.trans before, ?_⟩
    exact h.imp (.imp_right fun h => m.leads_of_quiet .start h last)
      (.imp_right fun h => k.leads_of_quiet .start h last)

theorem none_seq (m : Route) : none.seq m = m := by
  refine eq_of fun b L c => ⟨?_, fun h => ⟨[], L, b, ⟨rfl, .start⟩, h, rfl⟩⟩
  rintro ⟨_, N, d, ⟨rfl, first⟩, h, rfl⟩
  exact m.leads_of_quiet first h .start

theorem seq_none (m : Route) : m.seq none = m := by
  refine eq_of fun b L c => ⟨?_, fun h => ⟨L, [], c, h, ⟨rfl, .start⟩, (List.append_nil L).symm⟩⟩
  rintro ⟨M, _, d, h, ⟨rfl, last⟩, rfl⟩
  rw [List.append_nil]
  exact m.leads_of_quiet .start h last

end Route

def Reckoning.routes : Reckoning Route where
  none := .none
  seq := .seq
  scope m := m
  declared _ _ m := m
  label _ := .none
  jump := .goto
  none_seq := Route.none_seq
  seq_none := Route.seq_none

/-- The route of a form, by its text and by the functions that are known: where its operands are compiled, theirs one
after another, and where it is the built-in form, one goto for each that jumps. Operands that were only tried do not
count. -/
def Node.route (ctx : Context) : Node → Route :=
  Reckoning.routes.node ctx (fun _ => .none) fun head ns =>
    .choose (Form.FallsBack ctx head.literal (Form.operands ctx ns))

def Node.routes (ctx : Context) (ns : List Node) : Route := Reckoning.routes.all (ns.map (Node.route ctx))

namespace Build

def Takes {α : Type} (m : Route) (x : Build α) : Prop :=
  ∀ b, Meets b x (fun _ c => ∃ L, m.leads b L c) fun _ _ => True

namespace Takes

variable {α β : Type} {x : Build α} {f : α → Build β} {m k : Route}

theorem quiet (h : ∀ b, Meets b x (fun _ c => b.Passes [] c) fun _ _ => True) : Takes .none x := fun b =>
  .mono (h b) (fun _ _ passes => ⟨[], rfl, passes⟩) fun _ _ h => h

theorem bind (h : Takes m x) (rest : ∀ a, Takes k (f a)) : Takes (m.seq k) (x >>= f) := by
  intro b
  refine .bind (h b) ?_
  rintro a c ⟨M, first⟩
  refine .mono (rest a c) ?_ fun _ _ h => h
  rintro _ d ⟨N, second⟩
  exact ⟨M ++ N, M, N, c, first, second, rfl⟩

theorem emitAt (k : Nat) (i : Inst) : Takes .none (Build.emitAt k i) :=
  .quiet fun _ => .get_bind (.changed_bind (.pure (.emit .start k i)))

theorem inScope (h : Takes m x) : Takes m (Build.inScope x) := by
  intro b
  cases run : x { b with env := b.env.enter } with
  | error f c => exact .of_error (by simp only [Build.inScope, run]; rfl) trivial
  | ok a c =>
    obtain ⟨L, leads⟩ := (h _).ok run
    have left : Build.inScope x b = .ok a (c.leaveTo b.env.depth) := by simp only [Build.inScope, run]
    exact .of_ok left ⟨L, m.leads_of_quiet (.scope .start _) leads (.scope .start _)⟩

theorem compileGoto (n : Node) (x : Demand → Build Result) : Takes (.goto n) (Control.compileGoto ⟨n, x⟩) := by
  intro b
  refine .mono (.self b _) (fun r c run => ?_) fun _ _ _ => trivial
  obtain ⟨name, named, -⟩ := (Control.meets_goto _ _).ok run
  exact ⟨_, b, c, x, r, name, .start, named, run, .start, rfl⟩

end Takes

end Build

open Build (Takes)

namespace Judgement

def takes (ctx : Context) : Judgement id Reckoning.routes where
  node := Node.route ctx
  holds m x _ := Takes m x
  pure _ := .quiet fun _ => .pure .start
  throw _ _ := .throw trivial
  bind h rest := h.bind rest
  get_bind h b := .get_bind (h b b)
  pinned _ h b := .pinned (h b)
  inScope h := h.inScope
  emitAt k i := .emitAt k i
  declared {x y m} name type l initial := by
    have emitted : Takes .none (Build.emit (.alloca l)) := fun b => .get_bind (Takes.emitAt b.current (.alloca l) b)
    have bound (f : Body → Environment Local) : Takes .none (modify fun b => { b with env := f b }) :=
      .quiet fun _ => .changed (.scope .start _)
    have all := emitted.bind fun v => (initial v).bind fun _ => bound fun b => b.env.add name ⟨type, v⟩
    rw [Route.seq_none, Route.none_seq] at all
    exact all
  ret _ := .quiet fun _ => .of_ok rfl (.ret .start rfl)
  label _ _ _ := .quiet fun b => .mono (.self b _) (fun _ _ run => .label .start run) fun _ _ _ => trivial
  goto n x _ := .compileGoto n x

theorem takes_allows (ctx : Context) : (takes ctx).Allows ctx (Form.compile (ctx.renumber id)) where
  list paren items demand := by rw [Form.compile, Form.operands_eq_map]
  atom token demand := (takes ctx).atom token demand
  called {x y} paren head ns calls named h := by
    show Takes (Node.route ctx _) x
    rw [Node.route, Reckoning.node, Reckoning.nodes_eq_map, Reckoning.headed, calls, named]
    exact h
  builtin {x y} paren head ns form calls named h := by
    show Takes (Node.route ctx _) x
    rw [Node.route, Reckoning.node, Reckoning.nodes_eq_map, Reckoning.headed, calls, named]
    exact h
  shared paren head ns demand form same each calls named := by
    subst same
    show Takes (Node.route ctx _) _
    rw [Node.route, Reckoning.node, Reckoning.nodes_eq_map, Reckoning.headed, calls, named,
      Form.compileShared_eq_apart]
    intro b
    rcases Form.sharedApart_cases ctx paren head demand form b _ with
      ⟨f, c, -, same⟩ | ⟨rs, callee, c, run, same⟩ | same
    · exact .of_error (same _ rfl) trivial
    · obtain ⟨called, same⟩ := same _ rfl
      have passed : Takes ((takes ctx).all ns) _ := (takes ctx).before each.compileAll fun rs =>
        each.emit paren head callee rs demand
      have done := passed b
      rw [Meets, Build.bind_of_ok run] at done
      rw [Meets, same]
      refine Meets.mono (x := Call.emit _ _ _ _) done (fun _ _ leads => ?_) fun _ _ h => h
      obtain ⟨L, leads⟩ := leads
      exact ⟨L, b, .start, .inl ⟨called, leads⟩⟩
    · obtain ⟨falls, same⟩ := same _ rfl
      have built : Takes ((takes ctx).form form ns) _ := each.compileBuiltin paren head ctx demand form
      rw [Meets, same]
      refine Meets.mono (built b) (fun _ _ leads => ?_) fun _ _ h => h
      obtain ⟨L, leads⟩ := leads
      exact ⟨L, b, .start, .inr ⟨falls, leads⟩⟩

end Judgement

/-- The labels of the gotos on a route are among those tokens, in their order. -/
def Route.Within (m : Route) (ts : List Token) : Prop :=
  ∀ b L c, m.leads b L c → (L.filterMap (·.token)).Sublist ts

namespace Route.Within

variable {m k : Route} {ts us : List Token}

theorem mono (h : m.Within ts) (more : ts.Sublist us) : m.Within us := fun b L c leads => (h b L c leads).trans more

theorem none (ts : List Token) : Route.none.Within ts := by
  rintro b L c ⟨rfl, -⟩
  exact List.nil_sublist ts

theorem seq (h : m.Within ts) (h' : k.Within us) : (m.seq k).Within (ts ++ us) := by
  rintro b _ c ⟨M, N, d, first, second, rfl⟩
  rw [List.filterMap_append]
  exact (h b M d first).append (h' d N c second)

theorem choose {p : Body → Prop} (h : m.Within ts) (h' : k.Within ts) : (Route.choose p m k).Within ts := by
  rintro b L c ⟨d, -, ⟨-, leads⟩ | ⟨-, leads⟩⟩
  · exact h d L c leads
  · exact h' d L c leads

theorem goto (n : Node) : (Route.goto n).Within n.flatten := by
  rintro b _ c ⟨d, e, x, r, name, -, named, -, -, rfl⟩
  cases n with
  | atom token => exact .refl [token]
  | list => simp [Node.symbol?] at named

section Nodes

variable {ns : List Node} (each : ∀ n ∈ ns, (n.route ctx).Within n.flatten)

include each

theorem routes : (Node.routes ctx ns).Within (Node.flattenAll ns) := by
  induction ns with
  | nil => exact none []
  | cons n ns ih =>
    obtain ⟨first, others⟩ := List.forall_mem_cons.mp each
    rw [Node.flattenAll]
    exact first.seq (ih others)

theorem form (form : Builtin) :
    (Reckoning.routes.form form ns (ns.map (Node.route ctx))).Within (Node.flattenAll ns) := by
  have declared (name type : Node) {m : Route} {ts : List Token} (h : m.Within ts) :
      (Reckoning.routes.declaration name type m).Within ts := by
    unfold Reckoning.declaration
    split
    · exact h
    · exact none ts
  have all := routes each
  cases form with
  | declare =>
    rcases ns with _ | ⟨name, _ | ⟨type, _ | ⟨n, _ | ⟨_, _⟩⟩⟩⟩
    · exact all
    · exact all
    · exact declared name type (none _)
    · have initial : (n.route ctx).Within (Node.flattenAll [name, type, n]) := by
        refine (each n (by simp)).mono ?_
        simp [Node.flattenAll, ← List.append_assoc]
      exact declared name type initial
    · exact all
  | label =>
    rcases ns with _ | ⟨n, _ | ⟨_, _⟩⟩
    · exact all
    · exact none _
    · exact all
  | jump =>
    rcases ns with _ | ⟨n, _ | ⟨_, _⟩⟩
    · exact all
    · rw [Node.flattenAll, Node.flattenAll, List.append_nil]
      exact goto n
    · exact all
  | _ => exact all

theorem list (paren head : Token) : (Node.route ctx (.list paren (.atom head :: ns))).Within
    (Node.flatten (.list paren (.atom head :: ns))) := by
  have inside : (Node.flattenAll ns).Sublist (Node.flatten (.list paren (.atom head :: ns))) := by
    rw [Node.flatten, Node.flattenAll]
    exact (List.sublist_append_right _ _).trans (.trans (.cons _ (.refl _)) (List.sublist_append_left _ _))
  refine mono ?_ inside
  rw [Node.route, Reckoning.node, Reckoning.nodes_eq_map, Reckoning.headed]
  split
  · exact choose (routes each) (form each _)
  · exact routes each
  · exact form each _
  · exact none _

end Nodes

mutual
theorem node (ctx : Context) : (n : Node) → (n.route ctx).Within n.flatten
  | .atom _ | .list _ [] | .list _ (.list _ _ :: _) => none _
  | .list paren (.atom head :: ns) => list (nodes ctx ns) paren head

theorem nodes (ctx : Context) : (ns : List Node) → ∀ n ∈ ns, (n.route ctx).Within n.flatten
  | [] => List.forall_mem_nil _
  | n :: ns => List.forall_mem_cons.mpr ⟨node ctx n, nodes ctx ns⟩
end

end Route.Within

namespace Body

theorem exists_leads {forms : List Node} (filled : fill ctx (Form.operands ctx forms) {} = .ok () b) :
    ∃ L, (Node.routes ctx forms).leads entry L b := by
  have each := Judgement.operands (Judgement.takes_allows ctx) forms
  have all : Takes (Node.routes ctx forms) (enterParams 0 ctx.function.params >>= fun _ =>
      Operand.compileSequence (Form.operands ctx forms) >>= fun _ => pure ()) :=
    (Judgement.takes ctx).after ((Judgement.takes ctx).enterParams (fun _ _ => rfl) 0 ctx.function.params) fun _ =>
      (Judgement.takes ctx).before each.compileSequence fun _ => (Judgement.takes ctx).pure ()
  exact (all entry).ok filled

def Leads (b : Body) (g : PendingGoto) : Prop :=
  ∃ t, b.label? g.label = some t ∧ b.term? g.block = some (.br t)

def misses (b : Body) (g : PendingGoto) : Bool := (b.label? g.label).isNone

structure Knows (b : Body) (L : List PendingGoto) : Prop where
  flow : b.Flow
  past : ∀ g ∈ L, g.block < b.blocks.size ∧ g.block ≠ b.current
  held : ∀ g ∈ L, g ∈ b.gotos ∨ b.Leads g
  missing : L.filter b.misses = b.unresolved

namespace Knows

variable {b c : Body} {L : List PendingGoto}

theorem emit (h : b.Knows L) (k : Nat) (i : Inst) : (b.append k i).Knows L := by
  refine ⟨h.flow.stay (size_append _ _ _) (term?_append _ _ · _) (name?_append _ _ · _) rfl rfl rfl, ?_, ?_, h.missing⟩
  · rw [size_append]
    exact h.past
  · simp only [Leads, term?_append]
    exact h.held

theorem scope (h : b.Knows L) (e : Environment Local) : Knows { b with env := e } L :=
  ⟨h.flow.stay rfl (fun _ => rfl) (fun _ => rfl) rfl rfl rfl, h.past, h.held, h.missing⟩

theorem movesOn (h : b.Knows L) (moves : b.MovesOn c)
    (labels : ∀ name t, b.label? name = some t → c.label? name = some t)
    (gotos : ∀ g ∈ b.gotos, g ∈ c.gotos) :
    (∀ g ∈ L, g.block < c.blocks.size ∧ g.block ≠ c.current) ∧ ∀ g ∈ L, g ∈ c.gotos ∨ c.Leads g := by
  refine ⟨fun g inside => ?_, fun g inside => ?_⟩
  · have old := (h.past g inside).1
    rw [moves.size, moves.current]
    omega
  · rcases h.held g inside with waits | ⟨t, found, ends⟩
    · exact .inl (gotos g waits)
    · exact .inr ⟨t, labels _ _ found, by rw [moves.terms _ (h.past g inside).2, ends]⟩

theorem ret (h : b.Knows L) (v : Option Value) : ((b.terminate b.current (.ret v)).startBlock "").Knows L := by
  obtain ⟨past, held⟩ := h.movesOn (h.flow.movesOn_finish (.ret v)) (fun _ _ found => found) fun _ waits => waits
  exact ⟨h.flow.finish trivial, past, held, h.missing⟩

theorem label (h : b.Knows L) {name : String} (fresh : b.label? name = none) : (b.startLabel name).Knows L := by
  have labels : (b.startLabel name).labels = (name, b.blocks.size) :: b.labels := by rw [h.flow.startLabel_eq fresh]
  have gotos : (b.startLabel name).gotos = b.gotos := by rw [h.flow.startLabel_eq fresh]; rfl
  have kept (other : String) (t : Nat) (found : b.label? other = some t) :
    (b.startLabel name).label? other = some t := by
    have apart : (other == name) = false := by
      refine beq_false_of_ne ?_
      rintro rfl
      rw [fresh] at found
      cases found
    rw [label?, labels, List.lookup_cons, apart]
    exact found
  -- A label that has come up before has done so still, so no more gotos miss theirs.
  have fewer (g : PendingGoto) : (b.startLabel name).misses g = ((b.startLabel name).misses g && b.misses g) := by
    cases before : b.label? g.label with
    | none => simp [misses, before]
    | some t => simp [misses, before, kept _ _ before]
  have filtered (gs : List PendingGoto) : gs.filter (b.startLabel name).misses =
      (gs.filter b.misses).filter (b.startLabel name).misses := by
    rw [List.filter_filter]
    exact List.filter_congr fun g _ => fewer g
  obtain ⟨past, held⟩ := h.movesOn (h.flow.movesOn_label fresh) kept fun _ waits => gotos ▸ waits
  refine ⟨h.flow.startLabel fresh, past, held, ?_⟩
  calc L.filter (b.startLabel name).misses
      = (b.gotos.filter b.misses).filter (b.startLabel name).misses := by
        rw [filtered, h.missing]
        rfl
    _ = (b.startLabel name).unresolved := by
        rw [← filtered, ← gotos]
        rfl

theorem push (h : b.Knows L) (flow : c.Flow) (moves : b.MovesOn c) (labels : c.labels = b.labels)
    (gotos : ∀ g ∈ b.gotos, g ∈ c.gotos) {g : PendingGoto} (here : g.block = b.current) (held : g ∈ c.gotos ∨ c.Leads g)
    (missing : c.unresolved = b.unresolved ++ [g].filter b.misses) : c.Knows (L ++ [g]) := by
  have label (name : String) : c.label? name = b.label? name := by rw [label?, labels, label?]
  have misses : c.misses = b.misses := funext fun g => by rw [Body.misses, label, Body.misses]
  obtain ⟨past, old⟩ := h.movesOn moves (fun name _ found => (label name).trans found) gotos
  refine ⟨flow, List.forall_mem_append.mpr ⟨past, List.forall_mem_singleton.mpr ?_⟩,
    List.forall_mem_append.mpr ⟨old, List.forall_mem_singleton.mpr held⟩, ?_⟩
  · have inside := h.flow.current.1
    rw [here, moves.size, moves.current]
    omega
  · rw [misses, List.filter_append, h.missing, missing]

theorem goto (h : b.Knows L) {operand : Operand} {name : String} {r : Result} (named : operand.node.symbol? = some name)
    (run : Control.compileGoto operand b = .ok r c) : c.Knows (L ++ [⟨name, b.current, some operand.node.token⟩]) := by
  obtain ⟨other, named', ends⟩ := (Control.meets_goto _ _).ok run
  obtain rfl : name = other := Option.some.inj (named.symm.trans named')
  rcases ends with ⟨t, found, rfl⟩ | ⟨fresh, rfl⟩
  · have jumped : ((b.terminate b.current (.br t)).startBlock "").term? b.current = some (.br t) := by
      rw [term?_startBlock, term?_terminate h.flow.current.1, if_pos rfl]
    have can : b.CanEnd (.br t) := ⟨name, found⟩
    refine h.push (h.flow.finish can) (h.flow.movesOn_finish _) rfl (fun _ waits => waits) rfl
      (.inr ⟨t, found, jumped⟩) ?_
    rw [List.filter_cons_of_neg (by simp [misses, found]), List.filter_nil, List.append_nil]
    rfl
  · refine h.push (h.flow.wait rfl) (b.movesOn_wait _) rfl (fun _ waits => List.mem_append_left _ waits) rfl
      (.inl (List.mem_append_right _ (List.mem_singleton_self _))) ?_
    exact List.filter_append _ _

end Knows

theorem Passes.knows {L : List PendingGoto} (h : entry.Passes L b) : b.Knows L := by
  induction h with
  | start => exact ⟨flow_entry, by simp, by simp, rfl⟩
  | emit _ k i ih => exact ih.emit k i
  | scope _ e ih => exact ih.scope e
  | @ret _ b c v r _ run ih =>
    cases run
    exact ih.ret v
  | label _ run ih =>
    obtain ⟨name, fresh, rfl⟩ := (Control.meets_label _ _).ok run
    exact ih.label fresh
  | goto _ named run ih => exact ih.goto named run

theorem leads_foldl {gs : List PendingGoto} (met : ∀ g ∈ gs, (b.label? g.label).isSome)
    (inside : ∀ g ∈ gs, g.block < b.blocks.size) (once : (gs.map (·.block)).Nodup) :
    ∀ g ∈ gs, (gs.foldl resolveGoto b).Leads g := by
  induction gs generalizing b with
  | nil => simp
  | cons g gs ih =>
    obtain ⟨apart, once⟩ := List.nodup_cons.mp once
    obtain ⟨met, others⟩ := List.forall_mem_cons.mp met
    obtain ⟨here, inside⟩ := List.forall_mem_cons.mp inside
    obtain ⟨t, found⟩ := Option.isSome_iff_exists.mp met
    have first := jumped_resolveGoto met here
    have others : ∀ h ∈ gs, ((b.resolveGoto g).label? h.label).isSome := by
      simpa only [label?, first.labels] using others
    rw [← first.size] at inside
    have rest := jumped_foldl others inside
    refine List.forall_mem_cons.mpr ⟨⟨t, ?_, ?_⟩, ih others inside once⟩
    · rw [label?, List.foldl_cons, rest.labels, first.labels]
      exact found
    · rw [List.foldl_cons, rest.others _ fun h later same => apart (List.mem_map.mpr ⟨h, later, same⟩)]
      simp only [resolveGoto, found, term?_terminate here, if_pos]

theorem Knows.leads_finished {L : List PendingGoto} (h : b.Knows L) (met : b.unresolved = []) {t : Term}
    (plain : ∀ target, t ≠ .br target) {g : PendingGoto} (inside : g ∈ L) : (b.resolveGotos.close t).Leads g := by
  have jumped := h.flow.jumped met
  obtain ⟨old, other⟩ := h.past g inside
  rcases h.held g inside with waits | ⟨target, found, ends⟩
  · obtain ⟨target, found, ends⟩ := leads_foldl (fun g => label?_isSome met) (fun g waits => (h.flow.waiting g waits).1)
      h.flow.once g waits
    refine ⟨target, found, ?_⟩
    rw [h.flow.term?_finished met, if_neg other]
    exact ends
  · refine ⟨target, ?_, ?_⟩
    · rw [label?, show (b.resolveGotos.close t).labels = b.labels from jumped.labels]
      exact found
    · have ended : b.isOpen g.block = false := by
        rw [Bool.eq_false_iff, Ne, isOpen_iff, ends]
        exact Option.some_ne_none _
      rw [(h.flow.finishes met plain).kept _ old ended, ends]

theorem compile_of_filled {forms : List Node} (filled : fill ctx (Form.operands ctx forms) {} = .ok () b) :
    (b.unresolved = [] → compile ctx forms = .ok (b.resolveGotos.close (fallOff ctx.function.returnType))) ∧
    (b.unresolved ≠ [] → ∃ f, compile ctx forms = .error f ∧
      f.reports = b.unresolved.map fun g => (Complaint.gotoUndefined g.label ctx.name).report g.token) := by
  have built : build ctx forms {} = (settleGotos ctx.name >>= fun _ =>
      modify (·.close (fallOff ctx.function.returnType))) b := Build.bind_of_ok filled
  have settles := meets_settleGotos b ctx.name
  cases settled : settleGotos ctx.name b with
  | ok _ c =>
    obtain ⟨met, rfl⟩ := settles.ok settled
    rw [Build.bind_of_ok settled] at built
    exact ⟨fun _ => by rw [compile, built]; rfl, fun missing => (missing met).elim⟩
  | error f c =>
    obtain ⟨g, gs, waiting, rfl⟩ := settles.error settled
    rw [Build.bind_of_error settled] at built
    refine ⟨fun met => ?_, fun _ => ⟨_, by rw [compile, built], by rw [waiting]; rfl⟩⟩
    rw [waiting] at met
    cases met

end Body

namespace CompilationUnit

variable {σ : Type} [Storage σ] {u : CompilationUnit} {n : Node} {d : Definition} {p : Placed} {b : Body}

/-- The gotos of a body are those on the route of its text. If each has a label, each ends its block with a jump to it.
Otherwise there is a report for each that has none, in the order of the text. -/
theorem gotos_jump_or_reported (store : Option σ) (read : Definition.read n = .ok d)
    (placed : u.place d = .ok (some p)) (bodied : d.body.isEmpty = false)
    (filled : Body.fill (u.context d p) (Form.operands (u.context d p) d.body) {} = .ok () b) :
    (∃ L, (Node.routes (u.context d p) d.body).leads Body.entry L b ∧ Body.entry.Passes L b ∧
      (L.filterMap (·.token)).Sublist (Node.flattenAll d.body)) ∧
    ∀ L, Body.entry.Passes L b →
      (L.filter b.misses = [] → ∃ body : Body, Body.compile (u.context d p) d.body = .ok body ∧
        (u.define store d).module = install p.module { p.function with labels := body.labels.map (·.1) } body ∧
        ∀ g ∈ L, body.Leads g) ∧
      (L.filter b.misses ≠ [] → (u.compileForm store n).fault.isSome ∧ (u.compileForm store n).unit.reports =
        u.reports ++ (L.filter b.misses).map fun g => (Complaint.gotoUndefined g.label d.name).report g.token) := by
  obtain ⟨L, leads⟩ := Body.exists_leads filled
  have within := Route.Within.routes (Route.Within.nodes (u.context d p) d.body)
  refine ⟨⟨L, leads, Route.passes _ leads, within _ _ _ leads⟩, fun L passes => ?_⟩
  have knows := passes.knows
  obtain ⟨finished, failed⟩ := Body.compile_of_filled filled
  rw [knows.missing]
  refine ⟨fun met => ?_, fun missing => ?_⟩
  · have compiled := finished met
    refine ⟨_, compiled, ?_, fun g inside => knows.leads_finished met (Body.fallOff_ne_br _) inside⟩
    simp only [define, placed, bodied, compiled, Bool.false_eq_true, if_false]
  · obtain ⟨f, compiled, reports⟩ := failed missing
    have defined : u.define store d = ⟨retract p.module p.function, store, .error f⟩ := by
      simp only [define, placed, bodied, compiled, Bool.false_eq_true, if_false]
    simp only [compileForm, read, defined]
    exact ⟨rfl, congrArg (u.reports ++ ·) reports⟩

/-- One goto forward and one back that find their labels, and two that have none. -/
theorem gotos_jump_or_reported_missing :
    let jump (form label : String) : Node := .form [.word form, .word label]
    let forms := [.form [.word "do", jump "goto" "out", jump "label" "back"], jump "goto" "gone", jump "goto" "back",
      jump "label" "out", jump "core.goto" "lost"]
    let n : Node := .form [.word "def", .word "f",
      .form (.word "fn" :: .word "extern" :: .word "void" :: .form [] :: forms)]
    ∃ (d : Definition) (p : Placed) (b : Body) (L : List PendingGoto), Definition.read n = .ok d ∧
      (new "0").place d = .ok (some p) ∧ d.body.isEmpty = false ∧
      Body.fill ((new "0").context d p) (Form.operands ((new "0").context d p) d.body) {} = .ok () b ∧
      (Node.routes ((new "0").context d p) d.body).leads Body.entry L b ∧ Body.entry.Passes L b ∧
      (L.filter b.misses).map (·.label) = ["gone", "lost"] ∧
      ((new "0").compileForm (none : Option Store) n).unit.reports = (L.filter b.misses).map fun g =>
        (Complaint.gotoUndefined g.label d.name).report g.token := by
  intro jump forms n
  have facts : ((Definition.read n).toOption.any fun d => ((new "0").place d).toOption.any fun place =>
      place.any fun p => decide (d.body.isEmpty = false ∧ Meets {} (Body.fill ((new "0").context d p)
        (Form.operands ((new "0").context d p) d.body)) (fun _ b => b.unresolved.map (·.label) = ["gone", "lost"])
          fun _ _ => False)) = true := by
    decide +kernel
  obtain ⟨d, p, read, placed, bodied, filled⟩ := exists_placed facts
  obtain ⟨⟨⟩, b, run, labels⟩ := filled.exists_ok
  obtain ⟨⟨L, leads, passes, -⟩, all⟩ := gotos_jump_or_reported (none : Option Store) read placed bodied run
  rw [← passes.knows.missing] at labels
  have missing : L.filter b.misses ≠ [] := by
    intro none
    rw [none] at labels
    cases labels
  exact ⟨d, p, b, L, read, placed, bodied, run, leads, passes, labels, ((all L passes).2 missing).2⟩

end CompilationUnit

end FormCompiler
