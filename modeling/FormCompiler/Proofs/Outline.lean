import FormCompiler.Proofs.Typing
import FormCompiler.Unit.Basic

namespace FormCompiler

open Build (Meets)
open IR (Block Term Value Layout)

namespace IR

def Term.outline : Term → Term
  | .ret _ => .ret none
  | t => t

def Block.outline (k : Block) : Block := { k with insts := #[], term := k.term.map Term.outline }

theorem Term.outline_getD (term : Option Term) (t : Term) :
    (term.getD t).outline = (term.map outline).getD t.outline := by
  cases term <;> rfl

end IR

section Modify

variable {α β : Type} {g : α → β} {change : α → α}

theorem map_modify {change' : β → β} (h : ∀ a, g (change a) = change' (g a)) (xs : Array α) (k : Nat) :
    (xs.modify k change).map g = (xs.map g).modify k change' := by
  apply Array.ext_getElem?
  intro j
  simp only [Array.getElem?_map, Array.getElem?_modify]
  split
  · cases xs[j]? with
    | none => rfl
    | some a => exact congrArg some (h a)
  · rfl

theorem map_modify_of_same (h : ∀ a, g (change a) = g a) (xs : Array α) (k : Nat) :
    (xs.modify k change).map g = xs.map g := by
  have kept : (xs.modify k change).map g = (xs.map g).modify k id := map_modify h xs k
  rw [kept]
  apply Array.ext_getElem?
  intro j
  rw [Array.getElem?_modify, Option.map_id, id, ite_self]

end Modify

theorem lookup_map_values {α β : Type} (f : String → α → β) (name : String) (entries : List (String × α)) :
    (entries.map fun x => (x.1, f x.1 x.2)).lookup name = (entries.lookup name).map (f name) := by
  induction entries with
  | nil => rfl
  | cons x entries ih =>
    obtain ⟨key, a⟩ := x
    simp only [List.map_cons, List.lookup_cons, ih]
    cases here : name == key with
    | false => rfl
    | true => rw [eq_of_beq here]; rfl

namespace Registry

def mapFunctions (g : Function → Function) (r : Registry) : Registry := ⟨r.entries.map fun e => (e.1, e.2.map g)⟩

variable {g : Function → Function}

theorem lookup_entries_mapFunctions (r : Registry) (name : String) :
    (r.mapFunctions g).entries.lookup name = (r.entries.lookup name).map (List.map g) :=
  lookup_map_values (fun _ (fs : List Function) => fs.map g) name r.entries

theorem overloads_mapFunctions (r : Registry) (name : String) :
    (r.mapFunctions g).overloads name = (r.overloads name).map g := by
  rw [overloads, lookup_entries_mapFunctions, overloads]
  cases r.entries.lookup name <;> rfl

theorem lookup_mapFunctions (r : Registry) (name : String) (types : List Ty)
    (accepts : ∀ f, (g f).accepts types = f.accepts types) (variadic : ∀ f, (g f).isVariadic = f.isVariadic) :
    (r.mapFunctions g).lookup name types = (r.lookup name types).map g := by
  have fitting : ((r.mapFunctions g).overloads name).filter (·.accepts types) =
      ((r.overloads name).filter (·.accepts types)).map g := by
    have same : (fun f : Function => f.accepts types) ∘ g = fun f => f.accepts types := funext accepts
    rw [overloads_mapFunctions, List.filter_map, same]
  have fixed : (fun f : Function => !f.isVariadic) ∘ g = fun f => !f.isVariadic :=
    funext fun f => congrArg not (variadic f)
  simp only [lookup, fitting, List.find?_map, List.head?_map, fixed]
  cases List.find? (fun f => !f.isVariadic) ((r.overloads name).filter (·.accepts types)) <;> rfl

end Registry

namespace Environment

variable {α β : Type}

def map (f : α → β) (e : Environment α) : Environment β :=
  ⟨e.scopes.map fun s => ⟨s.entries.map fun x => (x.1, f x.2)⟩⟩

theorem find?_map (f : α → β) (e : Environment α) (name : String) : (e.map f).find? name = (e.find? name).map f := by
  obtain ⟨scopes⟩ := e
  simp only [find?, map]
  induction scopes with
  | nil => rfl
  | cons s outer ih =>
    simp only [List.map_cons, List.findSome?_cons, ih]
    have here : Scope.find? ⟨s.entries.map fun x => (x.1, f x.2)⟩ name = (s.find? name).map f :=
      lookup_map_values (fun _ => f) name s.entries
    rw [here]
    cases s.find? name <;> rfl

theorem map_add (f : α → β) (e : Environment α) (name : String) (a : α) :
    (e.add name a).map f = (e.map f).add name (f a) := by
  obtain ⟨scopes⟩ := e
  cases scopes with
  | nil => rfl
  | cons s outer => simp [add, map, Scope.add, List.filter_map, Function.comp_def]

theorem map_backTo (f : α → β) (e : Environment α) (depth : Nat) : (e.backTo depth).map f = (e.map f).backTo depth := by
  simp [backTo, map, Environment.depth, List.map_drop]

end Environment

def Local.outline (v : Local) : Local := { v with storage := .const 0 0 }

namespace Body

def outline (b : Body) : Body :=
  { b with blocks := b.blocks.map Block.outline, env := b.env.map Local.outline }

variable (b : Body)

theorem outline_append (k : Nat) (i : IR.Inst) : (b.append k i).outline = b.outline := by
  have blocks : (b.append k i).blocks.map Block.outline = b.blocks.map Block.outline := by
    dsimp only [append]
    apply map_modify_of_same
    intro block
    rfl
  simp only [outline, blocks]
  rfl

theorem outline_terminate (k : Nat) (t : Term) : (b.terminate k t).outline = b.outline.terminate k t.outline := by
  have blocks : (b.terminate k t).blocks.map Block.outline = (b.outline.terminate k t.outline).blocks := by
    dsimp only [terminate, outline]
    apply map_modify
    intro block
    rfl
  simp only [outline, blocks]
  rfl

theorem outline_addBlock (name : String) : (b.addBlock name).outline = b.outline.addBlock name := by
  simp [addBlock, outline, Block.outline]

theorem outline_startBlock (name : String) : (b.startBlock name).outline = b.outline.startBlock name := by
  simp [startBlock, addBlock, outline, Block.outline]

theorem isOpen_outline (k : Nat) : b.outline.isOpen k = b.isOpen k := by
  simp only [isOpen, outline, Array.getElem?_map]
  cases b.blocks[k]? with
  | none => rfl
  | some block => simp [Block.outline]

theorem outline_fallInto (target : Nat) : (b.fallInto target).outline = b.outline.fallInto target := by
  unfold fallInto
  rw [show b.outline.current = b.current from rfl, isOpen_outline]
  split
  · exact outline_terminate b b.current (.br target)
  · rfl

theorem outline_startLabel (name : String) : (b.startLabel name).outline = b.outline.startLabel name := by
  have fallen := outline_fallInto (b.addBlock ("label." ++ name)) b.blocks.size
  rw [outline_addBlock] at fallen
  have size : b.outline.blocks.size = b.blocks.size := by simp [outline]
  simp only [startLabel, size, ← fallen]
  rfl

theorem outline_resolveGoto (g : PendingGoto) : (b.resolveGoto g).outline = b.outline.resolveGoto g := by
  unfold resolveGoto
  rw [show b.outline.label? g.label = b.label? g.label from rfl]
  split
  · exact outline_terminate b _ _
  · rfl

theorem outline_resolveGotos : b.resolveGotos.outline = b.outline.resolveGotos := by
  have each (gs : List PendingGoto) (b : Body) : (gs.foldl resolveGoto b).outline = gs.foldl resolveGoto b.outline := by
    induction gs generalizing b with
    | nil => rfl
    | cons g gs ih => rw [List.foldl_cons, List.foldl_cons, ih, outline_resolveGoto]
  have all := each b.gotos b
  rw [resolveGotos, resolveGotos, show b.outline.gotos = b.gotos from rfl, ← all]
  rfl

theorem outline_close (t : Term) : (b.close t).outline = b.outline.close t.outline := by
  simp only [close, outline, Array.map_map]
  have each : Block.outline ∘ (fun k => { k with term := some (k.term.getD t) }) =
      (fun k => { k with term := some (k.term.getD t.outline) }) ∘ Block.outline := by
    funext k
    simp only [Function.comp_apply, Block.outline, Option.map_some, Term.outline_getD]
  rw [each]

theorem outline_leaveTo (depth : Nat) : (b.leaveTo depth).outline = b.outline.leaveTo depth := by
  simp only [leaveTo, outline, Environment.map_backTo]

theorem outline_bindName (name : String) (v : Local) :
    outline { b with env := b.env.add name v } = { b.outline with env := b.outline.env.add name v.outline } := by
  simp only [outline, Environment.map_add]

end Body

structure Body.Matches (b c : Body) : Prop where
  left : b.Sound
  right : c.Sound
  outline : b.outline = c.outline

structure Result.Matches (r s : Result) : Prop where
  left : r.Sound
  right : s.Sound
  block : r.block = s.block
  type : r.type = s.type

structure Fault.Matches (f g : Fault) : Prop where
  left : f.Proper
  right : g.Proper
  ids : f.reports.map (·.id) = g.reports.map (·.id)

theorem Fault.matches_complaint {c d : Complaint} (same : c.topic = d.topic) (token token' : Option Token) :
    (Fault.complaint c token).Matches (Fault.complaint d token') :=
  ⟨complaint_proper c token, complaint_proper d token', congrArg (fun t => [Report.Topic.id t]) same⟩

theorem Fault.Proper.matches_self {f : Fault} (proper : f.Proper) : f.Matches f := ⟨proper, proper, rfl⟩

namespace Body.Matches

variable {b c : Body} (h : b.Matches c)

include h

theorem current : b.current = c.current := by
  show b.outline.current = c.outline.current
  rw [h.outline]

theorem label? (name : String) : b.label? name = c.label? name := by
  show b.outline.label? name = c.outline.label? name
  rw [h.outline]

theorem depth : b.env.depth = c.env.depth := by
  have mapped : b.outline.env.depth = c.outline.env.depth := congrArg (fun o => o.env.depth) h.outline
  simpa [Body.outline, Environment.map, Environment.depth] using mapped

theorem void : (Result.void b.current).Matches (Result.void c.current) :=
  ⟨Result.sound_void _, Result.sound_void _, congrArg some h.current, rfl⟩

theorem ofValue {type : Ty} {v w : Value} (hv : type.layout = .ok v.layout) (hw : type.layout = .ok w.layout) :
    (Result.ofValue b.current type v).Matches (Result.ofValue c.current type w) :=
  ⟨Result.sound_ofValue hv _, Result.sound_ofValue hw _, congrArg some h.current, rfl⟩

theorem stored {type : Ty} {v w a a' : Value} {l : Layout} (laid : type.layout = .ok l) (hv : v.layout = l)
    (hw : w.layout = l) (ha : a.layout = .pointer l) (ha' : a'.layout = .pointer l) :
    Result.Matches { Result.ofValue b.current type v with address := some a, lvalue := true }
      { Result.ofValue c.current type w with address := some a', lvalue := true } :=
  ⟨Result.sound_stored laid hv ha _, Result.sound_stored laid hw ha' _, congrArg some h.current, rfl⟩

theorem bindName {name : String} {v w : Local} (hv : v.Sound) (hw : w.Sound) (type : v.type = w.type) :
    Body.Matches { b with env := b.env.add name v } { c with env := c.env.add name w } := by
  refine ⟨h.left.add hv, h.right.add hw, ?_⟩
  have same : v.outline = w.outline := by simp only [Local.outline, type]
  rw [outline_bindName, outline_bindName, h.outline, same]

theorem enter : Body.Matches { b with env := b.env.enter } { c with env := c.env.enter } :=
  ⟨h.left.enter, h.right.enter, congrArg (fun o : Body => { o with env := o.env.enter }) h.outline⟩

theorem leaveTo (depth : Nat) : (b.leaveTo depth).Matches (c.leaveTo depth) := by
  refine ⟨h.left.backTo depth, h.right.backTo depth, ?_⟩
  rw [outline_leaveTo, outline_leaveTo, h.outline]

theorem find? (name : String) :
    b.env.find? name = none ∧ c.env.find? name = none ∨
      ∃ v w, b.env.find? name = some v ∧ c.env.find? name = some w ∧ v.type = w.type := by
  have same : (b.env.find? name).map Local.outline = (c.env.find? name).map Local.outline := by
    rw [← Environment.find?_map, ← Environment.find?_map]
    exact congrArg (fun o => o.env.find? name) h.outline
  cases first : b.env.find? name with
  | none =>
    rw [first] at same
    exact .inl ⟨rfl, Option.map_eq_none_iff.mp same.symm⟩
  | some v =>
    rw [first] at same
    obtain ⟨w, second, eq⟩ := Option.map_eq_some_iff.mp same.symm
    have type : v.outline.type = w.outline.type := by rw [eq]
    exact .inr ⟨v, w, rfl, second, type⟩

end Body.Matches

namespace Build

/-- Two steps, each from a body of its own, that both succeed or both fail, and then with reports on the same
topics. -/
def Abreast {α β : Type} (b c : Body) (x : Build α) (y : Build β) (done : α → Body → β → Body → Prop) : Prop :=
  match x b, y c with
  | .ok a d, .ok a' e => done a d a' e
  | .error f _, .error g _ => f.Matches g
  | _, _ => False

def Keeps {α : Type} (x : Build α) : Prop :=
  ∀ b, Meets b x (fun _ c => c.outline = b.outline) fun _ c => c.outline = b.outline

variable {α α' β β' : Type} {b c : Body} {x : Build α} {y : Build α'} {done done' : α → Body → α' → Body → Prop}

namespace Abreast

theorem of_ok {a : α} {a' : α'} {d e : Body} (run : x b = .ok a d) (run' : y c = .ok a' e) (h : done a d a' e) :
    Abreast b c x y done := by
  simpa only [Abreast, run, run'] using h

theorem of_error {f g : Fault} {d e : Body} (run : x b = .error f d) (run' : y c = .error g e) (h : f.Matches g) :
    Abreast b c x y done := by
  simpa only [Abreast, run, run'] using h

theorem ends (h : Abreast b c x y done) :
    (∃ a d a' e, x b = .ok a d ∧ y c = .ok a' e ∧ done a d a' e) ∨
      ∃ f d g e, x b = .error f d ∧ y c = .error g e ∧ f.Matches g := by
  unfold Abreast at h
  split at h
  · rename_i a d a' e run run'
    exact .inl ⟨a, d, a', e, run, run', h⟩
  · rename_i f d g e run run'
    exact .inr ⟨f, d, g, e, run, run', h⟩
  · exact h.elim

theorem mono (h : Abreast b c x y done) (hd : ∀ a d a' e, done a d a' e → done' a d a' e) :
    Abreast b c x y done' := by
  rcases h.ends with ⟨a, d, a', e, run, run', here⟩ | ⟨f, d, g, e, run, run', faults⟩
  · exact of_ok run run' (hd _ _ _ _ here)
  · exact of_error run run' faults

theorem pure {a : α} {a' : α'} (h : done a b a' c) : Abreast b c (Pure.pure a) (Pure.pure a') done := h

theorem complain {k l : Complaint} (same : k.topic = l.topic) (token token' : Token) :
    Abreast b c (Build.complain k token : Build α) (Build.complain l token' : Build α') done :=
  Fault.matches_complaint same (some token) (some token')

section Bind

variable {f : α → Build β} {g : α' → Build β'} {done : β → Body → β' → Body → Prop}

theorem bind {middle : α → Body → α' → Body → Prop} (h : Abreast b c x y middle)
    (rest : ∀ a d a' e, middle a d a' e → Abreast d e (f a) (g a') done) :
    Abreast b c (x >>= f) (y >>= g) done := by
  rcases h.ends with ⟨a, d, a', e, run, run', here⟩ | ⟨f, d, g, e, run, run', faults⟩
  · have next := rest a d a' e here
    simpa only [Abreast, bind_of_ok run, bind_of_ok run'] using next
  · exact of_error (bind_of_error run) (bind_of_error run') faults

theorem pure_bind {a : α} {a' : α'} (h : Abreast b c (f a) (g a') done) :
    Abreast b c (Pure.pure a >>= f) (Pure.pure a' >>= g) done := h

theorem complain_bind {k l : Complaint} (same : k.topic = l.topic) (token token' : Token) :
    Abreast b c (Build.complain k token >>= f) (Build.complain l token' >>= g) done :=
  Fault.matches_complaint same (some token) (some token')

theorem get_bind {f : Body → Build β} {g : Body → Build β'} (h : Abreast b c (f b) (g c) done) :
    Abreast b c (MonadState.get >>= f) (MonadState.get >>= g) done := h

theorem changed_bind {k l : Body → Body} {f : PUnit → Build β} {g : PUnit → Build β'}
    (h : Abreast (k b) (l c) (f ⟨⟩) (g ⟨⟩) done) :
    Abreast b c ((modify k : Build PUnit) >>= f) ((modify l : Build PUnit) >>= g) done := h

end Bind

theorem ite {p : Prop} [Decidable p] {x' : Build α} {y' : Build α'} (hx : p → Abreast b c x y done)
    (hy : ¬p → Abreast b c x' y' done) : Abreast b c (if p then x else x') (if p then y else y') done := by
  split
  · exact hx ‹_›
  · exact hy ‹_›

theorem inScope (same : b.env.depth = c.env.depth)
    (h : Abreast { b with env := b.env.enter } { c with env := c.env.enter } x y fun a d a' e =>
      done a (d.leaveTo b.env.depth) a' (e.leaveTo b.env.depth)) :
    Abreast b c (Build.inScope x) (Build.inScope y) done := by
  unfold Abreast Build.inScope
  rcases h.ends with ⟨a, d, a', e, run, run', here⟩ | ⟨f, d, g, e, run, run', faults⟩
  · simpa only [run, run', ← same] using here
  · simpa only [run, run'] using faults

section Quiet

variable {P : α → Body → Prop} {Q : α' → Body → Prop}

theorem quiet (h : b.Matches c) (hx : Meets b x (fun a d => d.Sound ∧ P a d) fun _ _ => False)
    (hy : Meets c y (fun a e => e.Sound ∧ Q a e) fun _ _ => False) (kx : Keeps x) (ky : Keeps y) :
    Abreast b c x y fun a d a' e => d.Matches e ∧ P a d ∧ Q a' e := by
  cases run : x b with
  | error f d => exact (hx.error run).elim
  | ok a d =>
    cases run' : y c with
    | error g e => exact (hy.error run').elim
    | ok a' e =>
      obtain ⟨left, p⟩ := hx.ok run
      obtain ⟨right, q⟩ := hy.ok run'
      have outline : d.outline = e.outline := by rw [(kx b).ok run, (ky c).ok run', h.outline]
      exact of_ok run run' ⟨⟨left, right, outline⟩, p, q⟩

theorem quiet_bind {f : α → Build β} {g : α' → Build β'} {done : β → Body → β' → Body → Prop} (h : b.Matches c)
    (hx : Meets b x (fun a d => d.Sound ∧ P a d) fun _ _ => False)
    (hy : Meets c y (fun a e => e.Sound ∧ Q a e) fun _ _ => False) (kx : Keeps x) (ky : Keeps y)
    (rest : ∀ a d a' e, d.Matches e → P a d → Q a' e → Abreast d e (f a) (g a') done) :
    Abreast b c (x >>= f) (y >>= g) done := by
  refine .bind (quiet h hx hy kx ky) ?_
  rintro a d a' e ⟨h, p, q⟩
  exact rest a d a' e h p q

end Quiet

end Abreast

namespace Keeps

theorem pure (a : α) : Keeps (Pure.pure a : Build α) := fun _ => .pure rfl

theorem throw (f : Fault) : Keeps (MonadExcept.throw f : Build α) := fun _ => .throw rfl

theorem breakDown (d : Breakdown) : Keeps (Build.breakDown d : Build α) := fun _ => .breakDown rfl

theorem bind {f : α → Build β} (h : Keeps x) (hf : ∀ a, Keeps (f a)) : Keeps (x >>= f) := by
  intro b
  refine .bind (h b) fun a c same => ?_
  exact .mono (hf a c) (fun _ _ next => next.trans same) fun _ _ next => next.trans same

theorem get_bind {f : Body → Build β} (h : ∀ b, Keeps (f b)) : Keeps (MonadState.get >>= f) := fun b =>
  .get_bind (h b b)

theorem ite {p : Prop} [Decidable p] {y : Build α} (hx : Keeps x) (hy : Keeps y) : Keeps (if p then x else y) := by
  split
  · exact hx
  · exact hy

theorem pinned (token : Option Token) (h : Keeps x) : Keeps (Build.pinned token x) := fun b => .pinned (h b)

end Keeps

theorem keeps_demand (a : Option α) : Keeps (Build.demand a) := by
  cases a with
  | some a => exact .pure a
  | none => exact .breakDown _

theorem keeps_layout (t : Ty) : Keeps (Build.layout t) := by
  unfold Build.layout
  split
  · exact .pure _
  · exact .breakDown _
  · exact .throw _

theorem keeps_known (t : Ty) : Keeps (Build.known t) := .ite (.breakDown _) (.pure t)

theorem keeps_emitAt (k : Nat) (i : IR.Inst) : Keeps (Build.emitAt k i) := fun b =>
  .get_bind (.changed_bind (.pure (b.outline_append k i)))

theorem keeps_emit (i : IR.Inst) : Keeps (Build.emit i) := .get_bind fun _ => keeps_emitAt _ i

theorem keeps_storeAt (k : Nat) (v target : Value) : Keeps (Build.storeAt k v target) :=
  .ite (.bind (keeps_emitAt k _) fun _ => .pure _) (.breakDown _)

theorem keeps_store (v target : Value) : Keeps (Build.store v target) := .get_bind fun _ => keeps_storeAt _ v target

end Build

open Build (Abreast Keeps)

namespace Result

theorem keeps_getValue (r : Result) : Keeps r.getValue := by
  unfold getValue
  split
  · split
    · exact .bind (Build.keeps_demand _) fun _ => Build.keeps_emitAt _ _
    · exact .breakDown _
    · exact .throw _
  · exact .pure _
  · exact .pure _
  · exact .throw _

theorem keeps_materialise (r : Result) : Keeps r.materialise := by
  unfold materialise
  split
  · exact .pure r
  · exact .bind (Build.keeps_layout _) fun _ => .bind (Build.keeps_demand _) fun _ =>
      .bind (Build.keeps_emitAt _ _) fun _ => .bind (keeps_getValue r) fun _ =>
        .bind (Build.keeps_storeAt _ _ _) fun _ => .pure _

theorem keeps_getAddress (r : Result) : Keeps r.getAddress := .bind (keeps_materialise r) fun _ => .pure _

end Result

theorem Pointer.keeps_widen (type : Ty) (v : Value) : Keeps (Pointer.widen type v) := by
  refine .ite (.pure v) (.ite (Build.keeps_emit _) ?_)
  split
  · exact .pure _
  · exact Build.keeps_emit _

theorem Pointer.keeps_base (r : Result) : Keeps (Pointer.base r) :=
  .bind (Build.keeps_known _) fun _ => .ite r.keeps_getValue <|
    .bind r.keeps_getAddress fun address => .bind (Build.keeps_layout _) fun _ =>
      .bind address.keeps_getValue fun _ => .bind (Build.keeps_demand _) fun _ => Build.keeps_emitAt _ _

theorem Control.keeps_returnValue (fn : Function) (v : Value) : Keeps (Control.returnValue fn v) :=
  .ite (.bind (Build.keeps_layout _) fun _ => .bind (Build.keeps_store _ _) fun _ => .pure _) (.pure _)

end FormCompiler
