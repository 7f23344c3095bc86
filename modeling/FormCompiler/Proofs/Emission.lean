import FormCompiler.Proofs.Signatures

namespace FormCompiler

open Build (Meets Agree)
open IR (Inst Layout Place Term Value)

variable {b c o : Body} {v : Value} {k : Nat} {r : Result} {i : Inst} {type t : Ty} {l : Layout} {s : Signature}
  {n : Int}

theorem Text.Numeral.Fits.mono {l : Nat} (h : Fits k n) (le : k ≤ l) : Fits l n := by
  have more : capacity (k - 1) ≤ capacity (l - 1) := Nat.pow_le_pow_right (by decide) (Nat.sub_le_sub_right le 1)
  unfold Fits at *
  omega

namespace Ty

theorem layout_of_isIntegral (h : t.isIntegral = true) :
    1 < t.constantBits ∧ t.constantBits ≤ 64 ∧ t.layout = .ok (.int t.constantBits) := by
  cases t with
  | missing | pointer | array => cases h
  | base b m =>
    cases b with
    | void | bool | variadic => cases h
    | _ => exact ⟨by decide +revert, by decide +revert, rfl⟩

theorem layout_ne_void : t.layout ≠ .ok .void := by
  intro laid
  cases t with
  | missing => cases laid
  | base b m => cases b <;> cases laid
  | pointer u m =>
    rcases layout_of_pointer laid with void | ⟨k, -, same⟩
    · obtain ⟨_, rfl⟩ := eq_of_isVoid void
      cases laid
    · cases same
  | array n u m =>
    rw [layout] at laid
    cases inner : u.layout with
    | error e => simp [inner, Except.map] at laid
    | ok k => simp [inner, Except.map] at laid

theorem eq_array_of_layout {m : Bool} (h : (array n t m).layout = .ok l) :
    ∃ size element, l = .array size element := by
  rw [layout] at h
  cases inner : t.layout with
  | error e => simp [inner, Except.map] at h
  | ok k =>
    simp only [inner, Except.map, Except.ok.injEq] at h
    exact ⟨_, k, h.symm⟩

end Ty

namespace Body

def inst? (b : Body) (p : Place) : Option Inst := b.blocks[p.block]?.bind fun K => K.insts[p.index]?

theorem inst?_append (inside : k < b.blocks.size) (i : Inst) (p : Place) :
    (b.append k i).inst? p = if p = b.nextPlace k then some i else b.inst? p := by
  obtain ⟨block, index⟩ := p
  simp only [inst?, nextPlace, blocks_append, Place.mk.injEq]
  by_cases here : k = block
  · subst here
    simp [Array.getElem?_eq_getElem inside, Array.getElem?_push]
  · simp [here, Ne.symm here]

@[simp] theorem inst?_terminate (b : Body) (k : Nat) (t : Term) (p : Place) :
    (b.terminate k t).inst? p = b.inst? p := by
  simp only [inst?, blocks_terminate]
  split
  · cases b.blocks[p.block]? <;> rfl
  · rfl

@[simp] theorem inst?_addBlock (b : Body) (name : String) (p : Place) : (b.addBlock name).inst? p = b.inst? p := by
  simp only [inst?, blocks_addBlock]
  split
  · rename_i new
    simp [new]
  · rfl

@[simp] theorem inst?_startBlock (b : Body) (name : String) (p : Place) : (b.startBlock name).inst? p = b.inst? p :=
  inst?_addBlock b name p

@[simp] theorem inst?_addGoto (b : Body) (g : PendingGoto) (p : Place) : (b.addGoto g).inst? p = b.inst? p := rfl

theorem inst?_fallInto (b : Body) (target : Nat) (p : Place) : (b.fallInto target).inst? p = b.inst? p := by
  unfold fallInto
  split
  · exact inst?_terminate _ _ _ _
  · rfl

@[simp] theorem inst?_startLabel (b : Body) (name : String) (p : Place) : (b.startLabel name).inst? p = b.inst? p :=
  (inst?_fallInto _ _ p).trans (inst?_addBlock _ _ p)

theorem size_startLabel (b : Body) (name : String) : (b.startLabel name).blocks.size = b.blocks.size + 1 := by
  show ((b.addBlock ("label." ++ name)).fallInto b.blocks.size).blocks.size = _
  unfold fallInto
  split <;> simp

theorem index_lt_of_inst? {p : Place} (h : b.inst? p = some i) :
    p.block < b.blocks.size ∧ p.index < (b.nextPlace p.block).index := by
  obtain ⟨K, block, there⟩ := Option.bind_eq_some_iff.mp h
  refine ⟨(Array.getElem?_eq_some_iff.mp block).1, ?_⟩
  simpa [nextPlace, block] using (Array.getElem?_eq_some_iff.mp there).1

structure Retains (b c : Body) : Prop where
  size : b.blocks.size ≤ c.blocks.size
  insts : ∀ p i, b.inst? p = some i → c.inst? p = some i

theorem Retains.refl (b : Body) : b.Retains b := ⟨Nat.le_refl _, fun _ _ there => there⟩

theorem Retains.trans {d : Body} (h : b.Retains c) (k : c.Retains d) : b.Retains d :=
  ⟨Nat.le_trans h.size k.size, fun p i there => k.insts p i (h.insts p i there)⟩

theorem retains_append (b : Body) (k : Nat) (i : Inst) : b.Retains (b.append k i) := by
  refine ⟨by simp, fun p j there => ?_⟩
  by_cases inside : k < b.blocks.size
  · -- The new instruction stands behind those of its block, so at none of their places.
    have other : p ≠ b.nextPlace k := by
      rintro rfl
      exact Nat.lt_irrefl _ (index_lt_of_inst? there).2
    rw [inst?_append inside, if_neg other, there]
  · have same : (b.append k i).blocks[p.block]? = b.blocks[p.block]? := by
      have old := (index_lt_of_inst? there).1
      rw [blocks_append, if_neg (by omega)]
    rw [inst?, same]
    exact there

theorem Step.retains (next : Step o b c) : b.Retains c := by
  cases next with
  | emit i _ => exact retains_append _ _ _
  | finish _ => exact ⟨by simp [startBlock], by simp⟩
  | wait _ => exact ⟨by simp [startBlock, addGoto], by simp⟩
  | label _ => exact ⟨by rw [size_startLabel]; omega, by simp⟩
  | scope e => exact ⟨Nat.le_refl _, fun _ _ there => there⟩

theorem Evolves.retains (h : o.Evolves b) : o.Retains b := by
  induction h with
  | refl => exact .refl o
  | step _ next ih => exact ih.trans next.retains

/-- A value that can be used where the instructions at such places have been executed. Of a single bit there are
constants outside its range, since what is true is one. -/
def Provides (b : Body) (s : Signature) (near : Place → Prop) : Value → Prop
  | .const bits n => 1 < bits → Text.Numeral.Fits bits n
  | .param n l => s.params[n]? = some l
  | .inst p l => near p ∧ ∃ i, b.inst? p = some i ∧ i.layout = l

def Offers (b : Body) (s : Signature) (k : Nat) : Value → Prop := b.Provides s (·.block ≤ k)

theorem Provides.mono {near far : Place → Prop} (h : b.Provides s near v) (retains : b.Retains c)
    (wider : ∀ p, near p → far p) : c.Provides s far v := by
  cases v with
  | const | param => exact h
  | inst p l =>
    obtain ⟨here, i, there, layout⟩ := h
    exact ⟨wider p here, i, retains.insts p i there, layout⟩

theorem Offers.mono {j : Nat} (h : b.Offers s j v) (retains : b.Retains c) (later : j ≤ k) : c.Offers s k v :=
  Provides.mono h retains fun _ before => Nat.le_trans before later

theorem Offers.before (h : b.Offers s k v) : b.Provides s (·.Before (b.nextPlace k)) v := by
  cases v with
  | const | param => exact h
  | inst p l =>
    obtain ⟨before, i, there, layout⟩ := h
    refine ⟨?_, i, there, layout⟩
    rcases Nat.lt_or_eq_of_le before with earlier | same
    · exact .inl earlier
    · exact .inr ⟨same, same ▸ (index_lt_of_inst? there).2⟩

theorem offers_append (inside : k < b.blocks.size) (i : Inst) :
    (b.append k i).Offers s k (.inst (b.nextPlace k) i.layout) :=
  ⟨Nat.le_refl k, i, by rw [inst?_append inside, if_pos rfl], rfl⟩

end Body

def Context.Calls (ctx : Context) : Inst → Prop
  | .call result n args =>
    ∃ f ∈ ctx.registry.functions, f.symbol = some n ∧ f.Called result (args.map Value.layout)
  | _ => True

namespace Body

variable (ctx : Context) (s : Signature)

structure Admits (b : Body) (p : Place) (i : Inst) : Prop where
  typed : i.Typed fun v => some v.layout
  operands : ∀ v ∈ i.operands, b.Provides s (·.Before p) v
  calls : ctx.Calls i

structure Allows (b : Body) (k : Nat) (t : Term) : Prop where
  typed : t.Typed s.result fun v => some v.layout
  operands : ∀ v ∈ t.operands, b.Offers s k v
  slot : ctx.function.hasSlot = true → ∀ v, t = .ret v →
    ∃ index w l, b.inst? ⟨k, index⟩ = some (.store w (.param ctx.function.required l))

structure Code (b : Body) : Prop where
  insts : ∀ p i, b.inst? p = some i → b.Admits ctx s p i
  terms : ∀ k t, b.term? k = some t → b.Allows ctx s k t

structure Coded (b : Body) : Prop extends Code ctx s b where
  sound : b.Sound
  last : b.current + 1 = b.blocks.size
  vars : b.env.All fun v => b.Offers s b.current v.storage

structure Made (o b : Body) : Prop where
  grown : o.Grown b
  coded : b.Coded ctx s

structure Emits (o b c : Body) : Prop extends Made ctx s o c where
  retains : b.Retains c
  current : c.current = b.current

end Body

section Coded

variable {ctx : Context} {s : Signature} {b c : Body}

theorem Body.Admits.mono {p : Place} (h : b.Admits ctx s p i) (retains : b.Retains c) : c.Admits ctx s p i :=
  ⟨h.typed, fun v used => (h.operands v used).mono retains fun _ before => before, h.calls⟩

theorem Body.Allows.mono {t : Term} (h : b.Allows ctx s k t) (retains : b.Retains c) : c.Allows ctx s k t := by
  refine ⟨h.typed, fun v used => (h.operands v used).mono retains (Nat.le_refl k), fun slot v ends => ?_⟩
  obtain ⟨index, w, l, there⟩ := h.slot slot v ends
  exact ⟨index, w, l, retains.insts _ _ there⟩

namespace Body.Coded

theorem allows_br (k target : Nat) : b.Allows ctx s k (.br target) :=
  ⟨trivial, by simp [Term.operands], fun _ _ ends => nomatch ends⟩

theorem allows_ret_none (has : ctx.function.HasSignature s) (void : ctx.function.returnType.isVoid = true) (k : Nat) :
    b.Allows ctx s k (.ret none) := by
  refine ⟨has.result_of_void void, by simp [Term.operands], fun slot => ?_⟩
  obtain ⟨l, -, laid⟩ := has.slot slot
  have value := Ty.isVoid_of_layout laid
  simp [Ty.isVoid_unmark, void] at value

variable (h : b.Coded ctx s)

include h

theorem inside : b.current < b.blocks.size := by have := h.last; omega

theorem le_current (inside : k < b.blocks.size) : k ≤ b.current := by
  have := h.last
  omega

theorem current_le (k : c.Coded ctx s) (retains : b.Retains c) : b.current ≤ c.current := by
  have := h.last
  have := k.last
  have := retains.size
  omega

theorem append (inside : k < b.blocks.size) (typed : i.Typed fun v => some v.layout)
    (offered : ∀ v ∈ i.operands, b.Offers s k v) (calls : ctx.Calls i) :
    (b.append k i).Coded ctx s where
  sound := h.sound
  last := by rw [size_append]; exact h.last
  vars scope there x bound := (h.vars scope there x bound).mono (retains_append b k i) (Nat.le_refl _)
  insts p j there := by
    have retains := retains_append b k i
    rw [inst?_append inside] at there
    split at there
    · rename_i new
      cases there
      exact ⟨typed, fun v used => new ▸ (offered v used).before.mono retains fun _ before => before, calls⟩
    · exact (h.insts p j there).mono retains
  terms j t ends := by
    rw [term?_append] at ends
    exact (h.terms j t ends).mono (retains_append b k i)

theorem moveOn (retains : b.Retains c) (insts : ∀ p, c.inst? p = b.inst? p)
    (size : c.blocks.size = b.blocks.size + 1) (current : c.current = b.blocks.size) (env : c.env = b.env)
    (terms : ∀ k t, c.term? k = some t → b.Allows ctx s k t) : c.Coded ctx s where
  sound := by
    rw [Body.Sound, env]
    exact h.sound
  last := by omega
  vars := by
    rw [env]
    intro scope there x bound
    have := h.last
    exact (h.vars scope there x bound).mono retains (by omega)
  insts p i there := (h.insts p i (insts p ▸ there)).mono retains
  terms k t ends := (terms k t ends).mono retains

theorem finish {t : Term} (allows : b.Allows ctx s b.current t) :
    ((b.terminate b.current t).startBlock "").Coded ctx s := by
  refine h.moveOn ⟨by simp [startBlock], by simp⟩ (by simp) (by simp [startBlock]) (size_terminate _ _ _) rfl ?_
  intro k u ends
  rw [term?_startBlock, term?_terminate h.inside] at ends
  split at ends
  · rename_i here
    cases ends
    exact here ▸ allows
  · exact h.terms k u ends

theorem wait (g : PendingGoto) : ((b.addGoto g).startBlock "").Coded ctx s := by
  refine h.moveOn ⟨by simp [startBlock, addGoto], by simp⟩ (by simp)
    (by simp [startBlock, addGoto]) rfl rfl ?_
  intro k u ends
  rw [term?_startBlock] at ends
  exact h.terms k u ends

theorem startLabel (name : String) : (b.startLabel name).Coded ctx s := by
  refine h.moveOn ⟨by rw [size_startLabel]; omega, by simp⟩ (by simp) (size_startLabel b name) rfl
    (env_startLabel b name) ?_
  intro k u ends
  have falls : ((b.addBlock ("label." ++ name)).fallInto b.blocks.size).term? k = some u := ends
  -- Only the block that control leaves for the label can have got an end.
  unfold fallInto at falls
  split at falls
  · have inside : (b.addBlock ("label." ++ name)).current < (b.addBlock ("label." ++ name)).blocks.size := by
      rw [size_addBlock]
      exact Nat.lt_succ_of_lt h.inside
    rw [term?_terminate inside, term?_addBlock] at falls
    split at falls
    · cases falls
      exact allows_br _ _
    · exact h.terms k u falls
  · rw [term?_addBlock] at falls
    exact h.terms k u falls

theorem withEnv {e : Environment Local} (sound : e.All Local.Sound)
    (vars : e.All fun v => b.Offers s b.current v.storage) : Body.Coded ctx s { b with env := e } := by
  have retains : b.Retains { b with env := e } := ⟨Nat.le_refl _, fun _ _ there => there⟩
  exact ⟨⟨fun p i there => (h.insts p i there).mono retains, fun k t ends => (h.terms k t ends).mono retains⟩,
    sound, h.last, vars⟩

theorem bindName {v : Local} (sound : v.Sound) (offers : b.Offers s b.current v.storage)
    (name : String) : Body.Coded ctx s { b with env := b.env.add name v } :=
  h.withEnv (h.sound.add sound) (h.vars.add offers)

end Body.Coded

theorem Body.Emits.refl (made : Body.Made ctx s o b) : Body.Emits ctx s o b b := ⟨made, .refl b, rfl⟩

theorem Body.Emits.trans {d : Body} (first : Body.Emits ctx s o b c) (rest : Body.Emits ctx s o c d) :
    Body.Emits ctx s o b d :=
  ⟨rest.toMade, first.retains.trans rest.retains, rest.current.trans first.current⟩

end Coded

def Result.values (r : Result) : List Value :=
  (match r.produced with
  | .nothing => []
  | .direct v => [v]
  | .slot slot direct => slot.toList ++ direct.toList) ++ r.address.toList

structure Result.Ready (s : Signature) (b : Body) (k : Nat) (r : Result) : Prop where
  sound : r.Sound
  block : r.block = some k
  inside : k < b.blocks.size
  offers : ∀ v ∈ r.values, b.Offers s k v

abbrev Body.Makes (ctx : Context) (s : Signature) (o : Body) (r : Result) (c : Body) : Prop :=
  Body.Made ctx s o c ∧ r.Ready s c c.current

namespace Result

variable {s : Signature} {b c : Body} {k : Nat}

theorem Ready.mono (h : r.Ready s b k) (retains : b.Retains c) : r.Ready s c k :=
  ⟨h.sound, h.block, Nat.lt_of_lt_of_le h.inside retains.size,
    fun v held => (h.offers v held).mono retains (Nat.le_refl k)⟩

theorem Ready.terminated (h : r.Ready s b k) : Result.Ready s b k { r with terminator := true } :=
  ⟨⟨h.sound.block, h.sound.addressType, h.sound.value⟩, h.block, h.inside, h.offers⟩

variable (inside : k < b.blocks.size)

include inside

theorem ready_void : (Result.void k).Ready s b k := ⟨sound_void k, rfl, inside, by simp [values, void, set]⟩

theorem ready_ofValue (h : type.layout = .ok v.layout) (offers : b.Offers s k v) :
    (Result.ofValue k type v).Ready s b k :=
  ⟨sound_ofValue h k, rfl, inside, by simpa [values, ofValue, set] using offers⟩

theorem ready_stored {a : Value} (h : type.layout = .ok l) (value : v.layout = l) (stored : a.layout = .pointer l)
    (offers : b.Offers s k v) (offers' : b.Offers s k a) :
    Result.Ready s b k { Result.ofValue k type v with address := some a, lvalue := true } :=
  ⟨sound_stored h value stored k, rfl, inside, by simp [values, ofValue, set, offers, offers']⟩

theorem ready_slot {slot : Value} (h : type.layout = .ok l) (stored : slot.layout = .pointer l)
    (offers : b.Offers s k slot) :
    Result.Ready s b k { (({} : Result).set k type none).setSlot slot type.pointerTo with slotUsed := true } :=
  ⟨sound_slot h stored k, rfl, inside, by simpa [values, setSlot, set, Result.value] using offers⟩

end Result

structure Function.Callable (f : Function) : Prop where
  signature : ∃ s, f.HasSignature s
  orderly : f.Orderly
  declared : f.symbol.isSome

/-- What a body can be compiled in: all functions have been declared, and the one it is of has a signature. -/
structure Context.Linked (ctx : Context) (s : Signature) : Prop where
  functions : ∀ f ∈ ctx.registry.functions, f.Callable
  signature : ctx.function.HasSignature s
  orderly : ctx.function.Orderly

theorem Call.layouts_of_zip {call : Invocation} {args : List Result} {vs : List Value}
    (enough : args.length = call.operands.length)
    (layouts : (call.tokens.zip args).map (·.2.type.layout) = vs.map fun v => .ok v.layout) :
    (args.map (·.type)).map Ty.layout = (vs.map Value.layout).map .ok := by
  have all : (call.tokens.zip args).map Prod.snd = args := List.map_snd_zip (by simp [Invocation.tokens, enough])
  calc (args.map (·.type)).map Ty.layout
      = (((call.tokens.zip args).map Prod.snd).map (·.type)).map Ty.layout := by rw [all]
    _ = (vs.map Value.layout).map .ok := by simpa only [List.map_map, Function.comp_def] using layouts

section Leaves

variable {ctx : Context} {s : Signature} {o b : Body} {k : Nat} (made : Body.Made ctx s o b)

include made

theorem Body.Made.append (fills : o.Fills k) (inside : k < b.blocks.size) (typed : i.Typed fun v => some v.layout)
    (offered : ∀ v ∈ i.operands, b.Offers s k v) (calls : ctx.Calls i) : Body.Emits ctx s o b (b.append k i) :=
  ⟨⟨made.grown.append fills i, made.coded.append inside typed offered calls⟩, Body.retains_append b k i, rfl⟩

theorem Build.coded_emitAt (fills : o.Fills k) (inside : k < b.blocks.size) (typed : i.Typed fun v => some v.layout)
    (offered : ∀ v ∈ i.operands, b.Offers s k v) (calls : ctx.Calls i) :
    Meets b (Build.emitAt k i) (fun v c => Body.Emits ctx s o b c ∧ c.Offers s k v ∧ v.layout = i.layout)
      fun _ => o.Grown :=
  .of_ok rfl ⟨made.append fills inside typed offered calls, Body.offers_append inside i, rfl⟩

theorem Build.coded_emit (typed : i.Typed fun v => some v.layout) (offered : ∀ v ∈ i.operands, b.Offers s b.current v)
    (calls : ctx.Calls i) :
    Meets b (Build.emit i) (fun v c => Body.Emits ctx s o b c ∧ c.Offers s c.current v ∧ v.layout = i.layout)
      fun _ => o.Grown := by
  refine .get_bind (.mono (coded_emitAt made made.grown.fills made.coded.inside typed offered calls) ?_ fun _ _ h => h)
  rintro v c ⟨emits, offers, layout⟩
  exact ⟨emits, emits.current ▸ offers, layout⟩

theorem Build.coded_storeAt (fills : o.Fills k) (inside : k < b.blocks.size) {target : Value} (value : b.Offers s k v)
    (there : b.Offers s k target) :
    Meets b (Build.storeAt k v target)
      (fun _ c => Body.Emits ctx s o b c ∧ ∃ index, c.inst? ⟨k, index⟩ = some (.store v target)) fun _ => o.Grown := by
  unfold Build.storeAt
  refine .ite (fun fits => ?_) fun _ => .breakDown made.grown
  have typed : (Inst.store v target).Typed fun w => some w.layout := ⟨v.layout, rfl, congrArg some fits⟩
  have emits := made.append fills inside typed (by simp [Inst.operands, value, there]) trivial
  have stored : (b.append k (.store v target)).inst? (b.nextPlace k) = some (.store v target) := by
    rw [Body.inst?_append inside, if_pos rfl]
  exact .of_ok rfl ⟨emits, _, stored⟩

theorem Build.coded_store {target : Value} (value : b.Offers s b.current v) (there : b.Offers s b.current target) :
    Meets b (Build.store v target)
      (fun _ c => Body.Emits ctx s o b c ∧ ∃ index, c.inst? ⟨c.current, index⟩ = some (.store v target))
      fun _ => o.Grown := by
  refine .get_bind (.mono (coded_storeAt made made.grown.fills made.coded.inside value there) ?_ fun _ _ h => h)
  rintro _ c ⟨emits, stored⟩
  exact ⟨emits, emits.current ▸ stored⟩

theorem Build.coded_layout (t : Ty) (token : Option Token) :
    Meets b (Build.pinned token (Build.layout t)) (fun l c => c = b ∧ t.layout = .ok l) fun _ => o.Grown := by
  refine .pinned ?_
  unfold Build.layout
  split
  · rename_i l laid
    exact .pure ⟨rfl, laid⟩
  · exact .breakDown made.grown
  · exact .throw made.grown

theorem Result.coded_getValue (fills : o.Fills k) (ready : r.Ready s b k) (value : r.type.isVoid = false) :
    Meets b r.getValue (fun v c => Body.Emits ctx s o b c ∧ c.Offers s k v ∧ r.type.layout = .ok v.layout)
      fun _ => o.Grown := by
  obtain ⟨l, laid, holds, -⟩ := ready.sound.holds value
  unfold Result.Holds at holds
  unfold Result.getValue
  split at holds
  · rename_i v produced
    simp only [produced]
    exact .pure ⟨.refl made, ready.offers v (by simp [Result.values, produced]), by rw [laid, holds]⟩
  · rename_i slot direct produced
    have offers : b.Offers s k slot := ready.offers slot (by simp [Result.values, produced])
    simp only [produced, laid, ready.block, Build.demand]
    refine .pure_bind (.mono (Build.coded_emitAt made fills ready.inside (congrArg some holds)
      (by simpa [Inst.operands] using offers) trivial) ?_ fun _ _ h => h)
    rintro v c ⟨emits, offers, layout⟩
    exact ⟨emits, offers, by rw [layout]; rfl⟩
  · exact holds.elim

theorem Result.coded_materialise (fills : o.Fills k) (ready : r.Ready s b k) (value : r.type.isVoid = false) :
    Meets b r.materialise (fun t c => Body.Emits ctx s o b c ∧ ∃ a, t = { r with address := some a } ∧ c.Offers s k a)
      fun _ => o.Grown := by
  obtain ⟨l, laid, -, -⟩ := ready.sound.holds value
  unfold Result.materialise
  split
  · rename_i a known
    exact .pure ⟨.refl made, a, by rw [← known], ready.offers a (by simp [Result.values, known])⟩
  · simp only [Build.layout, laid, ready.block, Build.demand]
    refine .pure_bind (.pure_bind (.bind (Build.coded_emitAt made fills ready.inside trivial (by simp [Inst.operands])
      trivial) ?_))
    rintro address c ⟨first, stored, -⟩
    refine .bind (Result.coded_getValue first.toMade fills (ready.mono first.retains) value) ?_
    rintro v d ⟨second, offers, -⟩
    have emits := first.trans second
    have stored := stored.mono second.retains (Nat.le_refl k)
    refine .bind (Build.coded_storeAt second.toMade fills (ready.mono emits.retains).inside offers stored) ?_
    rintro _ e ⟨third, -⟩
    exact .pure ⟨emits.trans third, address, rfl, stored.mono third.retains (Nat.le_refl k)⟩

theorem Result.coded_getAddress (fills : o.Fills k) (ready : r.Ready s b k) (value : r.type.isVoid = false) :
    Meets b r.getAddress (fun t c => Body.Emits ctx s o b c ∧ t.Ready s c k ∧ t.type = r.type.pointerTo)
      fun _ => o.Grown := by
  have placed : Meets b r.getAddress
      (fun t c => Body.Emits ctx s o b c ∧ t.block = r.block ∧ ∀ v ∈ t.values, c.Offers s k v) fun _ => o.Grown := by
    refine .bind (Result.coded_materialise made fills ready value) ?_
    rintro t c ⟨emits, a, rfl, offers⟩
    exact .pure ⟨emits, rfl, by simpa [Result.values, Result.setAddressOf, Result.set] using offers⟩
  have typed : Meets b r.getAddress _ fun _ _ => True := Result.typed_getAddress made.coded.sound ready.sound value
  refine .mono (placed.and typed) ?_ fun _ _ h => h.1
  rintro t c ⟨⟨emits, block, offers⟩, -, sound, type⟩
  exact ⟨emits, ⟨sound, block.trans ready.block, (ready.mono emits.retains).inside, offers⟩, type⟩

theorem Result.coded_deliver (ready : r.Ready s b b.current) (token : Token) (demand : Demand) :
    Meets b (r.deliver token demand) (fun t c => Body.Made ctx s o c ∧ t.Ready s c c.current)
      fun _ => o.Grown := by
  cases demand with
  | value => exact .pure ⟨made, ready⟩
  | address =>
    refine .pinned ?_
    cases void : r.type.isVoid with
    | false =>
      refine .mono (Result.coded_getAddress made made.grown.fills ready void) ?_ fun _ _ h => h
      rintro t c ⟨emits, ready, -⟩
      exact ⟨emits.toMade, emits.current ▸ ready⟩
    | true =>
      have none := Result.typed_getAddress_void made.coded.sound ready.sound void
      have grown := Result.meets_getAddress made.grown ⟨_, ready.block, made.grown.fills⟩
      exact .mono (none.and grown) (fun _ _ h => h.1.elim) fun _ _ h => h.2

theorem Atom.coded_constant (h : type.layout = .ok (.int type.constantBits))
    (fits : 1 < type.constantBits → Text.Numeral.Fits type.constantBits n) (token : Token) (demand : Demand) :
    Meets b (Atom.constant type n >>= fun r => r.deliver token demand) (Body.Makes ctx s o) fun _ => o.Grown := by
  have offers : b.Offers s b.current (.const type.constantBits n) := fits
  exact .get_bind (Result.coded_deliver made (Result.ready_ofValue made.coded.inside h offers) token demand)

theorem Atom.coded_reference (token : Token) (demand : Demand) :
    Meets b (Atom.reference token demand) (Body.Makes ctx s o) fun _ => o.Grown := by
  refine .get_bind ?_
  split
  · exact .complain made.grown
  · rename_i v found
    obtain ⟨l, laid, stored⟩ := made.coded.sound.find? found
    have offers : b.Offers s b.current v.storage := made.coded.vars.find? found
    cases demand with
    | address =>
      have type : v.type.pointerTo.layout = .ok v.storage.layout := by rw [stored, Ty.layout_pointerTo laid]
      exact .get_bind (.pure ⟨made, Result.ready_ofValue made.coded.inside type offers⟩)
    | value =>
      refine .bind (Build.coded_layout made _ _) ?_
      rintro m c ⟨rfl, same⟩
      obtain rfl : l = m := Except.ok.inj (laid.symm.trans same)
      refine .bind (Build.coded_emit made (congrArg some stored) (by simpa [Inst.operands] using offers) trivial) ?_
      rintro loaded d ⟨emits, value, layout⟩
      have storage := offers.mono emits.retains (Nat.le_of_eq emits.current.symm)
      exact .get_bind (.pure ⟨emits.toMade,
        Result.ready_stored emits.coded.inside laid layout stored value storage⟩)

theorem Atom.coded_compile (token : Token) (demand : Demand) :
    Meets b (Atom.compile token demand) (Body.Makes ctx s o) fun _ => o.Grown := by
  unfold Atom.compile
  split
  · split
    · rename_i n read
      have fits : Text.Numeral.Fits Ty.int32.constantBits n := of_decide_eq_true (Option.filter_eq_some_iff.mp read).2
      exact Atom.coded_constant made rfl (fun _ => fits) _ _
    · exact .complain made.grown
  · exact Atom.coded_constant made rfl (by decide) _ _
  · exact Atom.coded_constant made rfl (by decide) _ _
  · exact Atom.coded_reference made _ _
  · exact .complain made.grown

theorem Call.coded_values (head : Token) (position : Nat) {args : List (Token × Result)}
    (each : ∀ a ∈ args, ∃ k, o.Fills k ∧ a.2.Ready s b k) :
    Meets b (Call.values head position args) (fun vs c => Body.Emits ctx s o b c ∧
      (∀ v ∈ vs, c.Offers s c.current v) ∧ args.map (·.2.type.layout) = vs.map fun v => .ok v.layout)
      fun _ => o.Grown := by
  induction args generalizing position b with
  | nil => exact .pure ⟨.refl made, by simp, rfl⟩
  | cons a rest ih =>
    obtain ⟨token, r⟩ := a
    obtain ⟨k, fills, ready⟩ := each _ List.mem_cons_self
    simp only [Call.values]
    refine .ite (fun _ => .complain_bind made.grown) fun value => ?_
    simp only [Bool.or_eq_true, not_or, Bool.not_eq_true] at value
    refine .bind (Result.coded_getValue made fills ready value.2) ?_
    rintro v c ⟨first, offers, layout⟩
    have others : ∀ a ∈ rest, ∃ k, o.Fills k ∧ a.2.Ready s c k := by
      intro a inside
      obtain ⟨k, fills, ready⟩ := each a (List.mem_cons_of_mem _ inside)
      exact ⟨k, fills, ready.mono first.retains⟩
    refine .bind (ih first.toMade (position + 1) others) ?_
    rintro vs d ⟨rest, offered, layouts⟩
    have emits := first.trans rest
    have here : d.Offers s d.current v :=
      offers.mono rest.retains (emits.coded.le_current (ready.mono emits.retains).inside)
    exact .pure ⟨emits, List.forall_mem_cons.mpr ⟨here, offered⟩, by simp [layout, layouts]⟩

theorem Call.coded_emit (linked : ctx.Linked s) (call : Invocation) {callee : Function} {args : List Result}
    (demand : Demand) (registered : callee ∈ ctx.registry.functions)
    (accepts : callee.accepts (args.map (·.type)) = true) (enough : args.length = call.operands.length)
    (each : ∀ r ∈ args, ∃ k, o.Fills k ∧ r.Ready s b k) :
    Meets b (Call.emit call callee args demand) (Body.Makes ctx s o) fun _ => o.Grown := by
  obtain ⟨⟨t, has⟩, orderly, declared⟩ := linked.functions callee registered
  obtain ⟨n, symbol⟩ := Option.isSome_iff_exists.mp declared
  have zipped : ∀ a ∈ call.tokens.zip args, ∃ k, o.Fills k ∧ a.2.Ready s b k := fun a inside =>
    each a.2 (List.of_mem_zip inside).2
  unfold Call.emit
  refine .bind (Call.coded_values made call.head 1 zipped) ?_
  rintro vs c ⟨first, offers, layouts⟩
  have called := Function.called_of_accepts has orderly accepts (Call.layouts_of_zip enough layouts)
  simp only [Call.symbol, symbol]
  refine .pure_bind (.ite (fun slot => ?_) fun none => .ite (fun void => ?_) fun value => ?_)
  · obtain ⟨l, held, unmarked⟩ := has.slot slot
    refine .bind (Build.coded_layout first.toMade _ _) ?_
    rintro m c ⟨rfl, same⟩
    obtain rfl : l = m := Except.ok.inj (unmarked.symm.trans same)
    refine .bind (Build.coded_emit first.toMade trivial (by simp [Inst.operands]) trivial) ?_
    rintro place c ⟨second, there, layout⟩
    have calls : ctx.Calls (.call .void n (vs ++ [place])) := by
      refine ⟨callee, registered, symbol, ?_⟩
      rw [← has.result_of_slot slot]
      simpa [held, layout, Inst.layout] using called
    have offered : ∀ v ∈ vs ++ [place], c.Offers s c.current v := by
      intro v inside
      rcases List.mem_append.mp inside with old | new
      · exact (offers v old).mono second.retains (Nat.le_of_eq second.current.symm)
      · obtain rfl := List.mem_singleton.mp new
        exact there
    refine .bind (Build.coded_emit second.toMade trivial offered calls) ?_
    rintro _ d ⟨third, -, -⟩
    have there := there.mono third.retains (Nat.le_of_eq third.current.symm)
    exact .get_bind (Result.coded_deliver third.toMade
      (Result.ready_slot third.coded.inside unmarked layout there) _ _)
  · have calls : ctx.Calls (.call .void n vs) := by
      refine ⟨callee, registered, symbol, ?_⟩
      rw [← has.result_of_void void]
      simpa [has.noSlot ((Bool.not_eq_true _).mp none)] using called
    refine .bind (Build.coded_emit first.toMade trivial offers calls) ?_
    rintro _ d ⟨second, -, -⟩
    exact .get_bind (Result.coded_deliver second.toMade (Result.ready_void second.coded.inside) _ _)
  · have plain : callee.hasSlot = false := (Bool.not_eq_true _).mp none
    refine .bind (Build.coded_layout first.toMade _ _) ?_
    rintro m c ⟨rfl, same⟩
    have result : t.result = m := has.result_of_value plain (by rw [Ty.unmark_of_not_isMarked plain, same])
    have calls : ctx.Calls (.call m n vs) := by
      refine ⟨callee, registered, symbol, ?_⟩
      rw [← result]
      simpa [has.noSlot plain] using called
    refine .bind (Build.coded_emit first.toMade trivial offers calls) ?_
    rintro v d ⟨second, there, layout⟩
    have type : callee.returnType.layout = .ok v.layout := by rw [same, layout]; rfl
    exact .get_bind (Result.coded_deliver second.toMade
      (Result.ready_ofValue second.coded.inside type there) _ _)

theorem Pointer.coded_widen (integral : type.isIntegral = true) (layout : type.layout = .ok v.layout)
    (offers : b.Offers s b.current v) :
    Meets b (Pointer.widen type v)
      (fun w c => Body.Emits ctx s o b c ∧ c.Offers s c.current w ∧ w.layout = .int 64) fun _ => o.Grown := by
  obtain ⟨least, most, laid⟩ := Ty.layout_of_isIntegral integral
  have bits : v.layout = .int type.constantBits := Except.ok.inj (layout.symm.trans laid)
  unfold Pointer.widen
  refine .ite (fun wide => ?_) fun short => ?_
  · have exactly : type.constantBits = 64 := Nat.le_antisymm most wide
    exact .pure ⟨.refl made, offers, by rw [bits, exactly]⟩
  · have extended (signed : Bool) : Meets b (Build.emit (.extend signed v 64))
        (fun w c => Body.Emits ctx s o b c ∧ c.Offers s c.current w ∧ w.layout = .int 64) fun _ => o.Grown :=
      Build.coded_emit made ⟨rfl, type.constantBits, Nat.lt_of_not_le short, congrArg some bits⟩
        (by simpa [Inst.operands] using offers) trivial
    refine .ite (fun _ => extended false) fun _ => ?_
    split
    · cases bits
      have fits : Text.Numeral.Fits type.constantBits _ := offers least
      exact .pure ⟨.refl made, fun _ => fits.mono most, rfl⟩
    · exact extended true

theorem Pointer.coded_base (fills : o.Fills k) (ready : r.Ready s b k) (pointee : r.type.pointee? = some t)
    (laid : t.layout = .ok l) :
    Meets b (Pointer.base r) (fun v c => Body.Emits ctx s o b c ∧ c.Offers s k v ∧ v.layout = .pointer l)
      fun _ => o.Grown := by
  have value := Ty.isVoid_of_pointee? pointee
  have coded : Meets b (Pointer.base r) (fun v c => Body.Emits ctx s o b c ∧ c.Offers s k v) fun _ => o.Grown := by
    unfold Pointer.base
    refine .bind (Build.meets_known made.grown _) ?_
    rintro type c ⟨rfl, rfl⟩
    rcases Ty.isPointer_or_array pointee with ⟨pointer, -⟩ | ⟨array, n, m, same⟩
    · simp only [pointer, if_true]
      exact .mono (Result.coded_getValue made fills ready value) (fun _ _ h => ⟨h.1, h.2.1⟩) fun _ _ h => h
    · simp only [array, Bool.false_eq_true, if_false]
      obtain ⟨whole, known, -⟩ := ready.sound.holds value
      refine .bind (Result.coded_getAddress made fills ready value) ?_
      rintro address c ⟨first, there, type⟩
      simp only [Build.layout, known, there.block, Build.demand]
      refine .pure_bind (.bind (Result.coded_getValue first.toMade fills there (by rw [type]; rfl)) ?_)
      rintro v d ⟨second, offers, layout⟩
      have points : v.layout = .pointer whole := by
        rw [type, Ty.layout_pointerTo known] at layout
        exact (Except.ok.inj layout).symm
      have typed : (Inst.firstElement whole v).Typed fun w => some w.layout :=
        ⟨congrArg some points, Ty.eq_array_of_layout (same ▸ known)⟩
      refine .pure_bind (.mono (Build.coded_emitAt second.toMade fills (there.mono second.retains).inside typed
        (by simpa [Inst.operands] using offers) trivial) ?_ fun _ _ h => h)
      rintro w e ⟨third, offers, -⟩
      exact ⟨(first.trans second).trans third, offers⟩
  have typed : Meets b (Pointer.base r) _ fun _ _ => True :=
    Pointer.typed_base made.coded.sound ready.sound pointee laid
  exact .mono (coded.and typed) (fun _ _ h => ⟨h.1.1, h.1.2, h.2.2⟩) fun _ _ h => h.1

theorem Pointer.coded_element (like : type.isPointerLike = true) (token : Token) :
    Meets b (Pointer.element type.decay token)
      (fun l c => c = b ∧ ∃ t, type.pointee? = some t ∧ t.layout = .ok l) fun _ => o.Grown := by
  obtain ⟨t, pointee⟩ := Option.isSome_iff_exists.mp like
  simp only [Pointer.element, Ty.pointee?_decay, pointee, Build.demand]
  refine .pure_bind ?_
  split
  · rename_i l laid
    exact .pure ⟨rfl, t, rfl, laid⟩
  · exact .complain made.grown

theorem Control.coded_finish {t : Term} (can : b.CanEnd t) (allows : b.Allows ctx s b.current t) :
    Meets b (Control.finish t) (Body.Makes ctx s o) fun _ => o.Grown := by
  have next : Body.Step o b ((b.terminate b.current t).startBlock "") := .finish can
  have coded := made.coded.finish allows
  exact .of_ok rfl ⟨⟨⟨made.grown.evolves.step next, made.grown.env⟩, coded⟩,
    (Result.ready_void coded.inside).terminated⟩

theorem Control.coded_compileLabel (operand : Operand) :
    Meets b (Control.compileLabel operand) (Body.Makes ctx s o) fun _ => o.Grown := by
  unfold Control.compileLabel
  refine .bind (Control.meets_labelName made.grown _ _) ?_
  rintro name c rfl
  refine .get_bind (.ite (fun _ => .complain_bind made.grown) fun fresh => ?_)
  have next : Body.Step o c (c.startLabel name) := .label (by simpa using fresh)
  have grown : o.Grown (c.startLabel name) :=
    ⟨made.grown.evolves.step next, by rw [Body.env_startLabel]; exact made.grown.env⟩
  have coded := made.coded.startLabel name
  exact .of_ok rfl ⟨⟨grown, coded⟩, Result.ready_void coded.inside⟩

theorem Control.coded_compileGoto (operand : Operand) :
    Meets b (Control.compileGoto operand) (Body.Makes ctx s o) fun _ => o.Grown := by
  unfold Control.compileGoto
  refine .bind (Control.meets_labelName made.grown _ _) ?_
  rintro name c rfl
  refine .get_bind ?_
  split
  · rename_i target met
    exact Control.coded_finish made ⟨name, met⟩ (Body.Coded.allows_br _ _)
  · have next : Body.Step o c ((c.addGoto ⟨name, c.current, some operand.node.token⟩).startBlock "") := .wait rfl
    have coded := made.coded.wait ⟨name, c.current, some operand.node.token⟩
    exact .of_ok rfl ⟨⟨⟨made.grown.evolves.step next, made.grown.env⟩, coded⟩,
      (Result.ready_void coded.inside).terminated⟩

theorem Control.coded_returnValue (linked : ctx.Linked s)
    (fits : ctx.function.returnType.unmark.layout = .ok v.layout) (offers : b.Offers s b.current v) :
    Meets b (Control.returnValue ctx.function v)
      (fun t c => Body.Emits ctx s o b c ∧ c.Allows ctx s c.current t ∧ c.CanEnd t) fun _ => o.Grown := by
  unfold Control.returnValue
  refine .ite (fun slot => ?_) fun none => ?_
  · have there : b.Offers s b.current (.param ctx.function.required (.pointer v.layout)) :=
      linked.signature.slot_param linked.orderly slot fits
    simp only [Build.layout, fits]
    refine .pure_bind (.bind (Build.coded_store made offers there) ?_)
    rintro _ c ⟨emits, index, stored⟩
    exact .pure ⟨emits, ⟨linked.signature.result_of_slot slot, by simp [Term.operands],
      fun _ _ _ => ⟨index, v, _, stored⟩⟩, trivial⟩
  · have plain : ctx.function.hasSlot = false := (Bool.not_eq_true _).mp none
    have result := linked.signature.result_of_value plain fits
    refine .pure ⟨.refl made, ⟨⟨?_, congrArg some result.symm⟩, by simpa [Term.operands] using offers,
      fun slot => absurd slot none⟩, trivial⟩
    intro void
    exact Ty.layout_ne_void (by rw [fits, ← result, void])

theorem Body.coded_enterParams (i : Nat) {ps : List Parameter}
    (laid : ((ps.map (·.type)).takeWhile (!·.isVariadic)).map Ty.layout = (s.fixed.drop i).map .ok) :
    Meets b (Body.enterParams i ps) (fun _ => Body.Made ctx s o) fun _ => o.Grown := by
  induction ps generalizing b i with
  | nil => exact .pure made
  | cons p ps ih =>
    refine .ite (fun _ => .pure made) fun plain => ?_
    simp only [Bool.not_eq_true] at plain
    simp only [List.map_cons, List.takeWhile_cons, plain, Bool.not_false, if_true] at laid
    obtain ⟨l, rest, split⟩ : ∃ l rest, s.fixed.drop i = l :: rest := by
      cases fixed : s.fixed.drop i with
      | nil => simp [fixed] at laid
      | cons l rest => exact ⟨l, rest, rfl⟩
    have here : s.fixed[i]? = some l := by rw [← List.head?_drop, split]; rfl
    have next : s.fixed.drop (i + 1) = rest := by rw [← List.tail_drop, split]; rfl
    rw [split, List.map_cons, List.cons.injEq, ← next] at laid
    refine .bind (Build.coded_layout made _ _) ?_
    rintro m c ⟨rfl, same⟩
    obtain rfl : l = m := Except.ok.inj (laid.1.symm.trans same)
    refine .bind (Build.coded_emit made trivial (by simp [Inst.operands]) trivial) ?_
    rintro storage c ⟨first, there, layout⟩
    have passed : c.Offers s c.current (.param i l) := by
      show s.params[i]? = some l
      rw [Signature.params, List.getElem?_append_left (List.getElem?_eq_some_iff.mp here).1, here]
    refine .bind (Build.coded_store first.toMade passed there) ?_
    rintro _ d ⟨second, -⟩
    have there := there.mono second.retains (Nat.le_of_eq second.current.symm)
    have bound := second.coded.bindName (v := ⟨p.type, storage⟩) ⟨l, same, layout⟩ there p.name
    exact .changed_bind (ih ⟨second.grown.bindName _ _, bound⟩ (i + 1) laid.2)

end Leaves

end FormCompiler
