import FormCompiler.Proofs.Growth
import FormCompiler.Proofs.Reports

namespace FormCompiler

open Build (Meets Agree)
open IR (Layout Value)

variable {t type u : Ty} {l : Layout} {r : Result} {v : Value} {ctx : Context} {name : String} {m : Bool} {b : Body}

namespace Ty

theorem eq_of_isVoid (h : t.isVoid = true) : ∃ m, t = base .void m := by
  cases t with
  | base b m => exact ⟨m, by rw [eq_of_beq h]⟩
  | missing | pointer | array => cases h

theorem isVoid_of_layout (h : t.layout = .ok l) : t.isVoid = false := by
  rw [Bool.eq_false_iff]
  intro void
  obtain ⟨m, rfl⟩ := eq_of_isVoid void
  cases h

theorem isVoid_of_isIntegral (h : t.isIntegral = true) : t.isVoid = false := by
  rw [Bool.eq_false_iff]
  intro void
  obtain ⟨m, rfl⟩ := eq_of_isVoid void
  cases h

theorem isVoid_unmark (t : Ty) : t.unmark.isVoid = t.isVoid := by cases t <;> rfl

theorem unmark_mark (t : Ty) : t.mark.unmark = t.unmark := by cases t <;> rfl

theorem unmark_of_not_isMarked (h : t.isMarked = false) : t.unmark = t := by
  cases t with
  | missing => rfl
  | base b m | pointer u m | array n u m =>
    obtain rfl : m = false := h
    rfl

theorem layout_pointer (m : Bool) (h : t.isVoid = false) : (pointer t m).layout = t.layout.map .pointer := by
  cases t with
  | missing | pointer | array => rfl
  | base b _ =>
    cases b with
    | void => cases h
    | _ => rfl

theorem layout_of_pointer (h : (pointer t m).layout = .ok l) :
    t.isVoid = true ∨ ∃ k, t.layout = .ok k ∧ l = .pointer k := by
  cases void : t.isVoid with
  | true => exact .inl rfl
  | false =>
    rw [layout_pointer m void] at h
    cases inner : t.layout with
    | error e => simp [inner, Except.map] at h
    | ok k =>
      simp only [inner, Except.map, Except.ok.injEq] at h
      exact .inr ⟨k, rfl, h.symm⟩

theorem layout_ne_missing_of_pointer (h : (pointer t m).layout = .ok l) : t.layout ≠ .error .missing := by
  rcases layout_of_pointer h with void | ⟨k, laid, -⟩
  · obtain ⟨_, rfl⟩ := eq_of_isVoid void
    exact nofun
  · simp [laid]

theorem layout_pointerTo (h : t.layout = .ok l) : t.pointerTo.layout = .ok (.pointer l) := by
  rw [pointerTo, layout_pointer false (isVoid_of_layout h), h]
  rfl

theorem layout_of_array {n : Int} (h : (array n t m).layout = .ok l) : ∃ k, t.layout = .ok k ∧ l.element = k := by
  rw [layout] at h
  cases inner : t.layout with
  | error e => simp [inner, Except.map] at h
  | ok k =>
    simp only [inner, Except.map, Except.ok.injEq] at h
    exact ⟨k, rfl, by rw [← h]; rfl⟩

theorem pointee?_decay (t : Ty) : t.decay.pointee? = t.pointee? := by cases t <;> rfl

theorem isPointer_or_array (h : t.pointee? = some u) :
    t.isPointer = true ∧ t.decay = t ∨ t.isPointer = false ∧ ∃ n m, t = array n u m := by
  cases t with
  | missing | base => cases h
  | pointer => exact .inl ⟨rfl, rfl⟩
  | array n v m => exact .inr ⟨rfl, n, m, by rw [Option.some.inj h]⟩

theorem isVoid_of_pointee? (h : t.pointee? = some u) : t.isVoid = false := by
  cases t with
  | missing | pointer | array => rfl
  | base => cases h

theorem layout_decay (h : t.pointee? = some u) (laid : u.layout = .ok l) : t.decay.layout = .ok (.pointer l) := by
  cases t with
  | missing | base => cases h
  | pointer v m =>
    obtain rfl : v = u := Option.some.inj h
    show (pointer v m).layout = _
    rw [layout_pointer m (isVoid_of_layout laid), laid]
    rfl
  | array n v m =>
    obtain rfl : v = u := Option.some.inj h
    exact layout_pointerTo laid

theorem layout_ne_missing (h : t.isComplete = true) : t.layout ≠ .error .missing := by
  induction t with
  | missing => cases h
  | base b _ => cases b <;> simp [layout, Base.bits?]
  | pointer t m ih =>
    cases void : t.isVoid with
    | true =>
      obtain ⟨_, rfl⟩ := eq_of_isVoid void
      exact nofun
    | false =>
      rw [layout_pointer m void]
      cases inner : t.layout <;> simp_all [Except.map, isComplete]
  | array n t m ih =>
    rw [layout]
    cases inner : t.layout <;> simp_all [Except.map, isComplete]

end Ty

section Decidable

variable {p : Layout → Prop} [DecidablePred p]

instance (t : Ty) : Decidable (∃ l, t.layout = .ok l ∧ p l) :=
  match h : t.layout with
  | .ok l => decidable_of_iff (p l) (by simp)
  | .error _ => isFalse (by simp)

end Decidable

def Local.Sound (v : Local) : Prop := ∃ l, v.type.layout = .ok l ∧ v.storage.layout = .pointer l

instance (v : Local) : Decidable v.Sound := inferInstanceAs (Decidable (∃ l, v.type.layout = .ok l ∧ _))

namespace Environment

variable {α : Type} {p : α → Prop} {e : Environment α}

def All (p : α → Prop) (e : Environment α) : Prop := ∀ s ∈ e.scopes, ∀ x ∈ s.entries, p x.2

instance [DecidablePred p] : Decidable (e.All p) :=
  inferInstanceAs (Decidable (∀ s ∈ e.scopes, ∀ x ∈ s.entries, p x.2))

theorem All.find? {a : α} (h : e.All p) (found : e.find? name = some a) : p a := by
  obtain ⟨s, inside, bound⟩ := List.exists_of_findSome?_eq_some found
  obtain ⟨front, back, entries, -⟩ := List.lookup_eq_some_iff.mp bound
  exact h s inside (name, a) (by simp [entries])

theorem All.add {a : α} (h : e.All p) (new : p a) : (e.add name a).All p := by
  obtain ⟨scopes⟩ := e
  cases scopes with
  | nil => simpa [Environment.add, All, Scope.add] using new
  | cons s outer =>
    intro t inside x bound
    rcases List.mem_cons.mp inside with rfl | inside
    · rcases List.mem_cons.mp bound with rfl | old
      · exact new
      · exact h s List.mem_cons_self x (List.mem_filter.mp old).1
    · exact h t (List.mem_cons_of_mem _ inside) x bound

theorem All.enter (h : e.All p) : e.enter.All p := by
  intro s inside x bound
  rcases List.mem_cons.mp inside with rfl | inside
  · cases bound
  · exact h s inside x bound

theorem All.backTo (h : e.All p) (depth : Nat) : (e.backTo depth).All p :=
  fun s inside => h s (List.mem_of_mem_drop inside)

theorem All.setInnermost {e' : Environment α} (h : e.All p) (h' : e'.All p) :
    (e.setInnermost e'.innermost).All p := by
  obtain ⟨scopes⟩ := e
  obtain ⟨scopes'⟩ := e'
  cases scopes with
  | nil => exact h
  | cons s outer =>
    intro t inside x bound
    rcases List.mem_cons.mp inside with rfl | inside
    · cases scopes' with
      | nil => cases bound
      | cons s' _ => exact h' s' List.mem_cons_self x bound
    · exact h t (List.mem_cons_of_mem _ inside) x bound

end Environment

def Body.Sound (b : Body) : Prop := b.env.All Local.Sound

instance (b : Body) : Decidable b.Sound := inferInstanceAs (Decidable (b.env.All Local.Sound))

theorem Body.Sound.rollback {c : Body} (hb : b.Sound) (hc : c.Sound) : (c.rollback b.mark).Sound :=
  (hc.backTo _).setInnermost hb

def Result.Holds (r : Result) (l : Layout) : Prop :=
  match r.produced with
  | .direct v => v.layout = l
  | .slot (some slot) _ => slot.layout = .pointer l
  | _ => False

instance (r : Result) (l : Layout) : Decidable (r.Holds l) := by
  unfold Result.Holds
  split <;> infer_instance

/-- A result is in a block. Its value is laid out as its type says and, if it is stored, is stored so,
unless its type is void. -/
structure Result.Sound (r : Result) : Prop where
  block : r.block.isSome
  addressType : r.addressType = .missing
  value : r.type.isVoid = true ∧ r.address = none ∨
    ∃ l, r.type.layout = .ok l ∧ r.Holds l ∧ ∀ a ∈ r.address, a.layout = .pointer l

instance (r : Result) : Decidable r.Sound :=
  decidable_of_iff (_ ∧ _ ∧ (_ ∧ _ ∨ ∃ l, r.type.layout = .ok l ∧ r.Holds l ∧ ∀ a ∈ r.address, a.layout = .pointer l))
    ⟨fun ⟨block, addressType, value⟩ => ⟨block, addressType, value⟩, fun h => ⟨h.block, h.addressType, h.value⟩⟩

namespace Result

theorem sound_void (block : Nat) : (Result.void block).Sound := ⟨rfl, rfl, .inl ⟨rfl, rfl⟩⟩

theorem sound_ofValue (h : type.layout = .ok v.layout) (block : Nat) :
    (Result.ofValue block type v).Sound := ⟨rfl, rfl, .inr ⟨_, h, rfl, by simp [ofValue, set]⟩⟩

theorem sound_stored {a : Value} (h : type.layout = .ok l) (value : v.layout = l) (stored : a.layout = .pointer l)
    (block : Nat) : Result.Sound { Result.ofValue block type v with address := some a, lvalue := true } :=
  ⟨rfl, rfl, .inr ⟨l, h, value, by simpa using stored⟩⟩

theorem sound_slot {slot : Value} (h : type.layout = .ok l) (stored : slot.layout = .pointer l) (block : Nat) :
    Result.Sound { (({} : Result).set block type none).setSlot slot type.pointerTo with slotUsed := true } :=
  ⟨rfl, rfl, .inr ⟨l, h, stored, by simp [setSlot, set]⟩⟩

theorem Sound.known (h : r.Sound) : r.type ≠ .missing := by
  intro missing
  rcases h.value with ⟨void, -⟩ | ⟨l, laid, -⟩
  · simp [missing, Ty.isVoid] at void
  · simp [missing, Ty.layout] at laid

theorem Sound.holds (h : r.Sound) (value : r.type.isVoid = false) :
    ∃ l, r.type.layout = .ok l ∧ r.Holds l ∧ ∀ a ∈ r.address, a.layout = .pointer l := by
  rcases h.value with ⟨void, -⟩ | laid
  · simp [value] at void
  · exact laid

end Result

structure Function.Laid (f : Function) : Prop where
  params : ∀ t ∈ f.paramTypes.takeWhile (!·.isVariadic), ∃ l, t.layout = .ok l
  slot : f.hasSlot = true → ∃ l, f.returnType.unmark.layout = .ok l
  returned : f.hasSlot = false → f.returnType.isVoid = false → ∃ l, f.returnType.layout = .ok l

structure Function.Sound (f : Function) : Prop extends f.Laid where
  declared : f.symbol.isSome

def Registry.Sound (r : Registry) : Prop := ∀ e ∈ r.entries, ∀ f ∈ e.2, f.Sound

namespace Registry

variable {r : Registry} {f : Function}

theorem forall_overloads {P : String × List Function → Prop} (h : ∀ e ∈ r.entries, P e) (none : P (name, [])) :
    P (name, r.overloads name) := by
  unfold overloads
  cases found : r.entries.lookup name with
  | none => exact none
  | some fs =>
    obtain ⟨front, back, entries, -⟩ := List.lookup_eq_some_iff.mp found
    exact h (name, fs) (by simp [entries])

theorem mem_overloads_of_lookup {types : List Ty} (found : r.lookup name types = some f) :
    f ∈ r.overloads name ∧ f.accepts types = true := by
  have inside : f ∈ (r.overloads name).filter (·.accepts types) := by
    simp only [lookup, Option.orElse_eq_orElse, Option.orElse_eq_or, Option.or_eq_some_iff] at found
    rcases found with plain | ⟨-, first⟩
    · exact List.mem_of_find?_eq_some plain
    · exact List.mem_of_head? first
  exact List.mem_filter.mp inside

theorem Sound.overloads (h : r.Sound) (inside : f ∈ r.overloads name) : f.Sound :=
  forall_overloads (P := fun e => ∀ f ∈ e.2, f.Sound) h (by simp) f inside

theorem Sound.lookup (h : r.Sound) {types : List Ty} (found : r.lookup name types = some f) : f.Sound :=
  h.overloads (mem_overloads_of_lookup found).1

end Registry

/-- How a form may fail: with one report, and all variables still stored as their types say. Where it is lax, not all
functions need have been declared, so that it may also break down. -/
def Refused (lax : Prop) (f : Fault) (b : Body) : Prop := b.Sound ∧ (f.Single ∨ lax ∧ f.isUserFault = false)

variable {lax : Prop}

theorem Body.Sound.refused (h : b.Sound) {c : Complaint} {token : Option Token} :
    Refused lax (.complaint c token) b := ⟨h, .inl (Fault.complaint_single c token)⟩

abbrev Result.SoundIn (r : Result) (b : Body) : Prop := b.Sound ∧ r.Sound

section Leaves

variable {b : Body} (sound : b.Sound) {failed : Fault → Body → Prop}

include sound

theorem Build.typed_emitAt (k : Nat) (i : IR.Inst) :
    Meets b (Build.emitAt k i) (fun v c => c.Sound ∧ v.layout = i.layout) failed :=
  .get_bind (.changed_bind (.pure ⟨sound, rfl⟩))

theorem Build.typed_emit (i : IR.Inst) :
    Meets b (Build.emit i) (fun v c => c.Sound ∧ v.layout = i.layout) failed :=
  .get_bind (typed_emitAt sound _ i)

theorem Build.typed_storeAt (k : Nat) {target : Value} (fits : target.layout = .pointer v.layout) :
    Meets b (Build.storeAt k v target) (fun _ c => c.Sound) failed := by
  unfold Build.storeAt
  rw [if_pos fits]
  refine .bind (typed_emitAt sound k _) ?_
  rintro _ c ⟨sound, -⟩
  exact .pure sound

theorem Build.typed_store {target : Value} (fits : target.layout = .pointer v.layout) :
    Meets b (Build.store v target) (fun _ c => c.Sound) failed :=
  .get_bind (typed_storeAt sound _ fits)

theorem Build.typed_layout (there : lax ∨ t.layout ≠ .error .missing) (token : Option Token) :
    Meets b (Build.pinned token (Build.layout t)) (fun l c => c.Sound ∧ t.layout = .ok l) (Refused lax) := by
  refine .pinned ?_
  unfold Build.layout
  split
  · rename_i l laid
    exact .pure ⟨sound, laid⟩
  · rename_i missing
    exact .throw ⟨sound, .inr ⟨there.resolve_right (absurd missing), rfl⟩⟩
  · exact .throw sound.refused

theorem Build.typed_read (n : Node) :
    Meets b (Build.ofReport (Ty.read n)) (fun t c => c.Sound ∧ t.layout ≠ .error .missing) (Refused lax) := by
  have read := Ty.ends_read n
  cases outcome : Ty.read n with
  | error r => exact .throw ⟨sound, .inl (read.error outcome)⟩
  | ok t => exact .pure ⟨sound, Ty.layout_ne_missing (read.ok outcome)⟩

theorem Build.typed_known (h : t ≠ .missing) : Meets b (Build.known t) (fun u c => c.Sound ∧ u = t) failed := by
  unfold Build.known
  rw [if_neg h]
  exact .pure ⟨sound, rfl⟩

theorem Result.typed_getValue (hr : r.Sound) (value : r.type.isVoid = false) :
    Meets b r.getValue (fun v c => c.Sound ∧ r.type.layout = .ok v.layout) failed := by
  obtain ⟨l, laid, holds, -⟩ := hr.holds value
  obtain ⟨k, block⟩ := Option.isSome_iff_exists.mp hr.block
  unfold Result.Holds at holds
  unfold Result.getValue
  split at holds
  · rename_i v produced
    simp only [produced]
    exact .pure ⟨sound, by rw [laid, holds]⟩
  · rename_i slot direct produced
    simp only [produced, laid, block, Build.demand]
    refine .pure_bind (.mono (Build.typed_emitAt sound k _) ?_ fun _ _ h => h)
    rintro v c ⟨sound, layout⟩
    exact ⟨sound, by rw [layout]; rfl⟩
  · exact holds.elim

theorem Result.typed_materialise (hr : r.Sound) (value : r.type.isVoid = false) :
    Meets b r.materialise (fun s c => c.Sound ∧ ∃ a, s = { r with address := some a } ∧
      ∃ l, r.type.layout = .ok l ∧ a.layout = .pointer l) failed := by
  obtain ⟨l, laid, -, stored⟩ := hr.holds value
  obtain ⟨k, block⟩ := Option.isSome_iff_exists.mp hr.block
  unfold Result.materialise
  split
  · rename_i a known
    exact .pure ⟨sound, a, by rw [← known], l, laid, stored a known⟩
  · simp only [Build.layout, laid, block, Build.demand]
    refine .pure_bind (.pure_bind (.bind (Build.typed_emitAt sound k _) ?_))
    rintro address c ⟨sound, layout⟩
    refine .bind (Result.typed_getValue sound hr value) ?_
    rintro v d ⟨sound, same⟩
    have fits : address.layout = .pointer v.layout := by
      rw [laid, Except.ok.injEq] at same
      rw [layout, same]
      rfl
    refine .bind (Build.typed_storeAt sound k fits) ?_
    intro _ e sound
    exact .pure ⟨sound, address, rfl, l, rfl, layout⟩

theorem Result.typed_getAddress (hr : r.Sound) (value : r.type.isVoid = false) :
    Meets b r.getAddress (fun s c => c.Sound ∧ s.Sound ∧ s.type = r.type.pointerTo) failed := by
  refine .bind (Result.typed_materialise sound hr value) ?_
  rintro s c ⟨sound, a, rfl, l, laid, stored⟩
  have type : r.type.pointerTo.layout = .ok a.layout := by rw [stored, Ty.layout_pointerTo laid]
  refine .pure ⟨sound, ⟨hr.block, rfl, .inr ⟨a.layout, ?_, rfl, by simp [setAddressOf, set]⟩⟩, ?_⟩
  · simpa [setAddressOf, set, hr.addressType] using type
  · simp [setAddressOf, set, hr.addressType]

theorem Result.typed_getAddress_void (hr : r.Sound) (void : r.type.isVoid = true) :
    Meets b r.getAddress (fun _ _ => False) fun f c => c.Sound ∧ f = .unsized r.type := by
  have address : r.address = none := by
    rcases hr.value with ⟨-, none⟩ | ⟨l, laid, -⟩
    · exact none
    · simp [Ty.isVoid_of_layout laid] at void
  obtain ⟨m, type⟩ := Ty.eq_of_isVoid void
  have run : r.getAddress b = .error (.unsized r.type) b := by
    simp only [Result.getAddress, Result.materialise, address, type, Build.layout, Ty.layout, Base.bits?]
    rfl
  exact .of_error run ⟨sound, rfl⟩

theorem Result.typed_deliver (hr : r.Sound) (token : Token) (demand : Demand) :
    Meets b (r.deliver token demand) Result.SoundIn (Refused lax) := by
  cases demand with
  | value => exact .pure ⟨sound, hr⟩
  | address =>
    refine .pinned ?_
    cases void : r.type.isVoid with
    | false => exact .mono (Result.typed_getAddress sound hr void) (fun _ _ h => ⟨h.1, h.2.1⟩) fun _ _ h => h
    | true =>
      refine .mono (Result.typed_getAddress_void sound hr void) (fun _ _ h => h.elim) ?_
      rintro f c ⟨sound, rfl⟩
      exact sound.refused

theorem Atom.typed_constant (h : type.layout = .ok (.int type.constantBits)) (n : Int) (token : Token)
    (demand : Demand) :
    Meets b (Atom.constant type n >>= fun r => r.deliver token demand) Result.SoundIn (Refused lax) :=
  .get_bind (Result.typed_deliver sound (Result.sound_ofValue h _) token demand)

theorem Atom.typed_reference (token : Token) (demand : Demand) :
    Meets b (Atom.reference token demand) Result.SoundIn (Refused lax) := by
  refine .get_bind ?_
  split
  · exact .complain sound.refused
  · rename_i v found
    obtain ⟨l, laid, stored⟩ := sound.find? found
    cases demand with
    | address =>
      have type : v.type.pointerTo.layout = .ok v.storage.layout := by rw [stored, Ty.layout_pointerTo laid]
      exact .get_bind (.pure ⟨sound, Result.sound_ofValue type _⟩)
    | value =>
      refine .bind (Build.typed_layout sound (by simp [laid]) _) ?_
      rintro k c ⟨sound, same⟩
      obtain rfl : l = k := Except.ok.inj (laid.symm.trans same)
      refine .bind (Build.typed_emit sound _) ?_
      rintro loaded d ⟨sound, layout⟩
      exact .get_bind (.pure ⟨sound, Result.sound_stored laid layout stored _⟩)

theorem Atom.typed_compile (token : Token) (demand : Demand) :
    Meets b (Atom.compile token demand) Result.SoundIn (Refused lax) := by
  unfold Atom.compile
  split
  · split
    · exact Atom.typed_constant sound rfl _ _ _
    · exact .complain sound.refused
  · exact Atom.typed_constant sound rfl _ _ _
  · exact Atom.typed_constant sound rfl _ _ _
  · exact Atom.typed_reference sound _ _
  · exact .complain sound.refused

theorem Call.typed_values (head : Token) (position : Nat) {args : List (Token × Result)}
    (each : ∀ a ∈ args, a.2.Sound) : Meets b (Call.values head position args) (fun _ c => c.Sound) (Refused lax) := by
  induction args generalizing position b with
  | nil => exact .pure sound
  | cons a rest ih =>
    obtain ⟨token, r⟩ := a
    have others : ∀ a ∈ rest, a.2.Sound := fun a inside => each a (List.mem_cons_of_mem _ inside)
    simp only [Call.values]
    refine .ite (fun _ => .complain_bind sound.refused) fun value => ?_
    simp only [Bool.or_eq_true, not_or, Bool.not_eq_true] at value
    refine .bind (Result.typed_getValue sound (each _ List.mem_cons_self) value.2) ?_
    rintro v c ⟨sound, -⟩
    refine .bind (ih sound (position + 1) others) ?_
    intro vs d sound
    exact .pure sound

theorem Call.typed_symbol {callee : Function} (known : lax ∨ callee.Sound) :
    Meets b (Call.symbol callee) (fun _ c => c.Sound) (Refused lax) := by
  unfold Call.symbol
  split
  · exact .pure sound
  · rename_i missing
    refine .breakDown ⟨sound, .inr ⟨known.resolve_right fun known => ?_, rfl⟩⟩
    simpa [missing] using known.declared

theorem Call.typed_emit (call : Invocation) {callee : Function} (known : lax ∨ callee.Sound) {args : List Result}
    (each : ∀ r ∈ args, r.Sound) (demand : Demand) :
    Meets b (Call.emit call callee args demand) Result.SoundIn (Refused lax) := by
  have zipped : ∀ a ∈ call.tokens.zip args, a.2.Sound := fun a inside => each a.2 (List.of_mem_zip inside).2
  unfold Call.emit
  refine .bind (Call.typed_values sound _ _ zipped) ?_
  intro vs c sound
  refine .bind (Call.typed_symbol sound known) ?_
  intro n c sound
  refine .ite (fun slot => ?_) fun none => .ite (fun _ => ?_) fun value => ?_
  · have there : lax ∨ callee.returnType.unmark.layout ≠ .error .missing := by
      refine known.imp_right fun known => ?_
      obtain ⟨l, laid⟩ := known.slot slot
      simp [laid]
    refine .bind (Build.typed_layout sound there _) ?_
    rintro k c ⟨sound, same⟩
    refine .bind (Build.typed_emit sound _) ?_
    rintro place c ⟨sound, layout⟩
    refine .bind (Build.typed_emit sound _) ?_
    rintro _ c ⟨sound, -⟩
    exact .get_bind (Result.typed_deliver sound (Result.sound_slot same layout _) _ _)
  · refine .bind (Build.typed_emit sound _) ?_
    rintro _ c ⟨sound, -⟩
    exact .get_bind (Result.typed_deliver sound (Result.sound_void _) _ _)
  · have there : lax ∨ callee.returnType.layout ≠ .error .missing := by
      refine known.imp_right fun known => ?_
      obtain ⟨l, laid⟩ := known.returned (by simpa using none) (by simpa using value)
      simp [laid]
    refine .bind (Build.typed_layout sound there _) ?_
    rintro k c ⟨sound, same⟩
    refine .bind (Build.typed_emit sound _) ?_
    rintro v c ⟨sound, layout⟩
    have type : callee.returnType.layout = .ok v.layout := by rw [same, layout]; rfl
    exact .get_bind (Result.typed_deliver sound (Result.sound_ofValue type _) _ _)

theorem Pointer.typed_widen (type : Ty) (v : Value) :
    Meets b (Pointer.widen type v) (fun _ c => c.Sound) failed := by
  have emitted (i : IR.Inst) : Meets b (Build.emit i) (fun _ c => c.Sound) failed :=
    .mono (Build.typed_emit sound i) (fun _ _ h => h.1) fun _ _ h => h
  unfold Pointer.widen
  refine .ite (fun _ => .pure sound) fun _ => .ite (fun _ => emitted _) fun _ => ?_
  split
  · exact .pure sound
  · exact emitted _

theorem Pointer.typed_element (like : type.isPointerLike = true) (token : Token) :
    Meets b (Pointer.element type.decay token) (fun l c => c.Sound ∧ ∃ t, type.pointee? = some t ∧ t.layout = .ok l)
      (Refused lax) := by
  obtain ⟨t, pointee⟩ := Option.isSome_iff_exists.mp like
  simp only [Pointer.element, Ty.pointee?_decay, pointee, Build.demand]
  refine .pure_bind ?_
  split
  · rename_i l laid
    exact .pure ⟨sound, t, rfl, laid⟩
  · exact .complain sound.refused

theorem Pointer.typed_base (hr : r.Sound) (pointee : r.type.pointee? = some t) (laid : t.layout = .ok l) :
    Meets b (Pointer.base r) (fun v c => c.Sound ∧ v.layout = .pointer l) failed := by
  have value := Ty.isVoid_of_pointee? pointee
  unfold Pointer.base
  refine .bind (Build.typed_known sound hr.known) ?_
  rintro type c ⟨sound, rfl⟩
  rcases Ty.isPointer_or_array pointee with ⟨pointer, decay⟩ | ⟨array, n, m, same⟩
  · simp only [pointer, if_true]
    refine .mono (Result.typed_getValue sound hr value) ?_ fun _ _ h => h
    rintro v c ⟨sound, type⟩
    have whole := Ty.layout_decay pointee laid
    rw [decay, type] at whole
    exact ⟨sound, Except.ok.inj whole⟩
  · simp only [array, Bool.false_eq_true, if_false]
    obtain ⟨whole, known, -⟩ := hr.holds value
    have element : whole.element = l := by
      obtain ⟨k, inner, element⟩ := Ty.layout_of_array (same ▸ known)
      rw [element]
      exact Except.ok.inj (inner.symm.trans laid)
    refine .bind (Result.typed_getAddress sound hr value) ?_
    rintro address c ⟨sound, ha, type⟩
    obtain ⟨k, block⟩ := Option.isSome_iff_exists.mp ha.block
    simp only [Build.layout, known, block, Build.demand]
    refine .pure_bind (.bind (Result.typed_getValue sound ha (by rw [type]; rfl)) ?_)
    rintro v d ⟨sound, -⟩
    refine .pure_bind (.mono (Build.typed_emitAt sound k _) ?_ fun _ _ h => h)
    rintro w e ⟨sound, layout⟩
    exact ⟨sound, by rw [layout, ← element]; rfl⟩

theorem Control.typed_finish (t : IR.Term) :
    Meets b (Control.finish t) Result.SoundIn failed :=
  .of_ok rfl ⟨sound, ⟨rfl, rfl, .inl ⟨rfl, rfl⟩⟩⟩

theorem Control.typed_labelName (form : String) (operand : Operand) :
    Meets b (Control.labelName form operand) (fun _ c => c.Sound) (Refused lax) := by
  unfold Control.labelName
  split
  · exact .pure sound
  · exact .complain sound.refused

theorem Control.typed_compileLabel (operand : Operand) :
    Meets b (Control.compileLabel operand) Result.SoundIn (Refused lax) := by
  refine .bind (Control.typed_labelName sound _ _) ?_
  intro name c sound
  refine .get_bind (.ite (fun _ => .complain_bind sound.refused) fun _ => ?_)
  refine .changed_bind (.get_bind (.pure ⟨?_, Result.sound_void _⟩))
  rw [Body.Sound, Body.env_startLabel]
  exact sound

theorem Control.typed_compileGoto (operand : Operand) :
    Meets b (Control.compileGoto operand) Result.SoundIn (Refused lax) := by
  refine .bind (Control.typed_labelName sound _ _) ?_
  intro name c sound
  refine .get_bind ?_
  split
  · exact Control.typed_finish sound _
  · exact .of_ok rfl ⟨sound, ⟨rfl, rfl, .inl ⟨rfl, rfl⟩⟩⟩

theorem Control.typed_returnValue {fn : Function} (fits : fn.returnType.unmark.layout = .ok v.layout) :
    Meets b (Control.returnValue fn v) (fun _ c => c.Sound) failed := by
  unfold Control.returnValue
  refine .ite (fun _ => ?_) fun _ => .pure sound
  simp only [Build.layout, fits]
  refine .pure_bind (.bind (Build.typed_store sound rfl) ?_)
  intro _ c sound
  exact .pure sound

theorem Body.typed_enterParams (i : Nat) {ps : List Parameter}
    (each : lax ∨ ∀ t ∈ (ps.map (·.type)).takeWhile (!·.isVariadic), ∃ l, t.layout = .ok l) :
    Meets b (Body.enterParams i ps) (fun _ c => c.Sound) (Refused lax) := by
  induction ps generalizing b i with
  | nil => exact .pure sound
  | cons p ps ih =>
    refine .ite (fun _ => .pure sound) fun plain => ?_
    simp only [Bool.not_eq_true] at plain
    simp only [List.map_cons, List.takeWhile_cons, plain, Bool.not_false, if_true, List.forall_mem_cons] at each
    have there : lax ∨ p.type.layout ≠ .error .missing := by
      refine each.imp_right fun each => ?_
      obtain ⟨l, laid⟩ := each.1
      simp [laid]
    refine .bind (Build.typed_layout sound there _) ?_
    rintro k c ⟨sound, same⟩
    refine .bind (Build.typed_emit sound _) ?_
    rintro storage c ⟨sound, layout⟩
    refine .bind (Build.typed_store sound layout) ?_
    intro _ c sound
    have entered : Body.Sound { c with env := c.env.add p.name ⟨p.type, storage⟩ } :=
      sound.add ⟨k, same, layout⟩
    exact .changed_bind (ih entered (i + 1) (each.imp_right And.right))

end Leaves

structure Context.Sound (ctx : Context) : Prop where
  registry : ctx.registry.Sound
  function : ctx.function.Sound

/-- What every form owes where variables are stored as their types say: a sound result or a report. -/
def Contract.typing (lax : Prop) : Contract where
  start := Body.Sound
  done _ := Result.SoundIn
  failed _ := Refused lax

section Forms

variable {ctx : Context} (known : lax ∨ ctx.Sound) {b : Body} (sound : b.Sound) {t : Twin} {ts : List Twin}
  (paren head : Token) (demand : Demand)

section Operands

variable (kept : ∀ t ∈ ts, (Contract.typing lax).Kept t)

include sound kept

theorem Operand.typed_compileAll :
    Twin.Agree b (fun side => Operand.compileAll (ts.map side))
      (fun rs c => c.Sound ∧ ∀ r ∈ rs, r.Sound) (Refused lax) := by
  induction ts generalizing b with
  | nil => exact .of_meets (.pure ⟨sound, by simp⟩)
  | cons t ts ih =>
    refine .bind (kept t List.mem_cons_self .value b sound) ?_
    rintro r c ⟨sound, hr⟩
    refine .bind (ih sound fun t inside => kept t (List.mem_cons_of_mem _ inside)) ?_
    rintro rs d ⟨sound, others⟩
    exact .of_meets (.pure ⟨sound, List.forall_mem_cons.mpr ⟨hr, others⟩⟩)

theorem Operand.typed_compileSequence :
    Twin.Agree b (fun side => Operand.compileSequence (ts.map side)) Result.SoundIn (Refused lax) := by
  induction ts generalizing b with
  | nil => exact .of_meets (.get_bind (.pure ⟨sound, Result.sound_void _⟩))
  | cons t ts ih =>
    have first := kept t List.mem_cons_self .value b sound
    cases ts with
    | nil => exact first
    | cons u us =>
      refine .bind first ?_
      rintro r c ⟨sound, -⟩
      exact ih sound fun t inside => kept t (List.mem_cons_of_mem _ inside)

theorem Pointer.typed_offsets (us : List Twin) (subtract : Bool) (element : Layout)
    (position : Nat) {pointer : Value} (fits : pointer.layout = .pointer element) :
    Twin.Agree b (fun side => Pointer.offsets ⟨paren, head, us.map side⟩ subtract element position (ts.map side)
      pointer) (fun v c => c.Sound ∧ v.layout = .pointer element) (Refused lax) := by
  induction ts generalizing b position pointer with
  | nil => exact .of_meets (.pure ⟨sound, fits⟩)
  | cons t ts ih =>
    have others := fun t inside => kept t (List.mem_cons_of_mem _ inside)
    refine .bind (kept t List.mem_cons_self .value b sound) ?_
    rintro r c ⟨sound, hr⟩
    refine .after (Build.typed_known sound hr.known) ?_
    rintro type c ⟨sound, rfl⟩
    refine .ite (fun _ => .complain_bind sound.refused) fun integral => ?_
    have value : r.type.isVoid = false := Ty.isVoid_of_isIntegral (by simpa using integral)
    refine .after (Result.typed_getValue sound hr value) ?_
    rintro v c ⟨sound, -⟩
    refine .after (Pointer.typed_widen sound r.type v) ?_
    intro w c sound
    refine .ite (fun _ => ?_) fun _ => ?_
    · refine .after (Build.typed_emit sound _) ?_
      rintro by_ c ⟨sound, -⟩
      refine .after (Build.typed_emit sound _) ?_
      rintro next c ⟨sound, layout⟩
      exact ih sound others _ layout
    · refine .pure_bind (.after (Build.typed_emit sound _) ?_)
      rintro next c ⟨sound, layout⟩
      exact ih sound others _ layout

theorem Pointer.typed_compileOffset (subtract : Bool) :
    Twin.Agree b (fun side => Pointer.compileOffset ⟨paren, head, ts.map side⟩ subtract demand)
      Result.SoundIn (Refused lax) := by
  unfold Pointer.compileOffset
  match ts with
  | [] => exact .complain sound.refused
  | [_] => exact .complain sound.refused
  | t :: u :: us =>
    have others : ∀ v ∈ u :: us, (Contract.typing lax).Kept v := fun v inside =>
      kept v (List.mem_cons_of_mem _ inside)
    refine .bind (kept t List.mem_cons_self .value b sound) ?_
    rintro r c ⟨sound, hr⟩
    refine .after (Build.typed_known sound hr.known) ?_
    rintro type c ⟨sound, rfl⟩
    refine .ite (fun _ => .complain_bind sound.refused) fun like => ?_
    refine .after (Pointer.typed_element sound (by simpa using like) _) ?_
    rintro element c ⟨sound, pointee, points, laid⟩
    refine .after (.pinned (.mono (Pointer.typed_base sound hr points laid) (fun _ _ h => h) fun _ _ h => h)) ?_
    rintro pointer c ⟨sound, layout⟩
    refine .bind (Pointer.typed_offsets sound paren head others (t :: u :: us) subtract element 1 layout) ?_
    rintro v c ⟨sound, layout⟩
    have type : r.type.decay.layout = .ok v.layout := by rw [layout, Ty.layout_decay points laid]
    exact .of_meets (.get_bind (Result.typed_deliver sound (Result.sound_ofValue type _) _ _))

theorem Variable.typed_compileScope :
    Twin.Agree b (fun side => Variable.compileScope (ts.map side)) Result.SoundIn (Refused lax) := by
  have entered : Body.Sound { b with env := b.env.enter } := sound.enter
  refine .inScope (.mono (Operand.typed_compileSequence entered kept) ?_ ?_)
  · rintro r c ⟨sound, hr⟩
    exact ⟨sound.backTo _, hr⟩
  · rintro f c ⟨sound, proper⟩
    exact ⟨sound.backTo _, proper⟩

end Operands

section Operand

variable (kept : (Contract.typing lax).Kept t)

include sound kept

theorem Pointer.typed_compileAddressOf (us : List Twin) :
    Twin.Agree b (fun side => Pointer.compileAddressOf ⟨paren, head, us.map side⟩ (side t) demand)
      Result.SoundIn (Refused lax) := by
  refine .bind (kept .address b sound) ?_
  rintro r c ⟨sound, hr⟩
  exact .of_meets (Result.typed_deliver sound hr _ _)

theorem Pointer.typed_compileDereference :
    Twin.Agree b (fun side => Pointer.compileDereference (side t) demand) Result.SoundIn (Refused lax) := by
  refine .bind (kept .value b sound) ?_
  rintro r c ⟨sound, hr⟩
  refine .of_meets (.bind (Build.typed_known sound hr.known) ?_)
  rintro type c ⟨sound, rfl⟩
  dsimp only
  split
  · rename_i pointee m type
    have value : r.type.isVoid = false := by rw [type]; rfl
    refine .bind (Result.typed_getValue sound hr value) ?_
    rintro address c ⟨sound, layout⟩
    cases demand with
    | address => exact .get_bind (.pure ⟨sound, Result.sound_ofValue layout _⟩)
    | value =>
      rw [type] at layout
      have points := Ty.layout_of_pointer layout
      refine .bind (Build.typed_layout sound (.inr (Ty.layout_ne_missing_of_pointer layout)) _) ?_
      rintro l c ⟨sound, laid⟩
      refine .bind (Build.typed_emit sound _) ?_
      rintro v c ⟨sound, loaded⟩
      have stored : address.layout = .pointer l := by
        rcases points with void | ⟨k, same, stored⟩
        · simp [Ty.isVoid_of_layout laid] at void
        · rw [stored, Except.ok.inj (same.symm.trans laid)]
      exact .get_bind (.pure ⟨sound, Result.sound_stored laid loaded stored _⟩)
  · exact .complain sound.refused

theorem Variable.typed_initialise (name : String) {storage : Value} (laid : type.layout = .ok l)
    (stored : storage.layout = .pointer l) :
    Twin.Agree b (fun side => Variable.initialise name type storage (side t)) (fun _ c => c.Sound) (Refused lax) := by
  refine .bind (kept .value b sound) ?_
  rintro r c ⟨sound, hr⟩
  refine .of_meets (.ite (fun _ => .complain_bind sound.refused) fun same => ?_)
  obtain rfl : r.type = type := by simpa using same
  refine .bind (Result.typed_getValue sound hr (Ty.isVoid_of_layout laid)) ?_
  rintro v c ⟨sound, layout⟩
  have fits : l = v.layout := Except.ok.inj (laid.symm.trans layout)
  exact Build.typed_store sound (by rw [stored, fits])

end Operand

theorem Variable.typed_declare (sound : b.Sound) (name type : Twin) (init : Option Twin)
    (kept : ∀ t ∈ init, (Contract.typing lax).Kept t) :
    Twin.Agree b (fun side => Variable.declare (side name) (side type) (init.map side))
      Result.SoundIn (Refused lax) := by
  simp only [Twin.Agree, Variable.declare, Twin.left, Twin.right]
  cases name.node.symbol? with
  | none => exact .complain sound.refused
  | some x =>
    refine .after (Build.typed_read sound _) ?_
    rintro declared c ⟨sound, there⟩
    refine .after (Build.typed_layout sound (.inr there) _) ?_
    rintro l c ⟨sound, laid⟩
    refine .after (Build.typed_emit sound _) ?_
    rintro storage c ⟨sound, layout⟩
    have bound (c : Body) (sound : c.Sound) : Body.Sound { c with env := c.env.add x ⟨declared, storage⟩ } :=
      sound.add ⟨l, laid, layout⟩
    cases init with
    | none => exact .of_meets (.changed_bind (.get_bind (.pure ⟨bound _ sound, Result.sound_void _⟩)))
    | some t =>
      refine .bind (Variable.typed_initialise sound (kept t rfl) x laid layout) ?_
      intro _ c sound
      exact .of_meets (.changed_bind (.get_bind (.pure ⟨bound _ sound, Result.sound_void _⟩)))

section Operands

variable (kept : ∀ t ∈ ts, (Contract.typing lax).Kept t)

include sound kept

theorem Variable.typed_compile :
    Twin.Agree b (fun side => Variable.compile ⟨paren, head, ts.map side⟩) Result.SoundIn (Refused lax) := by
  match ts with
  | [] => exact .complain sound.refused
  | [_] => exact .complain sound.refused
  | [name, type] => exact Variable.typed_declare sound name type none (by simp)
  | [name, type, init] =>
    exact Variable.typed_declare sound name type (some init) (by simpa using kept init (by simp))
  | t :: u :: v :: w :: us =>
    simp only [Variable.compile, List.map_cons, List.length_cons, List.length_map]
    exact .complain sound.refused

theorem Control.typed_compileReturn (ctx : Context) :
    Twin.Agree b (fun side => Control.compileReturn ctx ⟨paren, head, ts.map side⟩) Result.SoundIn (Refused lax) := by
  match ts with
  | [] =>
    refine .of_meets (.ite (fun _ => .complain_bind sound.refused) fun _ => ?_)
    exact Control.typed_finish sound _
  | [t] =>
    refine .bind (kept t List.mem_cons_self .value b sound) ?_
    rintro r c ⟨sound, hr⟩
    refine .of_meets (.ite (fun _ => .complain_bind sound.refused) fun same => ?_)
    simp only [Bool.or_eq_true, not_or, Bool.not_eq_true, bne_eq_false_iff_eq] at same
    obtain ⟨type, value⟩ := same
    refine .bind (Result.typed_getValue sound hr (by rw [type]; exact value)) ?_
    rintro v c ⟨sound, layout⟩
    refine .bind (Control.typed_returnValue sound (by rw [← type]; exact layout)) ?_
    intro t c sound
    exact Control.typed_finish sound _
  | t :: u :: us =>
    simp only [Control.compileReturn, List.map_cons, List.length_cons, List.length_map]
    exact .complain sound.refused

theorem Builtin.typed_compile (ctx : Context) (form : Builtin) :
    Twin.Agree b (fun side => form.compile ctx ⟨paren, head, ts.map side⟩ demand) Result.SoundIn (Refused lax) := by
  refine Builtin.agree_compile_of (fun _ _ => sound.refused) form
    (fun r c h => .of_meets (Result.typed_deliver h.1 h.2 _ _))
    (fun subtract => Pointer.typed_compileOffset sound paren head demand kept subtract)
    (Operand.typed_compileSequence sound kept) (Variable.typed_compileScope sound kept)
    (Variable.typed_compile sound paren head kept) (Control.typed_compileReturn sound paren head kept ctx) ?_
  rintro t rfl
  have single := kept t List.mem_cons_self
  exact ⟨Pointer.typed_compileAddressOf sound paren head demand single [t],
    Pointer.typed_compileDereference sound demand single,
    .of_meets (Control.typed_compileLabel sound t.left), .of_meets (Control.typed_compileGoto sound t.left)⟩

include known

theorem Call.typed_compile :
    Twin.Agree b (fun side => Call.compile ctx ⟨paren, head, ts.map side⟩ demand) Result.SoundIn (Refused lax) := by
  unfold Call.compile
  refine .bind (Operand.typed_compileAll sound kept) ?_
  rintro rs c ⟨sound, each⟩
  dsimp only
  split
  · rename_i callee found
    rw [Twin.emit_eq]
    exact .of_meets (Call.typed_emit sound _ (known.imp_right (·.registry.lookup found)) each _)
  · exact .of_meets (.complain sound.refused)

theorem Form.typed_compileShared (form : Builtin) :
    Twin.Agree b (fun side => Form.compileShared ctx ⟨paren, head, ts.map side⟩ demand form)
      Result.SoundIn (Refused lax) := by
  have tried : Twin.Agree b (fun side => Build.attempt (Operand.compileAll (ts.map side)))
    (fun args c => c.Sound ∧ ∀ rs ∈ args, ∀ r ∈ rs, r.Sound) (Refused lax) := by
    refine .attempt (.mono (Operand.typed_compileAll sound kept) ?_ ?_)
    · rintro rs c ⟨sound, each⟩
      exact ⟨sound, by simpa using each⟩
    · rintro f c ⟨sound, proper⟩
      split
      · exact ⟨sound, by simp⟩
      · exact ⟨sound, proper⟩
  unfold Form.compileShared
  refine .get_bind (.bind tried ?_)
  rintro args c ⟨after, each⟩
  dsimp only
  split
  · rename_i rs callee fits
    obtain ⟨compiled, found⟩ := Form.fitting_eq_some fits
    rw [Twin.emit_eq]
    exact .of_meets (Call.typed_emit after _ (known.imp_right (·.registry.lookup found)) (each rs compiled) _)
  · exact .changed_bind (Builtin.typed_compile (sound.rollback after) paren head demand kept ctx form)

theorem Form.typed_compileList :
    Twin.Agree b (fun side => Form.compileList ctx paren (ts.map side) demand) Result.SoundIn (Refused lax) := by
  refine Form.agree_compileList_of (fun _ _ => sound.refused) fun t us split head => ?_
  have others : ∀ t ∈ us, (Contract.typing lax).Kept t := fun t inside => kept t (split ▸ List.mem_cons_of_mem _ inside)
  exact ⟨fun form => Builtin.typed_compile sound paren head demand others ctx form,
    Call.typed_compile known sound paren head demand others,
    fun form => Form.typed_compileShared known sound paren head demand others form⟩

end Operands

end Forms

theorem Contract.typing_inductive (known : lax ∨ ctx.Sound) : (Contract.typing lax).Inductive ctx where
  atom token demand _ sound := Atom.typed_compile sound token demand
  list paren _ demand _ kept sound := Form.typed_compileList known sound paren demand kept

/-- Asks of every form that variables are stored as their types say where it begins, and that it leaves a
sound result or a proper report. -/
def Monitor.typing (alarm : Fault) : Monitor where
  before b := b.Sound
  after _ r c := c.Sound ∧ r.Sound
  failing f := f.Proper
  alarm

theorem Refused.proper {f : Fault} (h : Refused False f b) : f.Proper :=
  (h.2.resolve_right And.left).proper

theorem Contract.typing_grants (alarm : Fault) : (Contract.typing False).Grants (Monitor.typing alarm) where
  before _ sound := decide_eq_true sound
  after _ _ _ _ done := decide_eq_true done
  failing _ _ _ _ refused := decide_eq_true refused.proper

theorem Body.refused_fill (known : lax ∨ ctx.Sound) {m : Monitor} (grants : (Contract.typing lax).Grants m)
    (forms : List Node) :
    Agree {} (Body.fill ctx (Form.operands ctx forms)) (Body.fill ctx (Form.operandsUnder m ctx forms))
      (fun _ c => c.Sound) (Refused lax) := by
  have empty : (({} : Body).startBlock "entry").Sound := by decide
  have kept := Form.kept_twins (Contract.typing_inductive known) grants forms
  rw [Form.operands_eq_left (m := m), Form.operandsUnder_eq_right]
  refine .changed_bind (.after (Body.typed_enterParams empty 0 (known.imp_right (·.function.params))) ?_)
  intro _ c sound
  refine .bind (Operand.typed_compileSequence sound kept) ?_
  rintro r d ⟨sound, -⟩
  exact .of_meets (.pure sound)

theorem Body.typed_fill (known : ctx.Sound) (forms : List Node) (alarm : Fault) :
    Agree {} (Body.fill ctx (Form.operands ctx forms))
      (Body.fill ctx (Form.operandsUnder (Monitor.typing alarm) ctx forms)) (fun _ c => c.Sound) (Refused False) :=
  Body.refused_fill (.inr known) (Contract.typing_grants alarm) forms

theorem Body.ends_compile_of {forms : List Node} {failed : Fault → Prop}
    (filled : Meets {} (Body.fill ctx (Form.operands ctx forms)) (fun _ _ => True) fun f _ => failed f)
    (missing : ∀ first more, (∀ r ∈ first :: more, ∃ label name token,
      r = (Complaint.gotoUndefined label name).report token) → failed (.reported first more)) :
    Ends (Body.compile ctx forms) (fun _ => True) failed := by
  have built : Meets {} (Body.build ctx forms) (fun _ _ => True) fun f _ => failed f := by
    refine .bind filled fun _ c _ => .bind (.mono (Body.meets_settleGotos c ctx.name) (fun _ _ h => h) ?_) ?_
    · rintro f d ⟨g, gs, -, rfl⟩
      refine missing _ _ (List.forall_mem_cons.mpr ⟨⟨_, _, _, rfl⟩, fun r inside => ?_⟩)
      obtain ⟨h, -, rfl⟩ := List.mem_map.mp inside
      exact ⟨_, _, _, rfl⟩
    · exact fun _ _ _ => .changed trivial
  unfold Body.compile
  split
  · trivial
  · rename_i run
    exact built.error run

theorem Body.ends_compile (known : ctx.Sound) (forms : List Node) :
    Ends (Body.compile ctx forms) (fun _ => True) Fault.Proper := by
  have filled := (Body.typed_fill known forms (.broken .incomplete)).2
  refine Body.ends_compile_of (filled.mono (fun _ _ _ => trivial) fun _ _ refused => refused.proper) ?_
  intro first more each
  refine List.forall_mem_cons.mp fun r inside => ?_
  obtain ⟨_, _, _, rfl⟩ := each r inside
  exact Complaint.report_proper _ _

end FormCompiler
