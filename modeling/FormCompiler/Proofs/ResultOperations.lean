import FormCompiler.Bench.Basic
import FormCompiler.Proofs.Emission

namespace FormCompiler

open Build (Meets)
open IR (Inst Layout Value)

namespace Body

/-- A value whose instruction, if it has one, is there. -/
def Has (b : Body) : Value → Prop
  | .inst p _ => (b.inst? p).isSome = true
  | _ => True

theorem Has.mono {b c : Body} {v : Value} (h : b.Has v) (retains : b.Retains c) : c.Has v := by
  cases v with
  | const | param => trivial
  | inst p l =>
    obtain ⟨i, there⟩ := Option.isSome_iff_exists.mp h
    exact Option.isSome_iff_exists.mpr ⟨i, retains.insts p i there⟩

theorem not_has_nextPlace (b : Body) (k : Nat) (l : Layout) : ¬b.Has (.inst (b.nextPlace k) l) := by
  intro has
  obtain ⟨i, there⟩ := Option.isSome_iff_exists.mp has
  exact Nat.lt_irrefl _ (index_lt_of_inst? there).2

theorem has_append {b : Body} {k : Nat} (inside : k < b.blocks.size) (i : Inst) (l : Layout) :
    (b.append k i).Has (.inst (b.nextPlace k) l) := by
  show Option.isSome _ = true
  rw [inst?_append inside, if_pos rfl]
  rfl

theorem retains_blockNamed (b : Body) (name : String) :
    b.Retains (b.blockNamed name).1 ∧ (b.blockNamed name).2 < (b.blockNamed name).1.blocks.size := by
  unfold blockNamed
  split
  · rename_i n found
    obtain ⟨inside, -⟩ := Array.findIdx?_eq_some_iff_getElem.mp found
    exact ⟨.refl b, inside⟩
  · exact ⟨⟨by simp, by simp⟩, by simp⟩

end Body

theorem Build.retains_storeAt (k : Nat) (v target : Value) (b : Body) :
    Meets b (Build.storeAt k v target) (fun _ c => b.Retains c) fun _ c => b.Retains c :=
  .ite (fun _ => Body.retains_append b k (.store v target)) fun _ => Body.Retains.refl b

namespace Result

section Set

variable (r : Result) (block : Option Nat) (type : Ty) (v : Option Value)

theorem slot?_set : (r.set block type v).slot? = r.slot? := by
  unfold set slot?
  cases r.produced <;> cases v <;> rfl

theorem hasSlot_set : (r.set block type v).hasSlot = r.hasSlot := by
  unfold set hasSlot
  cases r.produced <;> cases v <;> rfl

theorem value_set : (r.set block type v).value = v := by
  unfold set value
  cases r.produced <;> cases v <;> rfl

end Set

variable {r : Result} {b c : Body} {a v : Value}

/-- How the value of a result is got: it is at hand, or it is loaded from the slot. -/
inductive Reads (r : Result) (b : Body) : Value → Body → Prop
  | direct {v : Value} (none : r.slot? = none) (value : r.value = some v) : Reads r b v b
  | loaded {slot : Value} {n : Nat} {l : Layout} (held : r.slot? = some slot) (block : r.block = some n)
    (laid : r.type.layout = .ok l) : Reads r b (.inst (b.nextPlace n) l) (b.append n (.load l slot))

theorem reads_getValue (r : Result) (b : Body) : Meets b r.getValue (r.Reads b) fun _ c => c = b := by
  unfold getValue
  split
  · rename_i slot direct produced
    split
    · rename_i l laid
      cases block : r.block with
      | none => exact .breakDown rfl
      | some n => exact .pure_bind (Reads.loaded (by simp [slot?, produced]) block laid)
    · exact .breakDown rfl
    · exact .throw rfl
  · rename_i v produced
    exact .pure (.direct (by simp [slot?, produced]) (by simp [value, produced]))
  · rename_i v produced
    exact .pure (.direct (by simp [slot?, produced]) (by simp [value, produced]))
  · exact .throw rfl

theorem getValue_eq_ok_iff : r.getValue b = .ok v c ↔ r.Reads b v c := by
  refine ⟨(r.reads_getValue b).ok, fun reads => ?_⟩
  cases reads with
  | direct none value =>
    cases produced : r.produced with
    | nothing => simp [Result.value, produced] at value
    | direct w =>
      obtain rfl : w = v := by simpa [Result.value, produced] using value
      simp only [getValue, produced]
      rfl
    | slot s direct =>
      obtain rfl : s = Option.none := by simpa [slot?, produced] using none
      obtain rfl : direct = some v := by simpa [Result.value, produced] using value
      simp only [getValue, produced]
      rfl
  | @loaded slot _ _ held block laid =>
    cases produced : r.produced with
    | nothing | direct => simp [slot?, produced] at held
    | slot s direct =>
      obtain rfl : s = some slot := by simpa [slot?, produced] using held
      simp only [getValue, produced, laid, block]
      rfl

theorem Reads.slot?_eq_none (h : r.Reads b v c) (has : b.Has v) : r.slot? = none := by
  cases h with
  | direct none => exact none
  | loaded => exact absurd has (b.not_has_nextPlace _ _)

theorem retains_getValue (r : Result) (b : Body) :
    Meets b r.getValue (fun _ c => b.Retains c) fun _ c => b.Retains c := by
  refine .mono (r.reads_getValue b) (fun v c reads => ?_) fun _ c same => same ▸ .refl b
  cases reads with
  | direct => exact .refl b
  | loaded => exact Body.retains_append b _ _

theorem exists_reads_iff {l : Layout} (laid : r.type.layout = .ok l) (b : Body) :
    (∃ v c, r.Reads b v c) ↔ r.slot? = none ∧ r.value ≠ none ∨ r.slot? ≠ none ∧ r.block ≠ none := by
  constructor
  · rintro ⟨v, c, reads⟩
    cases reads with
    | direct none value => exact .inl ⟨none, by simp [value]⟩
    | loaded held block => exact .inr ⟨by simp [held], by simp [block]⟩
  · rintro (⟨none, value⟩ | ⟨held, block⟩)
    · obtain ⟨v, value⟩ := Option.ne_none_iff_exists'.mp value
      exact ⟨v, b, .direct none value⟩
    · obtain ⟨slot, held⟩ := Option.ne_none_iff_exists'.mp held
      obtain ⟨n, block⟩ := Option.ne_none_iff_exists'.mp block
      exact ⟨_, _, .loaded held block laid⟩

/-- Whether there is a value is told wrongly only where an empty slot hides it, or where a slot is to be read without a
block to load into. -/
theorem hasValue_iff_reads {l : Layout} (laid : r.type.layout = .ok l) (b : Body) :
    (r.hasValue = true ↔ ∃ v c, r.Reads b v c) ↔
      ¬(r.hasSlot = true ∧ r.slot? = none ∧ r.value ≠ none) ∧ ¬(r.slot? ≠ none ∧ r.block = none) := by
  rw [exists_reads_iff laid]
  cases produced : r.produced with
  | nothing | direct => simp [hasValue, hasSlot, slot?, value, produced]
  | slot s direct => cases s <;> simp [hasValue, hasSlot, slot?, value, produced]

/-- The block and the address of a result are there. -/
structure Rests (r : Result) (b : Body) : Prop where
  block : ∀ n ∈ r.block, n < b.blocks.size
  address : ∀ a ∈ r.address, b.Has a

theorem Rests.mono (h : r.Rests b) (retains : b.Retains c) : r.Rests c :=
  ⟨fun n here => Nat.lt_of_lt_of_le (h.block n here) retains.size, fun a here => (h.address a here).mono retains⟩

/-- What a slot holds can be loaded into the block of a result. -/
def Loads (r : Result) : Prop := r.block ≠ none ∧ ∃ l, r.type.layout = .ok l

/-- There is a slot behind what looks like one, and only what was never set is without a block. -/
structure Ordinary (r : Result) : Prop where
  slot : r.hasSlot = true → r.slot? ≠ none
  block : r.block = none → r.type = .missing ∧ r.address = none

def withAddress (r : Result) (a : Value) : Result := { r with address := some a }

/-- The value of a result is stored at `a`, where it was already or where it has been put. -/
inductive StoredAt (r : Result) (b : Body) (a : Value) : Body → Prop
  | before (address : r.address = some a) : StoredAt r b a b
  | now {c : Body} (address : r.address = none) (block : r.block ≠ none) (retains : b.Retains c) (new : ¬b.Has a)
    (has : c.Has a) : StoredAt r b a c

namespace StoredAt

theorem retains (h : r.StoredAt b a c) : b.Retains c := by
  cases h with
  | before => exact .refl b
  | now _ _ retains => exact retains

theorem address_eq (h : r.StoredAt b a c) : r.address = some a ∨ r.address = none ∧ ¬b.Has a := by
  cases h with
  | before address => exact .inl address
  | now address _ _ new => exact .inr ⟨address, new⟩

theorem has (h : r.StoredAt b a c) (rests : r.Rests b) : c.Has a := by
  cases h with
  | before address => exact rests.address a address
  | now _ _ _ _ has => exact has

theorem block_ne (h : r.StoredAt b a c) (ordinary : r.Ordinary) : r.block ≠ none := by
  cases h with
  | before address =>
    intro none
    cases (ordinary.block none).2.symm.trans address
  | now _ block => exact block

end StoredAt

theorem stored_materialise (rests : r.Rests b) :
    Meets b r.materialise (fun s c => ∃ a, s = r.withAddress a ∧ r.StoredAt b a c)
      fun _ c => b.Retains c ∧ r.address = none := by
  unfold materialise
  split
  · rename_i a known
    exact .pure ⟨a, by rw [withAddress, ← known], .before known⟩
  · rename_i unknown
    unfold Build.layout
    split
    · rename_i l laid
      unfold Build.demand
      split
      · rename_i n block
        have inside : n < b.blocks.size := rests.block n block
        have first := Body.retains_append b n (.alloca l)
        have made : Meets b (Build.emitAt n (.alloca l))
            (fun v c => v = .inst (b.nextPlace n) (.pointer l) ∧ c = b.append n (.alloca l))
            fun _ c => b.Retains c ∧ r.address = none := ⟨rfl, rfl⟩
        refine .pure_bind (.pure_bind (.bind made ?_))
        rintro _ _ ⟨rfl, rfl⟩
        have here : (b.append n (.alloca l)).Has (.inst (b.nextPlace n) (.pointer l)) := Body.has_append inside _ _
        refine .bind ((r.retains_getValue _).mono (fun _ _ h => h) fun _ _ h => ⟨first.trans h, unknown⟩) ?_
        intro v c second
        have both := first.trans second
        refine .bind ((Build.retains_storeAt n v _ c).mono (fun _ _ h => h) fun _ _ h => ⟨both.trans h, unknown⟩) ?_
        intro _ d third
        exact .pure ⟨_, rfl, .now unknown (by simp [block]) (both.trans third) (b.not_has_nextPlace n _)
          (here.mono (second.trans third))⟩
      · exact .breakDown ⟨.refl b, unknown⟩
    · exact .breakDown ⟨.refl b, unknown⟩
    · exact .throw ⟨.refl b, unknown⟩

end Result

namespace Bench

/-- What is done with results, one after the other. An instruction may be emitted at any time. -/
inductive Operation where
  | set (r : String) (block : Option String) (type : Ty) (v : Option Value)
  | setSlot (r : String) (slot : Option Value) (type : Ty)
  | clearAddress (r : String)
  | copy (r out : String)
  | materialise (r : String)
  | getAddress (r out : String)
  | getValue (r : String)
  | emit (block : String) (i : Inst)

namespace Operation

def Sets (name : String) : Operation → Prop
  | .set r _ _ _ => r = name
  | _ => False

/-- What may be done while the result of a name is to be read from its slot. -/
def Spares (name : String) : Operation → Prop
  | .set r block type _ => r = name → block ≠ none ∧ ∃ l, type.layout = .ok l
  | .setSlot r _ _ => r ≠ name
  | .copy _ out | .getAddress _ out => out ≠ name
  | _ => True

/-- The address of the result of a name is neither cleared nor copied over. -/
def KeepsAddress (name : String) : Operation → Prop
  | .clearAddress r => r ≠ name
  | .copy _ out => out ≠ name
  | _ => True

/-- The block or the slot that is set is given. -/
def Gives : Operation → Prop
  | .set _ block _ _ => block ≠ none
  | .setSlot _ slot _ => slot ≠ none
  | _ => True

end Operation

def operate (b : Bench) : Operation → Bench
  | .set r (some block) type v => (b.block block).1.change r (·.set (some (b.block block).2) type v)
  | .set r none type v => b.change r (·.set none type v)
  | .setSlot r slot type => b.change r (·.setSlot slot type)
  | .clearAddress r => b.change r Result.clearAddress
  | .copy r out => b.setResult out (b.result r)
  | .materialise r => (b.materialise r).1
  | .getAddress r out => (b.getAddress r out).1
  | .getValue r => (b.perform (b.result r).getValue).1
  | .emit block i => ((b.block block).1.perform (Build.emitAt (b.block block).2 i)).1

/-- An operation that fails leaves what it has done, and the others go on from there. -/
def run (b : Bench) (ops : List Operation) : Bench := ops.foldl operate b

/-- The blocks and the addresses of all results are there. -/
def Sound (b : Bench) : Prop := ∀ name, (b.result name).Rests b.body

variable {b : Bench} {name out : String}

theorem result_setResult (b : Bench) (name : String) (r : Result) (other : String) :
    (b.setResult name r).result other = if other = name then r else b.result other := by
  unfold result setResult
  rw [List.lookup_cons]
  by_cases same : other = name
  · rw [if_pos same, beq_iff_eq.mpr same]
    rfl
  · rw [if_neg same, beq_eq_false_iff_ne.mpr same]

theorem result_change (b : Bench) (name : String) (f : Result → Result) (other : String) :
    (b.change name f).result other = if other = name then f (b.result name) else b.result other :=
  result_setResult ..

theorem getValue_iff {v : Value} {c : Body} (val : String) :
    (b.getValue name val).1.body = c ∧ (b.getValue name val).2 = .ok v ↔ (b.result name).Reads b.body v c := by
  rw [← Result.getValue_eq_ok_iff]
  unfold getValue make perform
  cases (b.result name).getValue b.body with
  | ok w d => simp [nameValue, and_comm]
  | error f d => simp

theorem materialise_cases (rests : (b.result name).Rests b.body) :
    (∃ a c, (b.result name).StoredAt b.body a c ∧
        b.materialise name = ({ b with body := c }.setResult name ((b.result name).withAddress a), none)) ∨
      ∃ f c, (b.result name).address = none ∧ b.body.Retains c ∧
        b.materialise name = ({ b with body := c }, some f) := by
  have outcome := Result.stored_materialise rests
  unfold materialise perform
  cases run : (b.result name).materialise b.body with
  | ok s c =>
    obtain ⟨a, rfl, stored⟩ := outcome.ok run
    exact .inl ⟨a, c, stored, rfl⟩
  | error f c =>
    obtain ⟨retains, unknown⟩ := outcome.error run
    exact .inr ⟨f, c, unknown, retains, rfl⟩

theorem getAddress_cases (rests : (b.result name).Rests b.body) (out : String) :
    (∃ a c, (b.result name).StoredAt b.body a c ∧ b.getAddress name out =
        (({ b with body := c }.setResult name ((b.result name).withAddress a)).change out
          (·.setAddressOf ((b.result name).withAddress a)), none)) ∨
      ∃ f c, (b.result name).address = none ∧ b.body.Retains c ∧
        b.getAddress name out = ({ b with body := c }, some f) := by
  unfold getAddress
  rcases materialise_cases rests with ⟨a, c, stored, same⟩ | ⟨f, c, unknown, retains, same⟩
  · rw [same]
    refine .inl ⟨a, c, stored, ?_⟩
    dsimp only
    rw [result_setResult, if_pos rfl]
  · rw [same]
    exact .inr ⟨f, c, unknown, retains, rfl⟩

/-- What an operation makes of the result of a name; `c` is the body behind it. -/
inductive Becomes (b : Bench) (c : Body) (name : String) : Operation → Result → Prop
  | same {op : Operation} (other : ¬op.Sets name) : Becomes b c name op (b.result name)
  | set {block : Option String} {type : Ty} {v : Option Value} {n : Option Nat} (given : n = none ↔ block = none)
    (there : ∀ k ∈ n, k < c.blocks.size) : Becomes b c name (.set name block type v) ((b.result name).set n type v)
  | setSlot {slot : Option Value} {type : Ty} :
    Becomes b c name (.setSlot name slot type) ((b.result name).setSlot slot type)
  | clearAddress : Becomes b c name (.clearAddress name) (b.result name).clearAddress
  | copy {r : String} : Becomes b c name (.copy r name) (b.result r)
  | stored {op : Operation} {a : Value} (other : ¬op.Sets name) (stored : (b.result name).StoredAt b.body a c) :
    Becomes b c name op ((b.result name).withAddress a)
  | delivered {r : String} {a : Value} {own : Result} (stored : (b.result r).StoredAt b.body a c)
    (own_eq : own = b.result name ∨ own = (b.result r).withAddress a ∧ r = name) :
    Becomes b c name (.getAddress r name) (own.setAddressOf ((b.result r).withAddress a))

theorem becomes_operate (sound : b.Sound) (op : Operation) :
    b.body.Retains (b.operate op).body ∧
      ∀ name, Becomes b (b.operate op).body name op ((b.operate op).result name) := by
  -- All but the delivery of an address change the result of one name at most.
  have placed (d : Bench) (results : d.result = b.result) {r : String} {s : Result} (own : Becomes b d.body r op s)
      (others : ∀ name, name ≠ r → ¬op.Sets name) (name : String) :
      Becomes b d.body name op ((d.setResult r s).result name) := by
    rw [result_setResult, results]
    split
    · rename_i same
      rw [same]
      exact own
    · exact .same (others name ‹_›)
  cases op with
  | set r block type v =>
    have others : ∀ name, name ≠ r → r ≠ name := fun _ => Ne.symm
    cases block with
    | none => exact ⟨.refl _, placed b rfl (.set (by simp) (by simp)) others⟩
    | some block =>
      obtain ⟨retains, inside⟩ := b.body.retains_blockNamed (if block = "" then "entry" else block)
      refine ⟨retains, placed (b.block block).1 rfl (.set (by simp) ?_) others⟩
      rintro _ ⟨⟩
      exact inside
  | setSlot r slot type => exact ⟨.refl _, placed b rfl .setSlot fun _ _ => id⟩
  | clearAddress r => exact ⟨.refl _, placed b rfl .clearAddress fun _ _ => id⟩
  | copy r out => exact ⟨.refl _, placed b rfl .copy fun _ _ => id⟩
  | materialise r =>
    rw [show b.operate (.materialise r) = (b.materialise r).1 from rfl]
    rcases materialise_cases (sound r) with ⟨a, c, stored, same⟩ | ⟨f, c, -, retains, same⟩
    · rw [same]
      exact ⟨stored.retains, placed { b with body := c } rfl (.stored id stored) fun _ _ => id⟩
    · rw [same]
      exact ⟨retains, fun name => .same id⟩
  | getAddress r out =>
    rw [show b.operate (.getAddress r out) = (b.getAddress r out).1 from rfl]
    rcases getAddress_cases (sound r) out with ⟨a, c, stored, same⟩ | ⟨f, c, -, retains, same⟩
    · rw [same]
      refine ⟨stored.retains, fun name => ?_⟩
      rw [result_change]
      split
      · rename_i here
        subst here
        refine .delivered stored ?_
        rw [result_setResult]
        split
        · exact .inr ⟨rfl, Eq.symm ‹_›⟩
        · exact .inl rfl
      · exact placed { b with body := c } rfl (.stored id stored) (fun _ _ => id) name
    · rw [same]
      exact ⟨retains, fun name => .same id⟩
  | getValue r =>
    have outcome := (b.result r).retains_getValue b.body
    rw [show b.operate (.getValue r) = (b.perform (b.result r).getValue).1 from rfl, perform]
    split
    · exact ⟨outcome.ok ‹_›, fun name => .same id⟩
    · exact ⟨outcome.error ‹_›, fun name => .same id⟩
  | emit block i =>
    obtain ⟨first, -⟩ := b.body.retains_blockNamed (if block = "" then "entry" else block)
    exact ⟨first.trans (Body.retains_append _ _ i), fun name => .same id⟩

namespace Becomes

variable {c : Body} {op : Operation} {s : Result} {slot a : Value}

theorem rests (h : Becomes b c name op s) (sound : b.Sound) (retains : b.body.Retains c) : s.Rests c := by
  have own := (sound name).mono retains
  cases h with
  | same => exact own
  | set _ there => exact ⟨there, own.address⟩
  | setSlot => exact ⟨own.block, own.address⟩
  | clearAddress => exact ⟨own.block, by simp [Result.clearAddress]⟩
  | copy => exact (sound _).mono retains
  | stored _ stored =>
    refine ⟨own.block, ?_⟩
    rintro _ ⟨⟩
    exact stored.has (sound name)
  | @delivered r _ _ stored own_eq =>
    refine ⟨((sound r).mono retains).block, ?_⟩
    rcases own_eq with rfl | ⟨rfl, -⟩
    · exact own.address
    · rintro _ ⟨⟩
      exact stored.has (sound r)

theorem slot? (h : Becomes b c name op s) (spares : op.Spares name) (held : (b.result name).slot? = some slot) :
    s.slot? = some slot := by
  cases h with
  | same | clearAddress | stored => exact held
  | set => rw [Result.slot?_set, held]
  | setSlot | copy | delivered => exact absurd rfl spares

theorem loads (h : Becomes b c name op s) (spares : op.Spares name) (loads : (b.result name).Loads ∨ op.Sets name) :
    s.Loads := by
  cases h with
  | same other | stored other => exact loads.resolve_right other
  | set given =>
    obtain ⟨block, laid⟩ := spares rfl
    exact ⟨mt given.mp block, laid⟩
  | clearAddress => exact loads.resolve_right id
  | setSlot | copy | delivered => exact absurd rfl spares

theorem address (h : Becomes b c name op s) (keeps : op.KeepsAddress name)
    (known : (b.result name).address = some a) : s.address = some a := by
  have unmoved {v : Value} (stored : (b.result name).StoredAt b.body v c) : some v = some a := by
    rcases stored.address_eq with same | ⟨unknown, -⟩
    · exact same.symm.trans known
    · cases unknown.symm.trans known
  cases h with
  | same | set | setSlot => exact known
  | clearAddress | copy => exact absurd rfl keeps
  | stored _ stored => exact unmoved stored
  | delivered stored own_eq =>
    rcases own_eq with rfl | ⟨rfl, rfl⟩
    · exact known
    · exact unmoved stored

theorem ordinary (h : Becomes b c name op s) (gives : op.Gives) (before : ∀ other, (b.result other).Ordinary) :
    s.Ordinary := by
  have own := before name
  cases h with
  | same => exact own
  | set given =>
    refine ⟨?_, fun none => absurd none (mt given.mp gives)⟩
    rw [Result.hasSlot_set, Result.slot?_set]
    exact own.slot
  | setSlot => exact ⟨fun _ => gives, own.block⟩
  | clearAddress => exact ⟨own.slot, fun none => ⟨(own.block none).1, rfl⟩⟩
  | copy => exact before _
  | stored _ stored => exact ⟨own.slot, fun none => absurd none (stored.block_ne own)⟩
  | @delivered r a _ stored own_eq =>
    refine ⟨?_, fun none => absurd none (stored.block_ne (before r))⟩
    rw [Result.setAddressOf, Result.hasSlot_set, Result.slot?_set]
    rcases own_eq with rfl | ⟨rfl, -⟩
    · exact own.slot
    · exact (before r).slot

end Becomes

theorem sound_empty : ({} : Bench).Sound := fun _ => ⟨by simp [result], by simp [result]⟩

theorem sound_operate (sound : b.Sound) (op : Operation) : (b.operate op).Sound := by
  obtain ⟨retains, becomes⟩ := becomes_operate sound op
  exact fun name => (becomes name).rests sound retains

theorem run_keeps {P : Bench → Prop} {A : Operation → Prop} (step : ∀ b op, b.Sound → A op → P b → P (b.operate op))
    (sound : b.Sound) (start : P b) (ops : List Operation) (allowed : ∀ op ∈ ops, A op) : P (b.run ops) := by
  induction ops generalizing b with
  | nil => exact start
  | cons op ops ih =>
    obtain ⟨first, others⟩ := List.forall_mem_cons.mp allowed
    exact ih (sound_operate sound op) (step b op sound first start) others

theorem sound_run (sound : b.Sound) (ops : List Operation) : (b.run ops).Sound :=
  run_keeps (fun _ op sound _ _ => sound_operate sound op) sound sound ops fun _ _ => trivial

theorem slot_run {slot : Value} (sound : b.Sound) (held : (b.result name).slot? = some slot) (ops : List Operation)
    (spares : ∀ op ∈ ops, op.Spares name) (loads : (b.result name).Loads ∨ ∃ op ∈ ops, op.Sets name) :
    ((b.run ops).result name).slot? = some slot ∧ ((b.run ops).result name).Loads := by
  induction ops generalizing b with
  | nil => exact ⟨held, loads.resolve_right (by simp)⟩
  | cons op ops ih =>
    obtain ⟨first, others⟩ := List.forall_mem_cons.mp spares
    have becomes := (becomes_operate sound op).2 name
    refine ih (sound_operate sound op) (becomes.slot? first held) others ?_
    -- What cannot be loaded yet can be from when the result is set on.
    rcases loads with now | ⟨_, _ | ⟨_, later⟩, sets⟩
    · exact .inl (becomes.loads first (.inl now))
    · exact .inl (becomes.loads first (.inr sets))
    · exact .inr ⟨_, later, sets⟩

theorem address_run {a : Value} (sound : b.Sound) (known : (b.result name).address = some a) (ops : List Operation)
    (keeps : ∀ op ∈ ops, op.KeepsAddress name) : ((b.run ops).result name).address = some a :=
  run_keeps (P := fun b => (b.result name).address = some a)
    (fun _ op sound keeps known => ((becomes_operate sound op).2 name).address keeps known) sound known ops keeps

theorem ordinary_run (sound : b.Sound) (before : ∀ name, (b.result name).Ordinary) (ops : List Operation)
    (gives : ∀ op ∈ ops, op.Gives) : ∀ name, ((b.run ops).result name).Ordinary :=
  run_keeps (P := fun b => ∀ name, (b.result name).Ordinary)
    (fun _ op sound gives before name => ((becomes_operate sound op).2 name).ordinary gives before)
    sound before ops gives

theorem materialise_of_address {a : Value} (known : (b.result name).address = some a) :
    (b.materialise name).2 = none ∧ (b.materialise name).1.body = b.body := by
  have run : (b.result name).materialise b.body = .ok (b.result name) b.body := by
    simp only [Result.materialise, known]
    rfl
  simp only [materialise, perform, run]
  exact ⟨trivial, rfl⟩

theorem getAddress_of_address {a : Value} (known : (b.result name).address = some a) (out : String) :
    (b.getAddress name out).2 = none ∧ (b.getAddress name out).1.body = b.body := by
  obtain ⟨ok, body⟩ := materialise_of_address known
  unfold getAddress
  split
  · rename_i same
    rw [same] at body
    exact ⟨rfl, body⟩
  · rename_i same
    rw [same] at ok
    cases ok

/-- Once a result has been given a slot, its value is loaded from there whatever is set, if it is ever set to what can
be loaded. Once it has an address it keeps it, and nothing more is emitted for it. -/
theorem slots_and_addresses_last (sound : b.Sound) (name : String) :
    (∀ slot type ops val, (∀ op ∈ ops, op.Spares name) → (b.result name).Loads ∨ (∃ op ∈ ops, op.Sets name) →
      let c := (b.operate (.setSlot name (some slot) type)).run ops
      ∃ n l, (c.result name).block = some n ∧ n < c.body.blocks.size ∧ (c.result name).type.layout = .ok l ∧
        (c.getValue name val).1.body = c.body.append n (.load l slot) ∧
        (c.getValue name val).2 = .ok (.inst (c.body.nextPlace n) l)) ∧
    ((b.materialise name).2 = none → ∃ a, ∀ ops, (∀ op ∈ ops, op.KeepsAddress name) →
      let c := (b.materialise name).1.run ops
      (c.result name).address = some a ∧
        ((c.materialise name).2 = none ∧ (c.materialise name).1.body = c.body) ∧
        ∀ out, (c.getAddress name out).2 = none ∧ (c.getAddress name out).1.body = c.body) := by
  refine ⟨?_, ?_⟩
  · intro slot type ops val spares loads c
    have given : (b.operate (.setSlot name (some slot) type)).result name = (b.result name).setSlot
      (some slot) type := by
      rw [operate, result_change, if_pos rfl]
    have sound' := sound_operate sound (.setSlot name (some slot) type)
    obtain ⟨held, block, l, laid⟩ := slot_run sound' (by rw [given]; rfl) ops spares (by rw [given]; exact loads)
    obtain ⟨n, block⟩ := Option.ne_none_iff_exists'.mp block
    exact ⟨n, l, block, (sound_run sound' ops name).block n block, laid,
      (getValue_iff val).mpr (.loaded held block laid)⟩
  · intro stored
    obtain ⟨a, known⟩ : ∃ a, ((b.materialise name).1.result name).address = some a := by
      rcases materialise_cases (sound name) with ⟨a, c, -, same⟩ | ⟨f, c, -, -, same⟩
      · rw [same, result_setResult, if_pos rfl]
        exact ⟨a, rfl⟩
      · rw [same] at stored
        cases stored
    refine ⟨a, fun ops keeps => ?_⟩
    have still := address_run (sound_operate sound (.materialise name)) known ops keeps
    exact ⟨still, materialise_of_address still, getAddress_of_address still⟩

/-- A slot of an integer, a truth value that is set in another block, and an address that is taken twice. -/
theorem slots_and_addresses_last_set :
    let b := ({} : Bench).run [.emit "" (.alloca (.int 32)), .set "r" (some "") .int32 (some (.const 32 7))]
    let slot := Value.inst ⟨0, 0⟩ (.pointer (.int 32))
    let ops : List Operation := [.set "r" (some "next") .bool (some (.const 1 1)), .getAddress "r" "s",
      .materialise "r"]
    let c := (b.operate (.setSlot "r" (some slot) (.pointerTo .int32))).run ops
    (∃ n l, (c.getValue "r" "v").1.body = c.body.append n (.load l slot)) ∧
      ∃ a, (((b.materialise "r").1.run ops).result "r").address = some a := by
  intro b slot ops c
  obtain ⟨loaded, kept⟩ := slots_and_addresses_last (sound_run sound_empty _ : b.Sound) "r"
  have spares : ∀ op ∈ ops, op.Spares "r" := by simp [ops, Operation.Spares, Ty.layout, Ty.bool, Ty.of, Base.bits?]
  have keeps : ∀ op ∈ ops, op.KeepsAddress "r" := by simp [ops, Operation.KeepsAddress]
  obtain ⟨n, l, -, -, -, body, -⟩ := loaded slot _ ops "v" spares (.inr ⟨_, List.mem_cons_self, rfl⟩)
  obtain ⟨a, all⟩ := kept (by decide +kernel)
  exact ⟨⟨n, l, body⟩, a, (all ops keeps).1⟩

/-- What has no layout cannot be loaded from a slot, and is not. -/
theorem slot_without_layout_unread :
    let b := ({} : Bench).run [.emit "" (.alloca (.int 32)), .set "r" (some "") .void none,
      .setSlot "r" (some (.inst ⟨0, 0⟩ (.pointer (.int 32)))) (.pointerTo .int32)]
    (b.getValue "r" "v").2 = .error (.defect (.slotWithoutLayout .void)) ∧ (b.getValue "r" "v").1.body = b.body := by
  exact ⟨rfl, rfl⟩

/-- What an address that has been delivered is, and what it leaves of the result that it was delivered into. -/
theorem exists_delivered (rests : (b.result name).Rests b.body) (ok : (b.getAddress name out).2 = none) :
    let c := (b.getAddress name out).1
    ∃ a, (b.result name).StoredAt b.body a c.body ∧ (c.result name).address = some a ∧ (c.result out).value = some a ∧
      (c.result out).slot? = (b.result out).slot? ∧
      (c.result out).address = if out = name then some a else (b.result out).address := by
  rcases getAddress_cases rests out with ⟨a, d, stored, same⟩ | ⟨f, d, -, -, same⟩
  · rw [same]
    refine ⟨a, stored, ?_⟩
    rw [result_change, result_change, if_pos rfl, result_setResult, result_setResult, if_pos rfl, Result.setAddressOf,
      Result.value_set, Result.slot?_set]
    by_cases here : out = name
    · subst here
      simp only [if_pos]
      exact ⟨rfl, rfl, rfl, rfl⟩
    · simp only [if_neg here, if_neg (Ne.symm here)]
      exact ⟨rfl, rfl, rfl, rfl⟩
  · rw [same] at ok
    cases ok

/-- An address that has been delivered can be read without a load unless there is a slot in its place, and is its own
address only if it was that of the result before. -/
theorem address_delivered_iff (sound : b.Sound) (name out : String) (delivered : (b.getAddress name out).2 = none) :
    let c := (b.getAddress name out).1
    ∃ a, (c.result name).address = some a ∧
      (∀ val, (c.getValue out val).1.body = c.body ∧ (c.getValue out val).2 = .ok a ↔ (b.result out).slot? = none) ∧
      ∀ other, (c.getAddress out other).2 = none →
        (((c.getAddress out other).1.result other).value = some a ↔ out = name ∨ (b.result out).address = some a) := by
  intro c
  have sound' : c.Sound := sound_operate sound (.getAddress name out)
  obtain ⟨a, -, known, value, slot, address⟩ := exists_delivered (sound name) delivered
  have has : c.body.Has a := (sound' name).address a known
  refine ⟨a, known, fun val => ?_, fun other again => ?_⟩
  · rw [getValue_iff, ← slot]
    exact ⟨fun reads => reads.slot?_eq_none has, fun none => .direct none value⟩
  · obtain ⟨a', stored, -, value', -⟩ := exists_delivered (sound' out) again
    have moved := stored.address_eq
    rw [address] at moved
    rw [value', Option.some.injEq]
    by_cases here : out = name
    · rw [if_pos here] at moved
      rcases moved with same | ⟨unknown, -⟩
      · exact ⟨fun _ => .inl here, fun _ => (Option.some.inj same).symm⟩
      · cases unknown
    · rw [if_neg here] at moved
      rcases moved with before | ⟨unknown, new⟩
      · rw [before, Option.some.injEq]
        exact ⟨.inr, fun same => same.resolve_left here⟩
      · rw [unknown]
        refine ⟨?_, ?_⟩
        -- An address that is made only now was not there to be delivered.
        · rintro rfl
          exact absurd has new
        · rintro (same | none)
          · exact absurd same here
          · cases none

theorem address_delivered_iff_fresh :
    let b := ({} : Bench).run [.set "r" (some "") .int32 (some (.const 32 7))]
    let c := (b.getAddress "r" "s").1
    ∃ a, (c.result "r").address = some a ∧ (c.getValue "s" "v").2 = .ok a ∧
      ((c.getAddress "s" "t").1.result "t").value ≠ some a := by
  intro b c
  obtain ⟨a, known, value, again⟩ :=
    address_delivered_iff (sound_run sound_empty _ : b.Sound) "r" "s" (by decide +kernel)
  have unlike : ¬("s" = "r" ∨ (b.result "s").address = some a) := by
    rintro (same | none)
    · exact absurd same (by decide)
    · cases none
  exact ⟨a, known, ((value "v").mpr rfl).2, mt (again "t" (by decide +kernel)).mp unlike⟩

/-- Delivered into its own result, an address becomes its own address. In a result with a slot it cannot be read. -/
theorem address_delivered_into_itself :
    let b := ({} : Bench).run [.emit "" (.alloca (.int 32)), .set "r" (some "") .int32 (some (.const 32 7)),
      .setSlot "s" (some (.inst ⟨0, 0⟩ (.pointer (.int 32)))) (.pointerTo .int32)]
    let c := (b.getAddress "r" "r").1
    let d := (b.getAddress "r" "s").1
    (c.result "r").value = some (.inst ⟨0, 1⟩ (.pointer (.int 32))) ∧
      ((c.getAddress "r" "t").1.result "t").value = (c.result "r").value ∧
      (d.result "s").value = (c.result "r").value ∧
      (d.getValue "s" "v").2.toOption = some (.inst ⟨0, 3⟩ (.pointer (.int 32))) := by
  decide +kernel

/-- There is said to be a value exactly if it can be read, unless an empty slot hides it or there is no block to load it
into. Neither happens while blocks and slots are given wherever they are set. -/
theorem hasValue_iff_readable (ops : List Operation) (name val : String) {l : Layout}
    (laid : ((({} : Bench).run ops).result name).type.layout = .ok l) :
    let b := ({} : Bench).run ops
    let r := b.result name
    ((r.hasValue = true ↔ ∃ v, (b.getValue name val).2 = .ok v) ↔
        ¬(r.hasSlot = true ∧ r.slot? = none ∧ r.value ≠ none) ∧ ¬(r.slot? ≠ none ∧ r.block = none)) ∧
      ((∀ op ∈ ops, op.Gives) → (r.hasValue = true ↔ ∃ v, (b.getValue name val).2 = .ok v)) := by
  intro b r
  have readable : (∃ v, (b.getValue name val).2 = .ok v) ↔ ∃ v c, r.Reads b.body v c := by
    constructor
    · rintro ⟨v, ok⟩
      exact ⟨v, _, (getValue_iff val).mp ⟨rfl, ok⟩⟩
    · rintro ⟨v, c, reads⟩
      exact ⟨v, ((getValue_iff val).mpr reads).2⟩
  have told := Result.hasValue_iff_reads laid b.body
  rw [readable]
  refine ⟨told, fun gives => told.mpr ?_⟩
  have ordinary : r.Ordinary :=
    ordinary_run sound_empty (fun _ => ⟨by simp [result, Result.hasSlot], fun _ => ⟨rfl, rfl⟩⟩) ops gives name
  refine ⟨fun hidden => ordinary.slot hidden.1 hidden.2.1, fun unplaced => ?_⟩
  rw [(ordinary.block unplaced.2).1] at laid
  cases laid

theorem hasValue_iff_readable_slot :
    let b := ({} : Bench).run [.set "r" (some "") .int32 none, .setSlot "r" (some (.const 32 0)) .int32, .copy "r" "s"]
    ∃ v, (b.getValue "s" "v").2 = .ok v := by
  exact ((hasValue_iff_readable _ "s" "v" rfl).2 (by simp [Operation.Gives])).mp rfl

/-- A value that can be read is said not to be there. -/
theorem value_hidden_by_empty_slot :
    let b := ({} : Bench).run [.set "r" (some "") .int32 (some (.const 32 7)), .setSlot "r" none (.pointerTo .int32)]
    (b.result "r").hasValue = false ∧ (b.getValue "r" "v").2 = .ok (.const 32 7) := by
  exact ⟨rfl, rfl⟩

end Bench

end FormCompiler
