import FormCompiler.Proofs.Dispatch

namespace FormCompiler

open Build (Meets)
open IR (Inst Layout Place Value)
open Text.Numeral (Fits capacity)

theorem Build.Meets.observed {α : Type} {b : Body} {x : Build α} {done : α → Body → Prop}
    {failed : Fault → Body → Prop} (h : Meets b x done failed) :
    Meets b x (fun a c => x b = .ok a c ∧ done a c) fun _ _ => True :=
  ((Meets.self b x).and h).mono (fun _ _ h => h) fun _ _ _ => trivial

theorem Text.Numeral.Fits.toInt_ofInt {w : Nat} {n : Int} (h : Fits w n) (some : 0 < w) :
    (BitVec.ofInt w n).toInt = n := by
  simp only [Fits, capacity, Nat.pow_eq, Int.natCast_pow] at h
  exact BitVec.toInt_ofInt_eq_self some h.1 h.2

def Ty.number (t : Ty) {w : Nat} (x : BitVec w) : Int := if t.isSigned then x.toInt else x.toNat

theorem Ty.ofInt_number (t : Ty) {w : Nat} (x : BitVec w) : BitVec.ofInt w (t.number x) = x := by
  unfold number
  split <;> simp

theorem Ty.number_ofInt {t : Ty} (signed : t.isSigned = true) {w : Nat} {n : Int} (fits : Fits w n) (some : 0 < w) :
    t.number (BitVec.ofInt w n) = n := by
  rw [number, if_pos signed, fits.toInt_ofInt some]

def IR.Layout.width : Layout → Nat
  | int bits => bits
  | _ => 0

structure IR.Registers where
  params : Nat → Nat
  insts : Place → Nat

namespace IR.Registers

def read (σ : Registers) (w : Nat) : Value → BitVec w
  | .const _ n => .ofInt w n
  | .param n _ => .ofNat w (σ.params n)
  | .inst p _ => .ofNat w (σ.insts p)

variable (σ : Registers) (p : Place)

def write {w : Nat} (x : BitVec w) : Registers := { σ with insts := fun q => if q = p then x.toNat else σ.insts q }

theorem read_write {w : Nat} (x : BitVec w) (l : Layout) : (σ.write p x).read w (.inst p l) = x := by
  simp [read, write]

def step : Inst → Registers
  | .extend signed v bits =>
    let x := σ.read v.layout.width v
    σ.write p (if signed then x.signExtend bits else x.zeroExtend bits)
  | .sub a b => σ.write p (σ.read a.layout.width a - σ.read a.layout.width b)
  | _ => σ

theorem read_step_extend (signed : Bool) {v : Value} {w : Nat} (h : v.layout = .int w)
    (bits : Nat) (l : Layout) : (σ.step p (.extend signed v bits)).read bits (.inst p l) =
      if signed then (σ.read w v).signExtend bits else (σ.read w v).zeroExtend bits := by
  obtain rfl : v.layout.width = w := congrArg Layout.width h
  exact read_write ..

theorem read_step_sub {a : Value} {w : Nat} (h : a.layout = .int w) (b : Value)
    (l : Layout) : (σ.step p (.sub a b)).read w (.inst p l) = σ.read w a - σ.read w b := by
  obtain rfl : a.layout.width = w := congrArg Layout.width h
  exact read_write ..

end IR.Registers

namespace Body

def next (b : Body) : Place := b.nextPlace b.current

def emitAll (b : Body) : List Inst → Body
  | [] => b
  | i :: is => (b.append b.current i).emitAll is

theorem emitAll_concat (b : Body) (is : List Inst) (i : Inst) :
    b.emitAll (is ++ [i]) = (b.emitAll is).append (b.emitAll is).current i := by
  induction is generalizing b with
  | nil => rfl
  | cons j is ih => exact ih _

end Body

def IR.Registers.run (σ : Registers) (b : Body) : List Inst → Registers
  | [] => σ
  | i :: is => (σ.step b.next i).run (b.append b.current i) is

theorem IR.Registers.run_concat (σ : Registers) (b : Body) (is : List Inst) (i : Inst) :
    σ.run b (is ++ [i]) = (σ.run b is).step (b.emitAll is).next i := by
  induction is generalizing σ b with
  | nil => rfl
  | cons j is ih => exact ih _ _

def IR.Inst.Calculates : Inst → Prop
  | extend .. | sub .. => True
  | _ => False

namespace Pointer

structure Indexes (subtract : Bool) (type : Ty) (v : Value) (b : Body) (is : List Inst) (index : Value) : Prop where
  calculates : ∀ i ∈ is, i.Calculates
  wide : index.layout = .int 64
  worth : ∀ σ : IR.Registers, (σ.run b is).read 64 index =
    .ofInt 64 (if subtract then -type.number (σ.read type.constantBits v) else type.number (σ.read type.constantBits v))

section Widen

variable {type : Ty} {v w : Value} {b : Body} {is : List Inst}

theorem Indexes.negate (h : Indexes false type v b is w) :
    Indexes true type v b (is ++ [.sub (.const 64 0) w]) (.inst (b.emitAll is).next (.int 64)) where
  calculates := by
    intro i inside
    rcases List.mem_append.mp inside with before | last
    · exact h.calculates i before
    · cases List.mem_singleton.mp last
      trivial
  wide := rfl
  worth σ := by
    have worth := h.worth σ
    simp only [Bool.false_eq_true, if_false] at worth
    rw [IR.Registers.run_concat, IR.Registers.read_step_sub _ _ rfl, worth]
    simp [IR.Registers.read, BitVec.ofInt_neg]

theorem indexes_extend (bits : v.layout = .int type.constantBits) :
    Indexes false type v b [.extend type.isSigned v 64] (.inst b.next (.int 64)) where
  calculates := by simp [Inst.Calculates]
  wide := rfl
  worth σ := by
    refine (IR.Registers.read_step_extend σ b.next type.isSigned bits 64 _).trans ?_
    cases signed : type.isSigned with
    | true =>
      rw [Ty.number, if_pos signed]
      rfl
    | false => simp [Ty.number, signed]

theorem widen_eq (integral : type.isIntegral = true) (bits : v.layout = .int type.constantBits)
    (fits : ∀ n, v = .const type.constantBits n → Fits type.constantBits n) (b : Body) :
    ∃ w is, widen type v b = .ok w (b.emitAll is) ∧ Indexes false type v b is w := by
  obtain ⟨least, most, -⟩ := Ty.layout_of_isIntegral integral
  unfold widen
  by_cases wide : 64 ≤ type.constantBits
  · have exactly : type.constantBits = 64 := Nat.le_antisymm most wide
    refine ⟨v, [], by rw [if_pos wide]; rfl, by simp, by rw [bits, exactly], fun σ => ?_⟩
    rw [exactly]
    exact (type.ofInt_number _).symm
  · have extended := indexes_extend (b := b) bits
    rw [if_neg wide]
    cases signed : type.isSigned with
    | false => exact ⟨_, _, rfl, signed ▸ extended⟩
    | true =>
      rw [signed] at extended
      cases v with
      | param | inst => exact ⟨_, _, rfl, extended⟩
      | const k n =>
        cases bits
        -- A constant is not extended but written with more bits, which is the same since it fits in those it has.
        have same := Ty.number_ofInt signed (fits n rfl) (Nat.lt_of_succ_lt least)
        refine ⟨.const 64 n, [], rfl, by simp, rfl, fun σ => ?_⟩
        simp [IR.Registers.read, same]

end Widen

/-- The pointer that is offset: that of the operand, or the address of the first element of an array in memory. -/
inductive Heads (r : Result) (b : Body) : Value → Body → Prop
  | pointer {v : Value} {c : Body} (is : r.type.isPointer = true) (value : r.getValue b = .ok v c) : Heads r b v c
  | array {n : Int} {t : Ty} {m : Bool} {l : Layout} {a : Value} {k : Nat} {c : Body} (is : r.type = .array n t m)
    (laid : r.type.layout = .ok l) (block : r.block = some k)
    (stored : r.materialise b = .ok { r with address := some a } c) :
    Heads r b (.inst (c.nextPlace k) (.pointer l.element)) (c.append k (.firstElement l a))

/-- Offsets by the values of operands, each of what the one before it has made. What is added for one of them stays. -/
inductive Chain (ctx : Context) (subtract : Bool) (element : Layout) : List Node → Body → Value → Value → Body → Prop
  | done {b : Body} {p : Value} : Chain ctx subtract element [] b p p b
  | link {n : Node} {ns : List Node} {r : Result} {b c d e : Body} {p v index q : Value} {is : List Inst}
    (operand : Form.compile ctx n .value b = .ok r c) (integral : r.type.isIntegral = true)
    (value : r.getValue c = .ok v d) (indexes : Indexes subtract r.type v d is index)
    (literal : ∀ bits m, v = .const bits m → r.type.isSigned = true → r.type.number (BitVec.ofInt bits m) = m)
    (stays : (d.emitAll (is ++ [.offset element p index])).Retains e)
    (rest : Chain ctx subtract element ns (d.emitAll (is ++ [.offset element p index]))
      (.inst (d.emitAll is).next (.pointer element)) q e) : Chain ctx subtract element (n :: ns) b p q e

/-- A form that offsets a pointer: all offsets are of elements as the type of the first operand says, there is at least
one, and what the last of them makes has the type that the first operand decays to. -/
inductive Offsets (ctx : Context) (subtract : Bool) (paren : Token) (demand : Demand) (b : Body) :
    List Node → Result → Body → Prop
  | form {n : Node} {ns : List Node} {h r : Result} {t : Ty} {element : Layout} {v q : Value} {c d e f : Body}
    (first : Form.compile ctx n .value b = .ok h c) (pointee : h.type.pointee? = some t)
    (laid : t.layout = .ok element) (heads : Heads h c v d) (some : ns ≠ [])
    (chain : Chain ctx subtract element ns d v q e)
    (result : (Result.ofValue e.current h.type.decay q).deliver paren demand e = .ok r f) :
    Offsets ctx subtract paren demand b (n :: ns) r f

section Chain

variable {ctx : Context} {s : Signature} {b : Body}

theorem heads_base (coded : b.Coded ctx s) {r : Result} (ready : r.Ready s b b.current) {t : Ty}
    (pointee : r.type.pointee? = some t) : Meets b (base r) (Heads r b) fun _ _ => True := by
  have made : Body.Made ctx s b b := ⟨.refl b, coded⟩
  have value := Ty.isVoid_of_pointee? pointee
  unfold base
  refine .bind (Build.meets_known made.grown _).observed ?_
  rintro type c ⟨-, rfl, rfl⟩
  rcases Ty.isPointer_or_array pointee with ⟨pointer, -⟩ | ⟨array, n, m, same⟩
  · rw [if_pos pointer]
    exact (Meets.self _ _).mono (fun _ _ run => .pointer pointer run) fun _ _ _ => trivial
  · obtain ⟨l, laid, -⟩ := ready.sound.holds value
    simp only [array, Bool.false_eq_true, if_false, Result.getAddress, bind_assoc]
    refine .bind (Result.coded_materialise made made.grown.fills ready value).observed ?_
    rintro _ d ⟨run, -, a, rfl, -⟩
    simp only [Build.layout, laid, pure_bind, Result.setAddressOf, ready.block]
    exact .of_ok rfl (.array same laid ready.block run)

theorem offsets_cons (call : Invocation) (subtract : Bool) (element : Layout) (position : Nat) (o : Operand)
    (os : List Operand) (p : Value) : offsets call subtract element position (o :: os) p =
      offsets call subtract element position [o] p >>= offsets call subtract element (position + 1) os := by
  cases subtract <;> simp only [offsets, bind_assoc, pure_bind, Bool.false_eq_true, if_true, if_false]
  all_goals
    refine bind_congr fun r => bind_congr fun type => ?_
    split <;> simp only [bind_assoc, pure_bind]

def Link (ctx : Context) (subtract : Bool) (element : Layout) (n : Node) (b : Body) (p q : Value) (c : Body) : Prop :=
  ∀ ns v e, c.Retains e → Chain ctx subtract element ns c q v e → Chain ctx subtract element (n :: ns) b p v e

variable (linked : ctx.Linked s) (coded : b.Coded ctx s) (paren head : Token) (ms : List Node) (subtract : Bool)
  (element : Layout) (position : Nat) {p : Value}

include linked coded

theorem meets_link (call : Invocation) (n : Node) (p : Value) :
    Meets b (offsets call subtract element position [⟨n, Form.compile ctx n⟩] p) (Link ctx subtract element n b p)
      fun _ _ => True := by
  have kept := Form.kept_compileUnder (Contract.code_inductive linked) (Contract.grants_silent _) n
  simp only [offsets]
  refine .bind (kept.coded ⟨.refl b, coded⟩ .value).2.observed ?_
  rintro r c ⟨operand, made, -, ready⟩
  refine .bind (Build.meets_known made.grown _).observed ?_
  rintro type c ⟨-, rfl, rfl⟩
  refine .ite (fun _ => .complain_bind trivial) fun integral => ?_
  have integral : r.type.isIntegral = true := by simpa using integral
  refine .bind (Result.coded_getValue made made.grown.fills ready (Ty.isVoid_of_isIntegral integral)).observed ?_
  rintro v d ⟨value, -, offers, layout⟩
  obtain ⟨least, -, laid⟩ := Ty.layout_of_isIntegral integral
  have bits : v.layout = .int r.type.constantBits := Except.ok.inj (layout.symm.trans laid)
  have fits : ∀ m, v = .const r.type.constantBits m → Fits r.type.constantBits m := by
    rintro m rfl
    exact offers least
  have literal : ∀ k m, v = .const k m → r.type.isSigned = true → r.type.number (BitVec.ofInt k m) = m := by
    rintro k m rfl signed
    cases bits
    exact Ty.number_ofInt signed (fits m rfl) (Nat.lt_of_succ_lt least)
  have link {is : List Inst} {index : Value} (indexes : Indexes subtract r.type v d is index) :
      Meets (d.emitAll is) (Build.emit (.offset element p index) >>= pure) (Link ctx subtract element n b p)
        fun _ _ => True := by
    refine .of_ok rfl fun ns u e stays rest => .link operand integral value indexes literal ?_ ?_
    · rw [Body.emitAll_concat]
      exact stays
    · rw [Body.emitAll_concat]
      exact rest
  obtain ⟨w, is, widened, indexes⟩ := widen_eq integral bits fits d
  refine .bind (Meets.any d _).observed ?_
  rintro w e ⟨run, -⟩
  cases widened.symm.trans run
  cases subtract with
  | false => exact link indexes
  | true =>
    have negated := link indexes.negate
    rw [Body.emitAll_concat] at negated
    exact negated

theorem meets_offsets_operands (ns : List Node) (layout : p.layout = .pointer element)
    (offers : b.Offers s b.current p) :
    Meets b (offsets ⟨paren, head, Form.operands ctx ms⟩ subtract element position (Form.operands ctx ns) p)
      (fun v c => Body.Made ctx s b c ∧ v.layout = .pointer element ∧ c.Offers s c.current v) fun _ => b.Grown := by
  have kept := Form.kept_twins (Contract.code_inductive linked) (Contract.grants_silent _) ns
  rw [Form.operands_eq_left (m := .silent), Form.operands_eq_left (m := .silent)]
  exact (coded_offsets ⟨.refl b, coded⟩ paren head kept (Form.twins .silent ctx ms) subtract element position layout
    offers).2

theorem chain_offsets (ns : List Node) (layout : p.layout = .pointer element) (offers : b.Offers s b.current p) :
    Meets b (offsets ⟨paren, head, Form.operands ctx ms⟩ subtract element position (Form.operands ctx ns) p)
      (Chain ctx subtract element ns b p) fun _ _ => True := by
  induction ns generalizing b position p with
  | nil => exact .pure .done
  | cons n ns ih =>
    rw [Form.operands, offsets_cons]
    have one := meets_offsets_operands linked coded paren head ms subtract element position [n] layout offers
    refine .bind ((meets_link linked coded subtract element position _ n p).and one).observed ?_
    rintro q c ⟨-, link, made, layout, offers⟩
    have rest := meets_offsets_operands linked made.coded paren head ms subtract element (position + 1) ns layout offers
    refine .mono ((ih made.coded (position + 1) layout offers).and rest) ?_ fun _ _ _ => trivial
    rintro v e ⟨chain, made, -⟩
    exact link ns v e made.grown.evolves.retains chain

theorem meets_compileOffset (demand : Demand) :
    Meets b (compileOffset ⟨paren, head, Form.operands ctx ms⟩ subtract demand)
      (Offsets ctx subtract paren demand b ms) fun _ _ => True := by
  unfold compileOffset
  match ms with
  | [] => exact .complain trivial
  | [_] => exact .complain trivial
  | n :: m :: ns =>
    have kept := Form.kept_compileUnder (Contract.code_inductive linked) (Contract.grants_silent _) n
    refine .bind (kept.coded ⟨.refl b, coded⟩ .value).2.observed ?_
    rintro h c ⟨first, made, -, ready⟩
    refine .bind (Build.meets_known made.grown _).observed ?_
    rintro type c ⟨-, rfl, rfl⟩
    refine .ite (fun _ => .complain_bind trivial) fun like => ?_
    refine .bind (coded_element made (by simpa using like) _).observed ?_
    rintro element c ⟨-, rfl, t, pointee, laid⟩
    have here : Body.Made ctx s c c := ⟨.refl c, made.coded⟩
    have based := coded_base here here.grown.fills ready pointee laid
    refine .bind (.pinned ((heads_base made.coded ready pointee).and based).observed) ?_
    rintro v d ⟨-, heads, emits, there, layout⟩
    refine .bind (chain_offsets linked emits.coded paren head (n :: m :: ns) subtract element 1 (m :: ns) layout
      (emits.current ▸ there)) ?_
    intro q e chain
    exact .get_bind (.mono (Meets.self e _) (fun _ _ result => .form first pointee laid heads (List.cons_ne_nil _ _)
      chain result) fun _ _ _ => trivial)

end Chain

end Pointer

namespace Form

variable {ctx : Context} {form : Builtin} {head : Token} {args : List Node} {b : Body}

/-- Whether a form is a built-in one: its name is qualified, or no function of that name takes its operands. -/
def IsBuiltin (ctx : Context) (form : Builtin) (head : Token) (args : List Node) (b : Body) : Prop :=
  head.kind = .symbol ∧ (head.literal = "core." ++ form.name ∨ head.literal = form.name ∧
    (ctx.registry.has form.name = false ∨ FallsBack ctx form.name (operands ctx args) b))

theorem IsBuiltin.compile_eq (h : IsBuiltin ctx form head args b) (paren : Token) (demand : Demand) :
    compile ctx (.list paren (.atom head :: args)) demand b =
      form.compile ctx ⟨paren, head, operands ctx args⟩ demand b := by
  obtain ⟨symbol, named⟩ := h
  simp only [compile, operands, compileList, symbol, if_true, compileInvocation]
  rcases named with core | ⟨plain, unshared | falls⟩
  · simp only [core, Builtin.splitQualified_core, Builtin.ofName?_name]
  · simp only [plain, Builtin.splitQualified_name, Builtin.ofName?_name, unshared]
  · simp only [plain, Builtin.splitQualified_name, Builtin.ofName?_name]
    cases ctx.registry.has form.name with
    | false => rfl
    | true => exact compileShared_of_fallsBack paren head demand form (plain ▸ falls)

end Form

namespace CompilationUnit

variable {u : CompilationUnit} {n : Node} {d : Definition} {p : Placed} {b : Body}

/-- A form that offsets a pointer adds one offset for each operand behind the first, in their order, over what the
first points to and by the number that the operand is worth, or by that number negated. -/
theorem offsets_are_numbers (reached : u.Reached) (read : Definition.read n = .ok d)
    (placed : u.place d = .ok (some p)) (begins : Body.Begins (u.context d p) d.body b) (subtract : Bool)
    {paren head : Token} {args : List Node} {demand : Demand} {r : Result} {e : Body}
    (builtin : Form.IsBuiltin (u.context d p) (if subtract then .pointerSubtract else .pointerAdd) head args b)
    (compiled : Form.compile (u.context d p) (.list paren (.atom head :: args)) demand b = .ok r e) :
    Pointer.Offsets (u.context d p) subtract paren demand b args r e := by
  have placing := placing_of_place placed
  obtain ⟨links, -⟩ := reached.consistent
  obtain ⟨s, linked⟩ := placing.linked links ((Definition.ends_read_regular n).ok read)
  have form : (if subtract then Builtin.pointerSubtract else .pointerAdd).compile (u.context d p)
      ⟨paren, head, Form.operands (u.context d p) args⟩ demand =
        Pointer.compileOffset ⟨paren, head, Form.operands (u.context d p) args⟩ subtract demand := by
    cases subtract <;> rfl
  rw [builtin.compile_eq, form] at compiled
  exact (Pointer.meets_compileOffset linked (begins.coded linked) paren head args subtract demand).ok compiled

/-- An array that is offset backwards, by a negative constant and by a byte that is only loaded in another block, under
a name that a function shares. -/
theorem offsets_are_numbers_shared : let u := knowing "p-" [.form [.word "a", .word "int"]]
    let args : List Node := [.form [.word "do", .form [.word "var", .word "a",
        .form [.word "array-of", .numeral 4, .word "int"]], .word "a"], .numeral (-1),
      .form [.word "do", .form [.word "var", .word "k", .word "uint8"], .form [.word "goto", .word "on"],
        .form [.word "label", .word "on"], .word "k"]]
    ∃ d p r e, Definition.read (returning (.form [.word "@", .form (.word "p-" :: args)])) = .ok d ∧
      u.place d = .ok (some p) ∧ Body.Begins (u.context d p) d.body Body.entry ∧ u.registry.has "p-" = true ∧
      Form.IsBuiltin (u.context d p) .pointerSubtract (.synthetic "p-" "") args Body.entry ∧
      Form.compile (u.context d p) (.form (.word "p-" :: args)) .value Body.entry = .ok r e ∧
      r.type = .pointerTo .int32 ∧
      Pointer.Offsets (u.context d p) true ⟨.opening, "(", 0, 0, 0, ""⟩ .value Body.entry args r e := by
  intro u args
  have facts : u.registry.has "p-" = true ∧
      ((Definition.read (returning (.form [.word "@", .form (.word "p-" :: args)]))).toOption.any fun d =>
        (u.place d).toOption.any fun place => place.any fun p => decide (Entered (u.context d p) d.body ∧
          Form.FallsBack (u.context d p) "p-" (Form.operands (u.context d p) args) Body.entry ∧
          Meets Body.entry (Form.compile (u.context d p) (.form (.word "p-" :: args)) .value)
            (fun r _ => r.type = .pointerTo .int32) fun _ _ => False)) = true := by
    decide +kernel
  obtain ⟨shared, checked⟩ := facts
  obtain ⟨d, p, read, placed, entered, falls, compiles⟩ := exists_placed checked
  obtain ⟨r, e, compiled, type⟩ := compiles.exists_ok
  have builtin : Form.IsBuiltin (u.context d p) .pointerSubtract (.synthetic "p-" "") args Body.entry :=
    ⟨rfl, .inr ⟨rfl, .inr falls⟩⟩
  exact ⟨d, p, r, e, read, placed, entered.begins, shared, builtin, compiled, type,
    offsets_are_numbers (.form (.new "0") none _) read placed entered.begins true builtin compiled⟩

end CompilationUnit

end FormCompiler
