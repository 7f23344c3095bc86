import FormCompiler.Proofs.Marks
import FormCompiler.Proofs.TypeTexts

namespace FormCompiler

variable {c : Char} {t : Ty} {n : Nat} {rest rest' : List Char} {name : String} {types : List Ty}

namespace Text.Numeral

theorem ne_underscore_of_mem_hex (inside : c ∈ hex n) : c ≠ '_' := by
  have digit : ∀ d < 16, d.digitChar ≠ '_' := by decide
  induction n using Nat.strongRecOn with
  | _ n ih =>
    rw [hex, Nat.toDigits_eq_if (by decide)] at inside
    split at inside
    · rename_i small
      rw [List.mem_singleton.mp inside]
      exact digit n small
    · rcases List.mem_append.mp inside with front | last
      · exact ih (n / 16) (by omega) front
      · rw [List.mem_singleton.mp last]
        exact digit (n % 16) (Nat.mod_lt n (by decide))

theorem digitChar_inj : ∀ a < 16, ∀ b < 16, a.digitChar = b.digitChar → a = b := by decide

theorem hex_inj {m : Nat} (same : hex n = hex m) : n = m := by
  have longer {k : Nat} {a b : Char} : [a] ≠ Nat.toDigits 16 k ++ [b] := by
    intro one
    have length := congrArg List.length one
    simp [Nat.toDigits_ne_nil] at length
  -- The last digit is the remainder, and what stands before it is the text of the quotient.
  induction n using Nat.strongRecOn generalizing m with
  | _ n ih =>
    rw [hex, hex, Nat.toDigits_eq_if (n := n) (by decide), Nat.toDigits_eq_if (n := m) (by decide)] at same
    by_cases small : n < 16 <;> by_cases small' : m < 16
    · rw [if_pos small, if_pos small'] at same
      exact digitChar_inj n small m small' (List.cons.inj same).1
    · rw [if_pos small, if_neg small'] at same
      exact (longer same).elim
    · rw [if_neg small, if_pos small'] at same
      exact (longer same.symm).elim
    · rw [if_neg small, if_neg small'] at same
      obtain ⟨front, last⟩ := List.append_inj' same rfl
      have quotients : n / 16 = m / 16 := ih (n / 16) (by omega) front
      have remainders : n % 16 = m % 16 :=
        digitChar_inj _ (Nat.mod_lt n (by decide)) _ (Nat.mod_lt m (by decide)) (List.cons.inj last).1
      omega

theorem digits_inj {m : Nat} (same : digits n = digits m) : n = m := by
  have values := magnitude?_digits n
  rw [same, magnitude?_digits] at values
  exact (Option.some.inj values).symm

theorem isDigit_or_minus_of_mem_ofInt {n : Int} (inside : c ∈ (ofInt n).toList) : c.isDigit = true ∨ c = '-' := by
  cases n with
  | ofNat k =>
    rw [ofInt, ofNat, String.toList_ofList] at inside
    exact .inl (isDigit_of_mem_digits inside)
  | negSucc k =>
    have letters : (ofInt (.negSucc k)).toList = '-' :: digits (k + 1) := by simp [ofInt, ofNat]
    rw [letters] at inside
    rcases List.mem_cons.mp inside with minus | behind
    · exact .inr minus
    · exact .inl (isDigit_of_mem_digits behind)

theorem ne_underscore_of_mem_ofInt {n : Int} (inside : c ∈ (ofInt n).toList) : c ≠ '_' := by
  rintro rfl
  exact absurd (isDigit_or_minus_of_mem_ofInt inside) (by decide)

end Text.Numeral

theorem Text.underscore_inj {front front' : List Char} (none : ∀ c ∈ front, c ≠ '_') (none' : ∀ c ∈ front', c ≠ '_')
    (same : front ++ '_' :: rest = front' ++ '_' :: rest') : front = front' ∧ rest = rest' := by
  obtain ⟨fronts, rests⟩ := run_inj (p := fun c => c != '_') (by simpa using none) (by simpa using none')
    (by simp) (by simp) same
  exact ⟨fronts, (List.cons.inj rests).2⟩

theorem Base.code_inj {b b' : Base} (same : b.code = b'.code) : b = b' := by
  have found (b : Base) : all.find? (fun k => k.code == b.code) = some b := by cases b <;> rfl
  have bases := found b
  rw [same, found b'] at bases
  exact (Option.some.inj bases).symm

namespace Ty

theorem toList_code_base (b : Base) (m : Bool) : (base b m).code.toList = [b.code] := by simp [code]

theorem toList_code_pointer (t : Ty) (m : Bool) : (pointer t m).code.toList = 'P' :: t.code.toList := by simp [code]

theorem toList_code_array (n : Int) (t : Ty) (m : Bool) :
    (array n t m).code.toList = 'A' :: ((Text.Numeral.ofInt n).toList ++ '_' :: t.code.toList) := by simp [code]

/-- A type as its code shows it: with all its parts, and nowhere with the mark. -/
structure Coded (t : Ty) : Prop where
  complete : t.isComplete = true
  plain : t.isPlain = true

instance (t : Ty) : Decidable t.Coded :=
  decidable_of_iff (t.isComplete = true ∧ t.isPlain = true)
    ⟨fun both => ⟨both.1, both.2⟩, fun coded => ⟨coded.complete, coded.plain⟩⟩

theorem Coded.pointee {m : Bool} (coded : (pointer t m).Coded) : m = false ∧ t.Coded := by
  obtain ⟨unmarked, plain⟩ : m = false ∧ t.isPlain = true := by simpa [isPlain] using coded.plain
  exact ⟨unmarked, coded.complete, plain⟩

theorem Coded.element {n : Int} {m : Bool} (coded : (array n t m).Coded) : m = false ∧ t.Coded := by
  obtain ⟨unmarked, plain⟩ : m = false ∧ t.isPlain = true := by simpa [isPlain] using coded.plain
  exact ⟨unmarked, coded.complete, plain⟩

theorem Coded.code_inj {u : Ty} (coded : t.Coded) (coded' : u.Coded)
    (same : t.code.toList ++ rest = u.code.toList ++ rest') : t = u ∧ rest = rest' := by
  -- The first letter tells how the type is made, so that only types made alike are left.
  have letter (b : Base) : b.code ≠ 'P' ∧ b.code ≠ 'A' := by cases b <;> decide
  induction t generalizing u with
  | missing => cases coded.complete
  | base b m =>
    obtain rfl : m = false := by simpa [isPlain] using coded.plain
    rw [toList_code_base] at same
    cases u with
    | missing => cases coded'.complete
    | base b' m' =>
      obtain rfl : m' = false := by simpa [isPlain] using coded'.plain
      rw [toList_code_base] at same
      obtain ⟨codes, rests⟩ := List.cons.inj same
      exact ⟨by rw [Base.code_inj codes], rests⟩
    | pointer u m' =>
      rw [toList_code_pointer] at same
      exact ((letter b).1 (List.cons.inj same).1).elim
    | array n u m' =>
      rw [toList_code_array] at same
      exact ((letter b).2 (List.cons.inj same).1).elim
  | pointer t m ih =>
    obtain ⟨rfl, pointee⟩ := coded.pointee
    rw [toList_code_pointer] at same
    cases u with
    | missing => cases coded'.complete
    | base b' m' =>
      rw [toList_code_base] at same
      exact ((letter b').1 (List.cons.inj same).1.symm).elim
    | pointer u m' =>
      obtain ⟨rfl, pointee'⟩ := coded'.pointee
      rw [toList_code_pointer] at same
      obtain ⟨rfl, rests⟩ := ih pointee pointee' (List.cons.inj same).2
      exact ⟨rfl, rests⟩
    | array n u m' =>
      rw [toList_code_array] at same
      exact absurd (List.cons.inj same).1 (by decide)
  | array n t m ih =>
    obtain ⟨rfl, element⟩ := coded.element
    rw [toList_code_array] at same
    cases u with
    | missing => cases coded'.complete
    | base b' m' =>
      rw [toList_code_base] at same
      exact ((letter b').2 (List.cons.inj same).1.symm).elim
    | pointer u m' =>
      rw [toList_code_pointer] at same
      exact absurd (List.cons.inj same).1 (by decide)
    | array n' u m' =>
      obtain ⟨rfl, element'⟩ := coded'.element
      rw [toList_code_array] at same
      simp only [List.cons_append, List.append_assoc, List.cons.injEq, true_and] at same
      obtain ⟨sizes, behind⟩ := Text.underscore_inj (fun _ => Text.Numeral.ne_underscore_of_mem_ofInt)
        (fun _ => Text.Numeral.ne_underscore_of_mem_ofInt) same
      obtain rfl := Text.Numeral.ofInt_inj (String.toList_inj.mp sizes)
      obtain ⟨rfl, rests⟩ := ih element element' behind
      exact ⟨rfl, rests⟩

theorem Coded.code_ne_nil (coded : t.Coded) : t.code.toList ≠ [] := by
  cases t with
  | missing => cases coded.complete
  | base b m => simp [toList_code_base]
  | pointer t m => simp [toList_code_pointer]
  | array n t m => simp [toList_code_array]

theorem codes_inj {ts us : List Ty} (coded : ∀ t ∈ ts, t.Coded) (coded' : ∀ u ∈ us, u.Coded)
    (same : ts.flatMap (·.code.toList) = us.flatMap (·.code.toList)) : ts = us := by
  induction ts generalizing us with
  | nil =>
    cases us with
    | nil => rfl
    | cons u us => exact absurd (List.append_eq_nil_iff.mp same.symm).1 (coded' u List.mem_cons_self).code_ne_nil
  | cons t ts ih =>
    cases us with
    | nil => exact absurd (List.append_eq_nil_iff.mp same).1 (coded t List.mem_cons_self).code_ne_nil
    | cons u us =>
      obtain ⟨rfl, behind⟩ := (coded t List.mem_cons_self).code_inj (coded' u List.mem_cons_self) same
      have others := ih (fun t inside => coded t (List.mem_cons_of_mem _ inside))
        (fun u inside => coded' u (List.mem_cons_of_mem _ inside)) behind
      rw [others]

end Ty

namespace Mangle

theorem encodeChar_inj {d : Char} (same : encodeChar c ++ rest = encodeChar d ++ rest') : c = d ∧ rest = rest' := by
  have other {c : Char} (letter : c.isAlphanum = true) : c ≠ '_' := by
    rintro rfl
    exact absurd letter (by decide)
  unfold encodeChar at same
  by_cases letter : c.isAlphanum = true <;> by_cases letter' : d.isAlphanum = true
  · rw [if_pos letter, if_pos letter'] at same
    exact List.cons.inj same
  · rw [if_pos letter, if_neg letter'] at same
    exact (other letter (List.cons.inj same).1).elim
  · rw [if_neg letter, if_pos letter'] at same
    exact (other letter' (List.cons.inj same).1.symm).elim
  · rw [if_neg letter, if_neg letter'] at same
    simp only [List.cons_append, List.append_assoc, List.nil_append, List.cons.injEq, true_and] at same
    obtain ⟨codes, rests⟩ := Text.underscore_inj (fun _ => Text.Numeral.ne_underscore_of_mem_hex)
      (fun _ => Text.Numeral.ne_underscore_of_mem_hex) same
    exact ⟨Char.toNat_inj.mp (Text.Numeral.hex_inj codes), rests⟩

theorem encodeChar_ne_nil (c : Char) : encodeChar c ≠ [] := by
  unfold encodeChar
  split <;> simp

theorem encode_inj {cs ds : List Char} (same : encode cs = encode ds) : cs = ds := by
  induction cs generalizing ds with
  | nil =>
    cases ds with
    | nil => rfl
    | cons d ds => exact absurd (List.append_eq_nil_iff.mp same.symm).1 (encodeChar_ne_nil d)
  | cons c cs ih =>
    cases ds with
    | nil => exact absurd (List.append_eq_nil_iff.mp same).1 (encodeChar_ne_nil c)
    | cons d ds =>
      obtain ⟨rfl, behind⟩ := encodeChar_inj same
      rw [ih behind]

/-- A name and parameter types that their internal name tells. The name does not go on like the length in front of
it, and none of the types is void, which stands for no types at all. -/
structure Told (name : String) (types : List Ty) : Prop where
  filled : name ≠ ""
  first : name.toList.head?.all (fun c => !c.isDigit) = true
  coded : ∀ t ∈ types, t.Coded
  value : ∀ t ∈ types, t.isVoid = false

instance (name : String) (types : List Ty) : Decidable (Told name types) :=
  decidable_of_iff (name ≠ "" ∧ name.toList.head?.all (fun c => !c.isDigit) = true ∧
      (∀ t ∈ types, t.Coded) ∧ ∀ t ∈ types, t.isVoid = false)
    ⟨fun all => ⟨all.1, all.2.1, all.2.2.1, all.2.2.2⟩, fun told => ⟨told.filled, told.first, told.coded, told.value⟩⟩

theorem Told.head_encode (told : Told name types) (rest : List Char) :
    ∀ c ∈ (encode name.toList ++ rest).head?, c.isDigit = false := by
  obtain ⟨c, cs, split⟩ : ∃ c cs, name.toList = c :: cs :=
    List.exists_cons_of_ne_nil fun none => told.filled (String.toList_inj.mp none)
  have plain : c.isDigit = false := by simpa [split] using told.first
  rw [split]
  intro d inside
  simp only [Mangle.encode, List.flatMap_cons, encodeChar] at inside
  split at inside
  · obtain rfl : c = d := by simpa using inside
    exact plain
  · obtain rfl : '_' = d := by simpa using inside
    rfl

def shownTypes (types : List Ty) : List Ty := if types.isEmpty then [.void] else types

theorem toList_typeCodes (types : List Ty) :
    (typeCodes types).toList = (shownTypes types).flatMap (·.code.toList) := by
  cases types with
  | nil => rfl
  | cons t ts => simp [typeCodes, shownTypes, String.toList_join, List.flatMap_map]

theorem Told.shownTypes_coded (told : Told name types) : ∀ t ∈ shownTypes types, t.Coded := by
  cases types with
  | nil => exact List.forall_mem_singleton.mpr ⟨rfl, rfl⟩
  | cons t ts => exact told.coded

theorem Told.shownTypes_inj {name' : String} {types' : List Ty} (told : Told name types) (told' : Told name' types')
    (same : shownTypes types = shownTypes types') : types = types' := by
  have void : Ty.void.isVoid = true := rfl
  cases types with
  | nil =>
    cases types' with
    | nil => rfl
    | cons t ts =>
      obtain ⟨rfl, -⟩ := List.cons.inj same
      exact absurd void (by simp [told'.value _ List.mem_cons_self])
  | cons t ts =>
    cases types' with
    | nil =>
      obtain ⟨rfl, -⟩ := List.cons.inj same
      exact absurd void (by simp [told.value _ List.mem_cons_self])
    | cons u us => exact same

theorem toList_mangle (name : String) (types : List Ty) :
    (mangle name types).toList = '_' :: 'Z' :: (Text.Numeral.digits (encode name.toList).length ++
      (encode name.toList ++ (shownTypes types).flatMap (·.code.toList))) := by
  simp [mangle, Text.Numeral.ofNat, toList_typeCodes]

/-- Internal names are the same only for the same name and the same parameter types. -/
theorem mangle_eq_iff {name name' : String} {types types' : List Ty} (told : Told name types)
    (told' : Told name' types') : mangle name types = mangle name' types' ↔ name = name' ∧ types = types' := by
  refine ⟨fun same => ?_, fun same => by rw [same.1, same.2]⟩
  have letters := congrArg String.toList same
  rw [toList_mangle, toList_mangle] at letters
  -- The digits end where the name begins, and they say where the name ends.
  obtain ⟨lengths, behind⟩ := Text.run_inj (fun _ => Text.Numeral.isDigit_of_mem_digits)
    (fun _ => Text.Numeral.isDigit_of_mem_digits) (told.head_encode _) (told'.head_encode _)
    (List.cons.inj (List.cons.inj letters).2).2
  obtain ⟨names, codes⟩ := List.append_inj behind (Text.Numeral.digits_inj lengths)
  exact ⟨String.toList_inj.mp (encode_inj names),
    told.shownTypes_inj told' (Ty.codes_inj told.shownTypes_coded told'.shownTypes_coded codes)⟩

/-- A name spelt as another is encoded, and sizes that run into what stands behind them. -/
theorem mangle_eq_iff_spelt :
    mangle "_" [.arrayOf 1 .int32] ≠ mangle "_5f_" [.arrayOf 1 .int32] ∧
      mangle "a" [.arrayOf 1 (.arrayOf 2 .bool)] ≠ mangle "a" [.arrayOf 12 .bool] := by
  refine ⟨fun same => ?_, fun same => ?_⟩
  · exact absurd ((mangle_eq_iff (by decide) (by decide)).mp same).1 (by decide)
  · exact absurd ((mangle_eq_iff (by decide) (by decide)).mp same).2 (by decide)

end Mangle

end FormCompiler
