import FormCompiler.Proofs.Consistency
import FormCompiler.Proofs.Mangling

namespace FormCompiler

namespace Text

def runs (cs : List Char) : List (List Char) := (cutAtBlanks cs).1 :: (cutAtBlanks cs).2

theorem runs_blank {c : Char} (blank : isBlank c = true) (cs : List Char) : runs (c :: cs) = [] :: runs cs := by
  simp [runs, cutAtBlanks, blank]

theorem runs_append_blank {c : Char} (blank : isBlank c = true) (cs ds : List Char) :
    runs (cs ++ c :: ds) = runs cs ++ runs ds := by
  induction cs with
  | nil => exact runs_blank blank ds
  | cons d cs ih =>
    by_cases other : isBlank d = true
    · rw [List.cons_append, runs_blank other, runs_blank other, ih, List.cons_append]
    · have both := List.cons.inj ih
      simp only [runs, List.cons_append, cutAtBlanks, other] at both ⊢
      rw [both.1, both.2]
      rfl

theorem words_eq (s : String) :
    words s = ((runs s.toList).filter (fun w => !w.isEmpty)).map String.ofList := rfl

theorem words_blank_append (s rest : String) : words (s ++ " " ++ rest) = words s ++ words rest := by
  have letters : (s ++ " " ++ rest).toList = s.toList ++ ' ' :: rest.toList := by simp
  rw [words_eq, words_eq, words_eq, letters, runs_append_blank (by decide), List.filter_append, List.map_append]

theorem words_intercalate (texts : List String) : words (" ".intercalate texts) = texts.flatMap words := by
  induction texts with
  | nil => rfl
  | cons s texts ih =>
    cases texts with
    | nil => simp
    | cons t texts =>
      rw [String.intercalate_cons_cons, words_blank_append, ih]
      rfl

theorem last_inj {separator : Char} {front front' rest rest' : List Char} (none : separator ∉ rest)
    (none' : separator ∉ rest') (same : front ++ separator :: rest = front' ++ separator :: rest') :
    front = front' ∧ rest = rest' := by
  have apart {rest : List Char} (none : separator ∉ rest) : ∀ c ∈ rest.reverse, (c != separator) = true := by
    intro c inside
    refine bne_iff_ne.mpr fun same => none ?_
    exact same ▸ List.mem_reverse.mp inside
  have back := congrArg List.reverse same
  simp only [List.reverse_append, List.reverse_cons, List.append_assoc, List.singleton_append] at back
  obtain ⟨rests, fronts⟩ := run_inj (p := (· != separator)) (apart none) (apart none') (by simp) (by simp) back
  exact ⟨List.reverse_inj.mp (List.cons.inj fronts).2, List.reverse_inj.mp rests⟩

namespace Numeral

theorem byteHex_inj {a b : UInt8} (same : byteHex a = byteHex b) : a = b := by
  have small (a : UInt8) : a.toNat < 256 := a.toNat_lt
  obtain ⟨high, low⟩ := List.cons.inj same
  have quotients := digitChar_inj _ (by have := small a; omega) _ (by have := small b; omega) high
  have remainders := digitChar_inj _ (Nat.mod_lt _ (by decide)) _ (Nat.mod_lt _ (by decide)) (List.cons.inj low).1
  exact UInt8.toNat_inj.mp (by omega)

theorem flatMap_byteHex_inj {xs ys : List UInt8} (same : xs.flatMap byteHex = ys.flatMap byteHex) : xs = ys := by
  induction xs generalizing ys with
  | nil =>
    cases ys with
    | nil => rfl
    | cons y ys => cases same
  | cons x xs ih =>
    cases ys with
    | nil => cases same
    | cons y ys =>
      rw [List.flatMap_cons, List.flatMap_cons] at same
      obtain ⟨first, others⟩ := List.append_inj same rfl
      rw [byteHex_inj first, ih others]

end Numeral

end Text

namespace Ty

theorem bar_notMem_text (t : Ty) : '|' ∉ t.text.toList := by
  have marked {m : Bool} {s : String} (none : '|' ∉ s.toList) : '|' ∉ (text.mark m s).toList := by
    cases m with
    | false => exact none
    | true => simpa [text.mark] using none
  induction t with
  | missing => decide
  | base b m => exact marked (by cases b <;> decide)
  | pointer t m ih => exact marked (by simpa using ih)
  | array n t m ih =>
    have size : '|' ∉ (Text.Numeral.ofInt n).toList := fun inside =>
      absurd (Text.Numeral.isDigit_or_minus_of_mem_ofInt inside) (by decide)
    exact marked (by simpa using ⟨size, ih⟩)

theorem bar_notMem_texts (ts : List Ty) : '|' ∉ (" ".intercalate (ts.map text)).toList := by
  induction ts with
  | nil => simp
  | cons t ts ih =>
    cases ts with
    | nil => simpa using t.bar_notMem_text
    | cons u us =>
      rw [List.map_cons, List.map_cons, String.intercalate_cons_cons, String.toList_append, String.toList_append,
        List.mem_append, List.mem_append, not_or, not_or]
      exact ⟨⟨t.bar_notMem_text, by decide⟩, ih⟩

end Ty

namespace Store

theorem rowLe_iff {a b : Record} :
    rowLe a b = true ↔ a.name < b.name ∨ a.name = b.name ∧ a.unit ≤ b.unit := by
  rw [rowLe, Bool.or_eq_true, Bool.and_eq_true, Bool.not_eq_true', decide_eq_true_iff, decide_eq_false_iff_not,
    beq_iff_eq, String.not_lt]

theorem rowLe_trans (a b c : Record) (front : rowLe a b = true) (back : rowLe b c = true) : rowLe a c = true := by
  rw [rowLe_iff] at front back ⊢
  rcases front with front | ⟨front, units⟩ <;> rcases back with back | ⟨back, units'⟩
  · exact .inl (String.lt_trans front back)
  · exact .inl (back ▸ front)
  · exact .inl (front ▸ back)
  · exact .inr ⟨front.trans back, String.le_trans units units'⟩

theorem rowLe_total (a b : Record) : (rowLe a b || rowLe b a) = true := by
  rw [Bool.or_eq_true, rowLe_iff, rowLe_iff]
  by_cases less : a.name < b.name
  · exact .inl (.inl less)
  · by_cases more : b.name < a.name
    · exact .inr (.inl more)
    · have same : a.name = b.name := String.le_antisymm (String.not_lt.mp more) (String.not_lt.mp less)
      rcases String.le_total a.unit b.unit with units | units
      · exact .inl (.inr ⟨same, units⟩)
      · exact .inr (.inr ⟨same.symm, units⟩)

def Latest (saved : List Record) (r : Record) : Prop :=
  ∃ before after, saved = before ++ r :: after ∧ ∀ o ∈ after, o.fingerprint ≠ r.fingerprint

theorem latest_append_self (saved : List Record) (r : Record) : Latest (saved ++ [r]) r :=
  ⟨saved, [], rfl, by simp⟩

theorem Latest.append {saved : List Record} {r o : Record} (latest : Latest saved r)
    (apart : r.fingerprint ≠ o.fingerprint) : Latest (saved ++ [o]) r := by
  obtain ⟨before, after, rfl, others⟩ := latest
  refine ⟨before, after ++ [o], by simp, fun x inside => ?_⟩
  rcases List.mem_append.mp inside with earlier | last
  · exact others x earlier
  · rw [List.mem_singleton.mp last]
    exact apart.symm

structure Keeps (saved : List Record) (s : Store) : Prop where
  isOpen : s.isClosed = false
  nodup : (s.rows.map (·.fingerprint)).Nodup
  all : ∀ r ∈ saved, r.fingerprint ∈ s.rows.map (·.fingerprint)
  latest : ∀ row ∈ s.rows, ∃ r, Latest saved r ∧ row = rowOf r

theorem keeps_empty : Keeps [] {} := ⟨rfl, .nil, by simp, by simp⟩

theorem Keeps.save {saved : List Record} {s : Store} (keeps : Keeps saved s) (r : Record) :
    ∃ s', s.save r = .ok s' ∧ Keeps (saved ++ [r]) s' := by
  have others : ∀ row ∈ s.rows.filter (fun o => o.fingerprint != r.fingerprint), row ∈ s.rows ∧
      row.fingerprint ≠ r.fingerprint := by simp
  -- Nothing is left of the fingerprint but what is saved now, and of the others everything.
  refine ⟨_, save_of_open keeps.isOpen r, keeps.isOpen, ?_, ?_, ?_⟩
  · rw [List.map_append, List.nodup_append]
    refine ⟨(List.filter_sublist.map _).nodup keeps.nodup, by simp, fun f earlier g last => ?_⟩
    obtain ⟨row, kept, rfl⟩ := List.mem_map.mp earlier
    rw [List.mem_singleton.mp last]
    exact (others row kept).2
  · intro o inside
    by_cases same : o.fingerprint = r.fingerprint
    · rw [same]
      exact List.mem_map.mpr ⟨rowOf r, by simp, rfl⟩
    · have earlier : o ∈ saved := (List.mem_append.mp inside).resolve_right fun last =>
        same (List.mem_singleton.mp last ▸ rfl)
      obtain ⟨row, kept, named⟩ := List.mem_map.mp (keeps.all o earlier)
      have stays : row.fingerprint != r.fingerprint := bne_iff_ne.mpr (named ▸ same)
      exact List.mem_map.mpr ⟨row, List.mem_append_left _ (List.mem_filter.mpr ⟨kept, stays⟩), named⟩
  · intro row inside
    rcases List.mem_append.mp inside with kept | last
    · obtain ⟨kept, apart⟩ := others row kept
      obtain ⟨o, latest, rfl⟩ := keeps.latest row kept
      exact ⟨o, latest.append apart, rfl⟩
    · exact ⟨r, latest_append_self saved r, List.mem_singleton.mp last⟩

theorem Keeps.run {saved : List Record} {s : Store} (keeps : Keeps saved s) (rs : List Record) :
    ∃ s', rs.foldlM Store.save s = .ok s' ∧ Keeps (saved ++ rs) s' := by
  induction rs generalizing saved s with
  | nil => exact ⟨s, rfl, by rwa [List.append_nil]⟩
  | cons r rs ih =>
    obtain ⟨middle, stored, keeps⟩ := keeps.save r
    obtain ⟨s', rest, keeps⟩ := ih keeps
    refine ⟨s', ?_, by rwa [List.append_assoc] at keeps⟩
    rw [List.foldlM_cons, stored]
    exact rest

/-- However many records are saved, by whatever units, there is one for each of their fingerprints: the last. -/
theorem load_saved (rs : List Record) :
    ∃ s loaded, rs.foldlM save {} = .ok s ∧ s.load = .ok loaded ∧
      (loaded.map (·.fingerprint)).Nodup ∧
      (∀ r ∈ rs, r.fingerprint ∈ loaded.map (·.fingerprint)) ∧
      (∀ row ∈ loaded, ∃ r, Latest rs r ∧ row = { r with attributes := r.attributes.flatMap Text.words }) ∧
      loaded.Pairwise (fun a b => a.name < b.name ∨ a.name = b.name ∧ a.unit ≤ b.unit) := by
  obtain ⟨s, saved, keeps⟩ := keeps_empty.run rs
  have sorted := List.mergeSort_perm s.rows rowLe
  refine ⟨s, _, saved, load_of_open keeps.isOpen, ?_, ?_, ?_, ?_⟩
  · exact ((sorted.map _).nodup_iff).mpr keeps.nodup
  · exact fun r inside => ((sorted.map _).mem_iff).mpr (keeps.all r inside)
  · intro row inside
    obtain ⟨r, latest, rfl⟩ := keeps.latest row (sorted.mem_iff.mp inside)
    exact ⟨r, latest, by rw [rowOf, Text.words_intercalate]⟩
  · exact (List.pairwise_mergeSort rowLe_trans rowLe_total s.rows).imp rowLe_iff.mp

end Store

namespace Function

variable (name name' : String) (f g : Function)

def identity (name : String) (f : Function) : String := identityText name f.returnType.text (f.paramTypes.map Ty.text)

theorem identity_eq_iff : identity name f = identity name' g ↔ name = name' ∧ f.sameAs g = true := by
  have letters (name : String) (f : Function) : (identity name f).toList =
      (name.toList ++ '|' :: f.returnType.text.toList) ++
        '|' :: (" ".intercalate (f.paramTypes.map Ty.text)).toList := by
    simp [identity, identityText]
  rw [Function.sameAs_iff]
  constructor
  · intro same
    have same := congrArg String.toList same
    rw [letters, letters] at same
    obtain ⟨fronts, params⟩ := Text.last_inj (Ty.bar_notMem_texts _) (Ty.bar_notMem_texts _) same
    obtain ⟨names, returns⟩ := Text.last_inj (Ty.bar_notMem_text _) (Ty.bar_notMem_text _) fronts
    exact ⟨String.toList_inj.mp names, Ty.text_inj (String.toList_inj.mp returns),
      Ty.texts_inj (String.toList_inj.mp params)⟩
  · rintro ⟨rfl, returns, params⟩
    rw [identity, identity, returns, params]

/-- Fingerprints tell functions by their names and types, whatever stands in the names, unless two texts have the same
digest. -/
theorem fingerprint_eq_iff (unit unit' : String)
    (apart : Blake2b.digest (Octets.ofString (identity name f)) = Blake2b.digest (Octets.ofString (identity name' g)) →
      Octets.ofString (identity name f) = Octets.ofString (identity name' g)) :
    (identity name f = identity name' g ↔ name = name' ∧ f.sameAs g = true) ∧
    ((Record.ofFunction unit name f).fingerprint = (Record.ofFunction unit' name' g).fingerprint ↔
      name = name' ∧ f.sameAs g = true) := by
  refine ⟨identity_eq_iff name name' f g, ?_⟩
  rw [← identity_eq_iff]
  constructor
  · intro same
    have digests := Text.Numeral.flatMap_byteHex_inj (String.ofList_injective same)
    exact Octets.ofString_inj (apart digests)
  · intro same
    show fingerprintOf _ _ _ = fingerprintOf _ _ _
    unfold fingerprintOf
    rw [show identityText name f.returnType.text (f.paramTypes.map Ty.text) = identity name f from rfl, same]
    rfl

/-- A name with bars in it that makes the texts of two functions all but the same. -/
theorem fingerprint_eq_iff_barred :
    let f : Function := { returnType := .bool, params := [], internalName := [] }
    let g : Function := { returnType := .int32, params := [⟨"x", .bool, none⟩], internalName := [] }
    identity "f|int32" f = identity "f" g ++ "|" ∧
      (Record.ofFunction "0" "f|int32" f).fingerprint ≠ (Record.ofFunction "0" "f" g).fingerprint := by
  intro f g
  have facts : identity "f|int32" f = identity "f" g ++ "|" ∧
      Blake2b.digest (Octets.ofString (identity "f|int32" f)) ≠ Blake2b.digest (Octets.ofString (identity "f" g)) := by
    decide +kernel
  refine ⟨facts.1, fun same => ?_⟩
  have both := (fingerprint_eq_iff "f|int32" "f" f g "0" "0" fun same => absurd same facts.2).2.mp same
  exact absurd both.1 (by decide)

end Function

end FormCompiler
