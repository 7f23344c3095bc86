import FormCompiler.Database.Records
import FormCompiler.Proofs.Consistency

namespace FormCompiler

namespace Octets

theorem encodeChar_lt {c d : Char} (less : c < d) (x y : Octets) :
    String.utf8EncodeChar c ++ x < String.utf8EncodeChar d ++ y := by
  have less : c.val.toNat < d.val.toNat := less
  have valid : d.val.toNat < 0x110000 := by
    rcases d.valid with h | ⟨-, h⟩
    · exact Nat.lt_trans h (by decide)
    · exact h
  have small (v : Nat) : (v % 64 + 128) % 256 = v % 64 + 128 ∧ (v % 32 + 192) % 256 = v % 32 + 192 ∧
      (v % 16 + 224) % 256 = v % 16 + 224 ∧ (v % 8 + 240) % 256 = v % 8 + 240 := by omega
  have nested (v : Nat) : v / 4096 = v / 64 / 64 ∧ v / 262144 = v / 64 / 64 / 64 := by omega
  rw [String.utf8EncodeChar, String.utf8EncodeChar]
  repeat' split
  all_goals
    simp only [List.cons_append, List.nil_append, List.cons_lt_cons_iff, UInt8.lt_iff_toNat_lt, ← UInt8.toNat_inj,
      UInt8.toNat_ofNat', Nat.reducePow, small, nested]
    omega

theorem ofString_lt {s t : String} (less : s < t) : ofString s < ofString t := by
  have encoded {cs ds : List Char} (less : cs < ds) :
      cs.flatMap String.utf8EncodeChar < ds.flatMap String.utf8EncodeChar := by
    induction less with
    | @nil d ds =>
      cases encoded : String.utf8EncodeChar d with
      | nil => exact absurd encoded String.utf8EncodeChar_ne_nil
      | cons => simp [encoded]
    | rel less => exact encodeChar_lt less _ _
    | cons _ ih => exact List.append_left_lt ih
  rw [ofString_eq_flatMap, ofString_eq_flatMap]
  exact encoded less

end Octets

namespace Bytes

theorem byte_eq {b : ByteArray} {i : Nat} {x : UInt8} {rest : List UInt8} (here : b.data.toList.drop i = x :: rest) :
    byte b i = x.toNat := by
  have inside : i < b.data.toList.length := by
    refine Nat.lt_of_not_le fun past => ?_
    rw [List.drop_eq_nil_of_le past] at here
    cases here
  have first : b.data.toList[i] = x := by
    rw [List.drop_eq_getElem_cons inside] at here
    exact (List.cons.inj here).1
  rw [byte, getElem?_pos b i inside, ← first]
  rfl

theorem extract_eq {b s : ByteArray} {i : Nat} {rest : List UInt8}
    (here : b.data.toList.drop i = s.data.toList ++ rest) : b.extract i (i + s.size) = s := by
  apply ByteArray.ext
  apply Array.toList_inj.mp
  rw [ByteArray.data_extract, Array.toList_extract, List.extract_eq_take_drop, here, Nat.add_sub_cancel_left]
  exact List.take_left

theorem length_groups (fuel n : Nat) (tail : List UInt8) :
    tail.length ≤ (groups fuel n tail).length ∧ (groups fuel n tail).length ≤ fuel + tail.length := by
  induction fuel generalizing n tail with
  | zero => simp [groups]
  | succ fuel ih =>
    rw [groups]
    split
    · omega
    · have := ih (n / 128) ((n % 128 + 128).toUInt8 :: tail)
      rw [List.length_cons] at this
      omega

theorem length_ofVarint {n : Nat} (fits : n < 0x100000000000000) :
    1 ≤ (ofVarint n).length ∧ (ofVarint n).length ≤ 9 := by
  rw [ofVarint, if_pos fits]
  exact length_groups 8 (n / 128) [(n % 128).toUInt8]

theorem ofVarint_small {n : Nat} (small : n < 128) : ofVarint n = [n.toUInt8] := by
  have none : n / 128 = 0 := Nat.div_eq_of_lt small
  rw [ofVarint, if_pos (by omega), none, Nat.mod_eq_of_lt small]
  rfl

-- The groups of a number stand with the highest first, so that reading them brings it back from nothing.
theorem go_groups {b : ByteArray} {i k j fuel n : Nat} {tail rest : List UInt8} (more : Nat)
    (fits : n < Nat.pow 128 j) (enough : j ≤ fuel) (here : b.data.toList.drop (i + k) = groups fuel n tail ++ rest) :
    ∃ l ≤ j, (groups fuel n tail).length = l + tail.length ∧ b.data.toList.drop (i + (k + l)) = tail ++ rest ∧
      varint.go b i (more + j) 0 k = varint.go b i (more + (j - l)) n (k + l) := by
  induction fuel generalizing n j more tail with
  | zero =>
    obtain rfl : j = 0 := Nat.le_zero.mp enough
    obtain rfl : n = 0 := Nat.lt_one_iff.mp fits
    exact ⟨0, Nat.le_refl 0, (Nat.zero_add _).symm, here, rfl⟩
  | succ fuel ih =>
    rw [groups] at here ⊢
    split at here
    · rename_i none
      rw [if_pos none, none]
      exact ⟨0, Nat.zero_le j, (Nat.zero_add _).symm, here, rfl⟩
    · rename_i some_
      obtain ⟨j, rfl⟩ : ∃ m, j = m + 1 := Nat.exists_eq_succ_of_ne_zero fun none => by
        subst none
        exact some_ (Nat.lt_one_iff.mp fits)
      have fewer : n / 128 < Nat.pow 128 j := (Nat.div_lt_iff_lt_mul (by decide)).mpr fits
      obtain ⟨l, least, length, there, run⟩ := ih (more + 1) fewer (Nat.le_of_succ_le_succ enough) here
      have octet : (n % 128 + 128).toUInt8.toNat = n % 128 + 128 := by simp; omega
      rw [if_neg some_]
      refine ⟨l + 1, Nat.succ_le_succ least, by rw [length, List.length_cons]; omega, ?_, ?_⟩
      · rw [← Nat.add_assoc, ← Nat.add_assoc, ← List.drop_drop, Nat.add_assoc, there]
        rfl
      · have sums : more + 1 + j = more + (j + 1) ∧ more + 1 + (j - l) = more + (j + 1 - (l + 1)) + 1 := by omega
        rw [sums.1, sums.2, varint.go, byte_eq there, octet, if_neg (by omega)] at run
        rw [run]
        congr 1
        omega

theorem varint_ofVarint {b : ByteArray} {i n : Nat} {rest : List UInt8} (fits : n < 0x100000000000000)
    (here : b.data.toList.drop i = ofVarint n ++ rest) : varint b i = (n, (ofVarint n).length) := by
  rw [ofVarint, if_pos fits] at here ⊢
  have few : n / 128 < Nat.pow 128 7 := (Nat.div_lt_iff_lt_mul (by decide)).mpr fits
  obtain ⟨l, least, length, there, run⟩ := go_groups (k := 0) 1 few (by omega) here
  have last : (n % 128).toUInt8.toNat = n % 128 := by simp; omega
  rw [varint, run, Nat.add_comm 1, varint.go, byte_eq there, last, if_pos (by omega), length, Nat.zero_add]
  congr 1
  omega

end Bytes

namespace Database.Row

theorem lengthOf_text (n : Nat) : lengthOf (13 + 2 * n) = n := by
  unfold lengthOf
  split <;> omega

theorem value_text (b : ByteArray) (n i : Nat) : value .utf8 b (13 + 2 * n) i = .text (b.extract i (i + n)) := by
  unfold value
  split
  all_goals try omega
  rw [if_neg (by omega), lengthOf_text, if_neg (by omega), if_pos rfl]

theorem kind_lt {s : ByteArray} (fits : s.size ≤ Function.maxLength) : 13 + 2 * s.size < 0x100000000000000 := by
  have : s.size ≤ 1000000000 := fits
  omega

abbrev Fit (texts : List ByteArray) : Prop := ∀ s ∈ texts, s.size ≤ Function.maxLength

def kinds (texts : List ByteArray) : List UInt8 := texts.flatMap fun s => Bytes.ofVarint (13 + 2 * s.size)

def octets (texts : List ByteArray) : List UInt8 := texts.flatMap fun s => s.data.toList

theorem length_kinds {texts : List ByteArray} (fit : Fit texts) : (kinds texts).length ≤ 9 * texts.length := by
  induction texts with
  | nil => exact Nat.le_refl 0
  | cons s texts ih =>
    obtain ⟨fits, fit⟩ := List.forall_mem_cons.mp fit
    have first := Bytes.length_ofVarint (kind_lt fits)
    have rest := ih fit
    rw [kinds, List.flatMap_cons, List.length_append, List.length_cons]
    rw [kinds] at rest
    omega

theorem write_texts {texts : List ByteArray} (short : (kinds texts).length < 127) :
    (write .utf8 (texts.map .text)).data.toList =
      ((kinds texts).length + 1).toUInt8 :: (kinds texts ++ octets texts) := by
  have joined (b : ByteArray) : ((texts.map fun s => (13 + 2 * s.size, s)).foldl (fun b p => b ++ p.2) b).data.toList =
      b.data.toList ++ octets texts := by
    clear short
    induction texts generalizing b with
    | nil => simp [octets]
    | cons s texts ih =>
      rw [List.map_cons, List.foldl_cons, ih]
      simp [octets]
  have parts : (texts.map Value.text).map (encode .utf8) = texts.map fun s => (13 + 2 * s.size, s) := by
    rw [List.map_map]
    rfl
  have kinded : (texts.map fun s => (13 + 2 * s.size, s)).flatMap (fun p => Bytes.ofVarint p.1) = kinds texts := by
    rw [List.flatMap_map]
    rfl
  rw [write, parts, kinded, if_pos (by omega), joined, Bytes.ofVarint_small (by omega)]
  simp

theorem go_texts {b : ByteArray} {header at_ offset : Nat} {values : Array Value} {texts : List ByteArray}
    (fit : Fit texts) {rest : List UInt8} (kinded : b.data.toList.drop at_ = kinds texts ++ rest)
    (stop : at_ + (kinds texts).length = header) (kept : b.data.toList.drop offset = octets texts)
    (inside : offset ≤ b.size) :
    read?.go .utf8 b header texts.length at_ offset values = some (values ++ (texts.map Value.text).toArray) := by
  induction texts generalizing at_ offset values with
  | nil => simp [read?.go]
  | cons s texts ih =>
    obtain ⟨fits, fit⟩ := List.forall_mem_cons.mp fit
    have first : kinds (s :: texts) = Bytes.ofVarint (13 + 2 * s.size) ++ kinds texts := List.flatMap_cons ..
    have body : octets (s :: texts) = s.data.toList ++ octets texts := List.flatMap_cons ..
    have some_ := Bytes.length_ofVarint (kind_lt fits)
    have total : b.size = offset + (s.size + (octets texts).length) := by
      have := congrArg List.length kept
      rw [List.length_drop, body, List.length_append] at this
      have : s.data.toList.length = s.size := rfl
      have : b.data.toList.length = b.size := rfl
      omega
    rw [first, List.append_assoc] at kinded
    rw [first, List.length_append] at stop
    have part : b.extract offset (offset + s.size) = s := Bytes.extract_eq (kept.trans body)
    have last : header ≤ at_ + (Bytes.ofVarint (13 + 2 * s.size)).length → offset + s.size = b.size := by
      intro past
      cases texts with
      | nil =>
        rw [total]
        rfl
      | cons t texts =>
        have more := Bytes.length_ofVarint (kind_lt (fit t List.mem_cons_self))
        rw [kinds, List.flatMap_cons, List.length_append] at stop
        omega
    have whole : ¬(b.size < offset + s.size ∨ header ≤ at_ + (Bytes.ofVarint (13 + 2 * s.size)).length ∧
        (header < at_ + (Bytes.ofVarint (13 + 2 * s.size)).length ∨ offset + s.size ≠ b.size)) := by
      rintro (short | ⟨past, short | other⟩)
      · omega
      · omega
      · exact other (last past)
    rw [List.length_cons, read?.go, if_neg (by omega), Bytes.varint_ofVarint (kind_lt fits) kinded]
    dsimp only
    rw [lengthOf_text, value_text, part, if_neg (by simpa using whole), ih fit]
    · simp
    · rw [← List.drop_drop, kinded]
      exact List.drop_left
    · omega
    · rw [← List.drop_drop, kept, body]
      exact List.drop_left
    · omega

theorem read?_write {texts : List ByteArray} (fit : Fit texts) (few : texts.length < 15) :
    read? .utf8 (write .utf8 (texts.map .text)) texts.length = some (texts.map Value.text).toArray := by
  have short := length_kinds fit
  have all := write_texts (show (kinds texts).length < 127 by omega)
  generalize write .utf8 (texts.map .text) = b at all
  have header : Bytes.varint b 0 = ((kinds texts).length + 1, 1) := by
    have here : b.data.toList.drop 0 = Bytes.ofVarint ((kinds texts).length + 1) ++ (kinds texts ++ octets texts) := by
      rw [Bytes.ofVarint_small (by omega)]
      exact all
    rw [Bytes.varint_ofVarint (by omega) here, Bytes.ofVarint_small (by omega)]
    rfl
  have size : b.size = 1 + (kinds texts).length + (octets texts).length := by
    have size : b.data.toList.length = b.size := rfl
    rw [← size, all]
    simp
    omega
  have kinded : b.data.toList.drop 1 = kinds texts ++ octets texts := by
    rw [all]
    rfl
  rw [read?, header]
  dsimp only
  rw [if_neg (by simp; omega), go_texts fit kinded]
  · simp
  · omega
  · rw [all]
    simp
  · omega

end Database.Row

namespace Database

theorem compareOctets_eq (a b : Octets) : compareOctets a b = compareOfLessAndEq a b := by
  induction a generalizing b with
  | nil => cases b <;> simp [compareOctets, compareOfLessAndEq]
  | cons x a ih =>
    cases b with
    | nil => simp [compareOctets, compareOfLessAndEq]
    | cons y b =>
      by_cases same : x = y
      · simp [compareOctets, compareOfLessAndEq, same, ih]
      · rw [compareOctets, if_neg same, compareOfLessAndEq]
        by_cases less : x < y <;> simp [compare, compareOfLessAndEq, List.cons_lt_cons_iff, same, less]

theorem String.lt_of_not_lt {s t : String} (other : s ≠ t) (less : ¬s < t) : t < s :=
  Decidable.byContradiction fun more => other (String.le_antisymm (String.not_lt.mp more) (String.not_lt.mp less))

theorem Value.order_ofString (s t : String) : (Value.ofString s).order .binary .utf8 (.ofString t) =
    if s < t then .lt else if s = t then .eq else .gt := by
  show compareOctets (Octets.ofString s) (Octets.ofString t) = _
  rw [compareOctets_eq, compareOfLessAndEq]
  by_cases less : s < t
  · rw [if_pos less, if_pos (Octets.ofString_lt less)]
  · by_cases same : s = t
    · subst same
      simp
    · have more := Octets.ofString_lt (String.lt_of_not_lt same less)
      have other : Octets.ofString s ≠ Octets.ofString t := mt Octets.ofString_inj same
      rw [if_neg less, if_neg same, if_neg (List.lt_asymm more), if_neg other]

theorem Work.bind_of_ok {α β : Type} {x : Work α} {f : α → Work β} {a : α} {c d : Connection} (run : x c = .ok a d) :
    (x >>= f) c = f a d := by
  simp only [Bind.bind, EStateM.bind, run]

theorem Stream.toArray_mapM {α β : Type} {as : Array α} {h : α → Work β} {bs : List β} {c : Connection}
    (each : as.toList.map (h · c) = bs.map (.ok · c)) : ((Stream.ofArray as).mapM h).toArray c = .ok bs.toArray c := by
  have fold (fuel i : Nat) (xs : Array β) {bs : List β} (rest : i + fuel = as.size)
      (each : (as.toList.drop i).map (h · c) = bs.map (.ok · c)) :
      foldArray (fun xs a => do return .more (xs.push (← h a))) as fuel i xs c = .ok (.more (xs ++ bs.toArray)) c := by
    induction fuel generalizing i xs bs with
    | zero =>
      have past : as.toList.drop i = [] := List.drop_eq_nil_of_le (by simp; omega)
      rw [past, eq_comm, List.map_nil, List.map_eq_nil_iff] at each
      rw [foldArray, each, Array.append_empty]
      rfl
    | succ fuel ih =>
      have inside : i < as.size := by omega
      have first : as.toList.drop i = as[i] :: as.toList.drop (i + 1) :=
        List.drop_eq_getElem_cons (by simpa using inside)
      rw [first, List.map_cons, eq_comm, List.map_eq_cons_iff] at each
      obtain ⟨b, bs, rfl, here, each⟩ := each
      have pushed : (h as[i] >>= fun b => (return .more (xs.push b) : Work (Flow (Array β)))) c =
          .ok (.more (xs.push b)) c := Work.bind_of_ok here.symm
      have step := ih (i + 1) (xs.push b) (by omega) each.symm
      rw [foldArray, dif_pos inside, Work.bind_of_ok pushed]
      simpa using step
  have all := fold as.size 0 #[] (Nat.zero_add _) each
  rw [Array.empty_append] at all
  exact Work.bind_of_ok all

theorem Work.holds_fingerprint {runner : Runner} {env : Env} {p : Position} {r : Record} {fingerprint : String}
    {c : Connection} (row : (env.place p).values = (rowOf r).toArray)
    (given : env.parameters[0]? = some (.ofString fingerprint)) (utf8 : c.encoding = .utf8) :
    holds runner env (.compare .eq ⟨.text, .binary⟩ (.column p 0) (.parameter 1)) c =
      .ok (r.fingerprint == fingerprint) c := by
  have same : ((Value.ofString r.fingerprint).order .binary c.encoding (.ofString fingerprint) == .eq) =
      (r.fingerprint == fingerprint) := by
    rw [utf8, Value.order_ofString]
    by_cases same : r.fingerprint = fingerprint
    · simp [same]
    · by_cases less : r.fingerprint < fingerprint <;> simp [same, less]
  have evaluated : eval runner termDepth env (.compare .eq ⟨.text, .binary⟩ (.column p 0) (.parameter 1)) c =
      .ok ⟨.ofTruth (some (r.fingerprint == fingerprint)), false⟩ c := by
    rw [← same, show termDepth = 4998 + 1 + 1 from rfl]
    simp only [eval, row, given]
    rfl
  have value : valueOf runner env (.compare .eq ⟨.text, .binary⟩ (.column p 0) (.parameter 1)) c =
      .ok (.ofTruth (some (r.fingerprint == fingerprint))) c := bind_of_ok evaluated
  rw [holds, show termDepth = 4999 + 1 from rfl, decideBy, bind_of_ok value]
  · cases r.fingerprint == fingerprint <;> rfl
  all_goals simp

/-- A record as it is kept: blanks part its attributes. -/
def kept (r : Record) : Record := { r with attributes := Text.words (" ".intercalate r.attributes) }

theorem Work.readRecords_after {α β : Type} {fields : Array Field} {x : Work α} {a : α} {c d : Connection}
    (run : x c = .ok a d) (rows : α → Stream β) (values : β → List Value) :
    readRecords fields ((Stream.after x rows).map values) c = readRecords fields ((rows a).map values) d := by
  simp only [readRecords, Stream.toArray, Stream.mapM, Stream.map, Stream.after, Bind.bind, EStateM.bind, run]

theorem scanRow_texts {fields : List (Field × Nat)}
    (untimed : ∀ f ∈ fields, momentTypes.contains (Word.lower f.1.type) = false) {texts : List ByteArray}
    (same : fields.length = texts.length) :
    scanRow fields (texts.map .text) = .ok (texts.map (·.data.toList)) := by
  unfold scanRow
  induction fields generalizing texts with
  | nil =>
    obtain rfl := List.length_eq_zero_iff.mp same.symm
    rfl
  | cons f fields ih =>
    cases texts with
    | nil => cases same
    | cons b texts =>
      obtain ⟨first, untimed⟩ := List.forall_mem_cons.mp untimed
      have rest := ih untimed (Nat.succ.inj same)
      rw [List.map_cons, List.zip_cons_cons, List.mapM_cons, rest]
      simp only [scan?, first]
      rfl

theorem recordOf_textsOf (r : Record) : recordOf ((textsOf r).map (·.data.toList)) = kept r := by
  have text (s : String) : Octets.text s.toByteArray.data.toList = s := Octets.text_ofString s
  simp [recordOf, textsOf, kept, text]

def keysOf (r : Record) : List Value := [.ofString r.name, .ofString r.unit]

structure SortKey.Plain {τ : Type} (k : SortKey τ) : Prop where
  collation : k.collation = .binary
  ascending : k.isDescending = false
  nulls : k.nullsFirst = none

theorem orderRows_keysOf {τ : Type} {k l : SortKey τ} (plain : k.Plain) (plain' : l.Plain) (a b : Record) :
    (orderRows .utf8 [k, l] (keysOf a) (keysOf b) != .gt) = Store.rowLe a b := by
  have order {k : SortKey τ} (plain : k.Plain) (s t : String) :
      orderBy .utf8 k.collation k.isDescending k.nullsFirst (.ofString s) (.ofString t) =
        if s < t then .lt else if s = t then .eq else .gt := by
    rw [plain.collation, plain.ascending, plain.nulls]
    exact Value.order_ofString s t
  simp only [keysOf, orderRows, order plain, order plain', Store.rowLe]
  by_cases less : a.name < b.name
  · simp [less]
  · by_cases same : a.name = b.name
    · by_cases before : a.unit < b.unit
      · simp [same, before, String.lt_asymm before]
      · by_cases unit : a.unit = b.unit
        · simp [same, unit]
        · simp [same, before, unit, String.lt_of_not_lt unit before]
    · simp [less, same]

theorem readRecords_sorted {τ α : Type} {k l : SortKey τ} (plain : k.Plain) (plain' : l.Plain) {fields : Array Field}
    (eight : fields.size = 8) (untimed : ∀ f ∈ fields, momentTypes.contains (Word.lower f.type) = false)
    {rows : Array (List Value × α)} (values : α → List Value) {rs : List Record}
    (held : rows.toList.map (fun row => (row.1, values row.2)) = rs.map fun r => (keysOf r, rowOf r)) (c : Connection) :
    Work.readRecords fields ((Stream.ofArray (sortRows .utf8 [k, l] rows)).map fun row => values row.2) c =
      .ok ((rs.map kept).mergeSort Store.rowLe) c := by
  let before (a b : List Value × List Value) : Bool := orderRows .utf8 [k, l] a.1 b.1 != .gt
  have sorted : (sortRows .utf8 [k, l] rows).toList.map (fun row => (row.1, values row.2)) =
      (rs.mergeSort Store.rowLe).map fun r => (keysOf r, rowOf r) := by
    rw [sortRows, List.map_mergeSort (s := before) fun _ _ _ _ => rfl, held]
    exact (List.map_mergeSort fun a _ b _ => (orderRows_keysOf plain plain' a b).symm).symm
  let read (row : List Value) : Work Record := do return recordOf (← Work.ofExcept (scanRow fields.toList.zipIdx row))
  have each (r : Record) : read (rowOf r) c = .ok (kept r) c := by
    have scanned : scanRow fields.toList.zipIdx (rowOf r) = .ok ((textsOf r).map (·.data.toList)) := by
      refine scanRow_texts (fun f inside => untimed f.1 ?_) (by simp [eight, textsOf])
      exact Array.mem_toList_iff.mp (List.fst_mem_of_mem_zipIdx inside)
    rw [← recordOf_textsOf]
    show (Work.ofExcept _ >>= _) c = _
    rw [scanned]
    rfl
  have each : (sortRows .utf8 [k, l] rows).toList.map (fun row => read (values row.2) c) =
      ((rs.mergeSort Store.rowLe).map kept).map (.ok · c) := by
    have all := congrArg (List.map fun row => read row.2 c) sorted
    simpa [Function.comp_def, each] using all
  have load : (rs.map kept).mergeSort Store.rowLe = (rs.mergeSort Store.rowLe).map kept :=
    (List.map_mergeSort (f := kept) (s := Store.rowLe) fun _ _ _ _ => rfl).symm
  rw [load]
  exact Work.bind_of_ok (Stream.toArray_mapM each)

/-- What the pages of a table keep, in the order of its row numbers. -/
def Connection.rowsOf (c : Connection) (i : Nat) (t : Table) : List ByteArray :=
  match (do Work.enter i; Work.storedRows i t : Work _) c with
  | .ok (items, none) _ => items.toList.map (·.2)
  | _ => []

/-- The rows of a table, read back, are those of what a store holds. -/
def Holds (rows : List ByteArray) (s : Store) : Prop :=
  ∃ held : List (ByteArray × Record), rows = held.map (·.1) ∧ s = { rows := (held.map (·.2)).map kept } ∧
    ∀ p ∈ held, Row.read? .utf8 p.1 8 = some (rowOf p.2).toArray

/-- What the condition of the deletion says of a row. -/
def isDeleted (r : Record) (values : Array Value) : Work Bool :=
  Work.holds engine { frames := [{ places := #[{ values }] }], parameters := #[.ofString r.fingerprint] }
    (.compare .eq ⟨.text, .binary⟩ (.column ⟨0, 0⟩ 0) (.parameter 1))

theorem Holds.save {rows : List ByteArray} {s : Store} (h : Holds rows s) {r : Record}
    (fit : Row.Fit (textsOf r)) {c : Connection} (utf8 : c.encoding = .utf8) {isTaken : ByteArray → Bool}
    (taken : ∀ b ∈ rows, ∀ values, Row.read? .utf8 b 8 = some values → isDeleted r values c = .ok (isTaken b) c) :
    ∃ s', s.save r = .ok s' ∧ Holds (rows.filter (!isTaken ·) ++ [Row.write .utf8 (rowOf r)]) s' := by
  obtain ⟨held, rfl, rfl, read⟩ := h
  have agree : ∀ p ∈ held, (!isTaken p.1) = (p.2.fingerprint != r.fingerprint) := by
    intro p inside
    have tested := taken p.1 (List.mem_map_of_mem inside) _ (read p inside)
    rw [isDeleted, Work.holds_fingerprint rfl rfl utf8] at tested
    have same : (p.2.fingerprint == r.fingerprint) = isTaken p.1 := EStateM.Result.ok.inj tested |>.1
    rw [← same]
    rfl
  refine ⟨_, rfl, held.filter (fun p => p.2.fingerprint != r.fingerprint) ++ [(Row.write .utf8 (rowOf r), r)],
    ?_, ?_, ?_⟩
  · rw [List.filter_map, List.map_append, ← List.filter_congr agree]
    rfl
  · simp [List.filter_map, Function.comp_def, kept]
  · intro p inside
    rcases List.mem_append.mp inside with old | new
    · exact read p (List.mem_filter.mp old).1
    · rw [List.mem_singleton.mp new]
      exact Row.read?_write fit (show 8 < 15 by decide)

namespace Connection

variable {c c₁ c₂ c₃ d : Connection} {i : Nat} {t : Table} {s : Store}

/-- Where the deletion leaves the rows that its condition does not take and the insertion puts its row last,
a connection saves what the store saves. -/
theorem save_refines (h : Holds (c.rowsOf i t) s) {r : Record} (fit : Row.Fit (textsOf r))
    (begun : Work.execute c.beginning [] c = .ok () c₁) (utf8 : c₁.encoding = .utf8)
    (deleted : Work.execute deletion [.ofString r.fingerprint] c₁ = .ok () c₂)
    (inserted : Work.execute insertion (rowOf r) c₂ = .ok () c₃)
    (committed : Work.execute (Octets.ofString "commit") [] c₃ = .ok () d) {isTaken : ByteArray → Bool}
    (taken : ∀ b ∈ c.rowsOf i t, ∀ values, Row.read? .utf8 b 8 = some values →
      isDeleted r values c₁ = .ok (isTaken b) c₁)
    (left : c₂.rowsOf i t = (c.rowsOf i t).filter (!isTaken ·))
    (last : d.rowsOf i t = c₂.rowsOf i t ++ [Row.write .utf8 (rowOf r)]) :
    c.save r = (.ok (), d) ∧ ∃ s', s.save r = .ok s' ∧ Holds (d.rowsOf i t) s' := by
  constructor
  · simp only [save, ask, request, begun, deleted, inserted, committed]
  · rw [last, left]
    exact h.save fit utf8 taken

def shown (b : ByteArray) : List Value × List Value :=
  let row := (Row.read? .utf8 b 8).getD #[]
  ([row.getD 2 .null, row.getD 1 .null], row.toList)

/-- Where the query gathers the rows of the table, a connection loads what the store loads. -/
theorem load_refines (h : Holds (c.rowsOf i t) s) {q : Select} {k l : SortKey Term} (order : q.order = [k, l])
    (plain : k.Plain) (plain' : l.Plain)
    (whole : q.group = none ∧ q.having = none ∧ q.windows = [] ∧ q.isDistinct = false ∧ q.limit = none)
    {fields : Array Field} (eight : fields.size = 8)
    (untimed : ∀ f ∈ fields, momentTypes.contains (Word.lower f.type) = false)
    (planned : ∀ records, Work.readRecords fields
      ((engine.rows {} (.select q)).map fun row => row.toList.map (·.value)) c₁ = .ok records c₂ →
        Work.loadRecords c = .ok records d)
    (utf8 : c₂.encoding = .utf8) {gathered : Array (List Value × Tuple)}
    (gather : let runner : Runner := ⟨Work.planRows Work.supply 1999, Work.supply⟩
      (((Work.selectedPlaces runner {} q).map fun places => { places }).mapM
        (Work.project runner {} q)).toArray c₁ = .ok gathered c₂)
    (same : gathered.toList.map (fun row => (row.1, row.2.toList.map (·.value))) = (c.rowsOf i t).map shown) :
    ∃ records, s.load = .ok records ∧ c.load = (.ok records, d) := by
  obtain ⟨held, stored, rfl, read⟩ := h
  obtain ⟨group, having, windows, distinct, limit⟩ := whole
  have values : gathered.toList.map (fun row => (row.1, (Tuple.kept row.2).toList.map (·.value))) =
      (held.map (·.2)).map fun r => (keysOf r, rowOf r) := by
    have all : held.map (fun p => shown p.1) = held.map fun p => (keysOf p.2, rowOf p.2) :=
      List.map_congr_left fun p inside => by simp [shown, read p inside, keysOf, rowOf, textsOf, Value.ofString]
    rw [stored] at same
    simpa [Tuple.kept, Function.comp_def, all] using same
  have sorted := readRecords_sorted plain plain' eight untimed
    (fun row => (Tuple.kept row).toList.map (·.value)) values c₂
  have rows : engine.rows {} (.select q) =
      Work.selectRows ⟨Work.planRows Work.supply 1999, Work.supply⟩ {} q := rfl
  have loaded := planned _ (by
    rw [rows]
    simp only [Work.selectRows, group, having, windows, distinct, limit, order]
    refine (Work.readRecords_after (a := sortRows .utf8 [k, l] gathered) ?_ _ _).trans sorted
    refine (Work.bind_of_ok gather).trans ?_
    rw [← utf8]
    rfl)
  refine ⟨_, rfl, ?_⟩
  simp only [load, request, loaded]

end Connection

end Database
end FormCompiler
