import FormCompiler.Proofs.Written

namespace FormCompiler

theorem Text.run_inj {p : Char → Bool} {run run' rest rest' : List Char} (chars : ∀ c ∈ run, p c = true)
    (chars' : ∀ c ∈ run', p c = true) (stops : ∀ c ∈ rest.head?, p c = false)
    (stops' : ∀ c ∈ rest'.head?, p c = false) (same : run ++ rest = run' ++ rest') : run = run' ∧ rest = rest' := by
  have whole {run rest : List Char} (chars : ∀ c ∈ run, p c = true) (stops : ∀ c ∈ rest.head?, p c = false) :
      (run ++ rest).takeWhile p = run := by
    rw [List.takeWhile_append_of_pos chars]
    cases rest with
    | nil => simp
    | cons c rest => simp [stops c rfl]
  obtain rfl : run = run' := by rw [← whole chars stops, same, whole chars' stops']
  exact ⟨rfl, List.append_cancel_left same⟩

namespace Token

structure Worded (t : Token) : Prop where
  filled : t.literal.toList ≠ []
  chars : ∀ c ∈ t.literal.toList, isSymbolChar c = true
  kind : t.kind = if looksNumeric t.literal.toList then .integer else .symbol

theorem Legible.worded {t : Token} (legible : t.Legible) : t.Worded := ⟨legible.filled, legible.chars, legible.kind⟩

theorem Worded.bare_eq {s t : Token} (hs : s.Worded) (ht : t.Worded) (same : s.literal = t.literal) :
    s.bare = t.bare := by
  rw [bare, bare, hs.kind, ht.kind, same]

end Token

namespace Node

inductive Worded : Node → Prop
  | atom {t : Token} (worded : t.Worded) : Worded (atom t)
  | list {paren : Token} {items : List Node} (worded : ∀ n ∈ items, Worded n) : Worded (list paren items)

theorem Legible.worded {n : Node} (legible : n.Legible) : n.Worded := by
  induction legible with
  | atom legible => exact .atom legible.worded
  | list _ ih => exact .list ih

def textBehind : List Node → List Char
  | [] => []
  | n :: ns => ' ' :: (textItems (n :: ns)).toList

theorem toList_textItems (n : Node) (ns : List Node) :
    (textItems (n :: ns)).toList = n.text.toList ++ textBehind ns := by
  cases ns with
  | nil => simp [textItems, textBehind]
  | cons m ns => simp [textItems, textBehind]

theorem stops_textBehind (ns : List Node) (rest : List Char) : Token.Stops (textBehind ns ++ ')' :: rest) := by
  cases ns with
  | nil => exact stops_of_not_isSymbolChar rfl _
  | cons n ns => exact stops_of_not_isSymbolChar rfl _

theorem Worded.exists_text {n : Node} (worded : n.Worded) : ∃ c cs, n.text.toList = c :: cs ∧ c ≠ ')' := by
  cases worded with
  | @atom t worded =>
    obtain ⟨c, cs, split⟩ := List.exists_cons_of_ne_nil worded.filled
    have plain : Token.isSymbolChar c = true := worded.chars c (by rw [split]; exact List.mem_cons_self)
    refine ⟨c, cs, split, ?_⟩
    rintro rfl
    cases plain
  | @list paren items _ => exact ⟨'(', (textItems items).toList ++ [')'], by simp [text], by decide⟩

def Telling (n : Node) : Prop :=
  ∀ m : Node, m.Worded → ∀ rest rest', Token.Stops rest → Token.Stops rest' →
    n.text.toList ++ rest = m.text.toList ++ rest' → n.bare = m.bare ∧ rest = rest'

theorem telling_items {ns : List Node} (worded : ∀ n ∈ ns, n.Worded) (telling : ∀ n ∈ ns, n.Telling) :
    ∀ ms : List Node, (∀ m ∈ ms, m.Worded) → ∀ rest rest',
      (textItems ns).toList ++ ')' :: rest = (textItems ms).toList ++ ')' :: rest' →
        ns.map bare = ms.map bare ∧ rest = rest' := by
  -- An item starts with another character than that which closes the list.
  have apart {n : Node} {ns : List Node} (worded : n.Worded) {rest rest' : List Char}
      (same : (textItems (n :: ns)).toList ++ rest = ')' :: rest') : False := by
    obtain ⟨c, cs, split, other⟩ := worded.exists_text
    rw [toList_textItems, split] at same
    exact other (List.cons.inj same).1
  induction ns with
  | nil =>
    intro ms each rest rest' same
    cases ms with
    | nil => exact ⟨rfl, (List.cons.inj same).2⟩
    | cons m ms => exact (apart (each m List.mem_cons_self) same.symm).elim
  | cons n ns ih =>
    intro ms each rest rest' same
    cases ms with
    | nil => exact (apart (worded n List.mem_cons_self) same).elim
    | cons m ms =>
      rw [toList_textItems, toList_textItems, List.append_assoc, List.append_assoc] at same
      obtain ⟨first, behind⟩ := telling n List.mem_cons_self m (each m List.mem_cons_self) _ _
        (stops_textBehind ns rest) (stops_textBehind ms rest') same
      have others := ih (fun n inside => worded n (List.mem_cons_of_mem _ inside))
        (fun n inside => telling n (List.mem_cons_of_mem _ inside)) ms
        (fun m inside => each m (List.mem_cons_of_mem _ inside)) rest rest'
      cases ns with
      | nil =>
        cases ms with
        | nil => exact ⟨by simp [first], (others behind).2⟩
        | cons k ms => cases (List.cons.inj behind).1
      | cons k ns =>
        cases ms with
        | nil => cases (List.cons.inj behind).1
        | cons k' ms =>
          obtain ⟨items, rests⟩ := others (List.cons.inj behind).2
          exact ⟨by rw [List.map_cons (l := k :: ns), List.map_cons (l := k' :: ms), first, items], rests⟩

theorem Worded.telling {n : Node} (worded : n.Worded) : n.Telling := by
  -- No atom starts with a parenthesis.
  have clash {t : Token} {rest rest' : List Char} (word : t.Worded)
      (same : t.literal.toList ++ rest = '(' :: rest') : False := by
    obtain ⟨c, cs, split⟩ := List.exists_cons_of_ne_nil word.filled
    have plain : Token.isSymbolChar c = true := word.chars c (by rw [split]; exact List.mem_cons_self)
    rw [split] at same
    obtain rfl := (List.cons.inj same).1
    cases plain
  induction worded with
  | @atom t word =>
    intro m other rest rest' stops stops' same
    cases other with
    | @atom t' word' =>
      obtain ⟨literals, rests⟩ := Text.run_inj word.chars word'.chars stops stops' same
      exact ⟨congrArg Node.atom (word.bare_eq word' (String.toList_injective literals)), rests⟩
    | list => exact (clash word (by simpa [text] using same)).elim
  | @list paren items each ih =>
    intro m other rest rest' stops stops' same
    cases other with
    | atom word' => exact (clash word' (by simpa [text] using same.symm)).elim
    | @list paren' items' each' =>
      obtain ⟨bares, rests⟩ := telling_items each ih items' each' rest rest' (by simpa [text] using same)
      exact ⟨by rw [bare, bare, bareItems_eq_map, bareItems_eq_map, bares], rests⟩

theorem Worded.bare_eq {n m : Node} (hn : n.Worded) (hm : m.Worded) (same : n.text = m.text) : n.bare = m.bare := by
  have nothing : Token.Stops [] := by
    intro c none
    cases none
  exact (hn.telling m hm [] [] nothing nothing (by rw [same])).1

theorem worded_numeral (n : Int) : (numeral n).Worded := by
  have digits (k : Nat) : ∀ c ∈ Text.Numeral.digits k, Token.isSymbolChar c = true := fun c inside =>
    Token.isSymbolChar_of_isDigit (Text.Numeral.isDigit_of_mem_digits inside)
  cases n with
  | ofNat k =>
    obtain ⟨c, cs, split, digit⟩ := Text.Numeral.exists_digits k
    have letters : (Text.Numeral.ofInt (.ofNat k)).toList = Text.Numeral.digits k := String.toList_ofList
    refine .atom ⟨?_, ?_, ?_⟩ <;> dsimp only <;> rw [letters]
    · exact split ▸ List.cons_ne_nil _ _
    · exact digits k
    · rw [split, if_pos (Token.looksNumeric_of_isDigit digit)]
  | negSucc k =>
    obtain ⟨c, cs, split, digit⟩ := Text.Numeral.exists_digits (k + 1)
    have letters : (Text.Numeral.ofInt (.negSucc k)).toList = '-' :: Text.Numeral.digits (k + 1) := by
      simp [Text.Numeral.ofInt, Text.Numeral.ofNat]
    refine .atom ⟨?_, ?_, ?_⟩ <;> dsimp only <;> rw [letters]
    · exact List.cons_ne_nil _ _
    · exact List.forall_mem_cons.mpr ⟨rfl, digits (k + 1)⟩
    · rw [split, Token.looksNumeric, if_pos digit]

theorem worded_word {s : String}
    (plain : (!s.toList.isEmpty && s.toList.all Token.isSymbolChar && !Token.looksNumeric s.toList) = true) :
    (word s).Worded := (legible_word plain).worded

theorem worded_form {items : List Node} (each : ∀ n ∈ items, n.Worded) : (form items).Worded := .list each

theorem head?_bare (n : Node) : n.bare.head? = n.head? := by
  cases n with
  | atom t => rfl
  | list paren items =>
    rw [bare, bareItems_eq_map]
    cases items with
    | nil => rfl
    | cons m ms => cases m <;> rfl

theorem word_of_bare {a b : String} (same : (word a).bare = (word b).bare) : a = b :=
  congrArg Token.literal (Node.atom.inj same)

theorem map_bare_of_form {ns ms : List Node} (same : (form ns).bare = (form ms).bare) :
    ns.map bare = ms.map bare := by
  rw [← bareItems_eq_map, ← bareItems_eq_map]
  exact (Node.list.inj same).2

end Node

namespace Text.Numeral

theorem signed?_ofInt (n : Int) : signed? (ofInt n).toList = some n := by
  cases n with
  | ofNat k =>
    rw [ofInt, ofNat, String.toList_ofList, signed?_digits]
    rfl
  | negSucc k =>
    have letters : (ofInt (.negSucc k)).toList = '-' :: digits (k + 1) := by simp [ofInt, ofNat]
    rw [letters, signed?, magnitude?_digits]
    rfl

theorem ofInt_inj {n m : Int} (same : ofInt n = ofInt m) : n = m := by
  have values := signed?_ofInt n
  rw [same, signed?_ofInt] at values
  exact (Option.some.inj values).symm

end Text.Numeral

theorem Base.name_inj {b b' : Base} (same : b.name = b'.name) : b = b' := by
  have bases := b.ofName?_name
  rw [same, b'.ofName?_name] at bases
  exact (Option.some.inj bases).symm

namespace Ty

def core : Ty → Node
  | missing => .word "<nil>"
  | base b _ => .word b.name
  | pointer t _ => .form [.word "p", t.toNode]
  | array n t _ => .form [.word "array-of", .numeral n, t.toNode]

theorem toNode_eq (t : Ty) : t.toNode = enclose t.isMarked t.core := by cases t <;> rfl

theorem head?_core (t : Ty) : t.core.head? ≠ some "retval" := by
  cases t with
  | missing | base =>
    intro same
    cases same
  | pointer | array => exact fun same => absurd (Option.some.inj same) (by decide)

theorem worded_toNode (t : Ty) : t.toNode.Worded := by
  have enclosed {marked : Bool} {n : Node} (worded : n.Worded) : (enclose marked n).Worded := by
    cases marked with
    | false => exact worded
    | true =>
      apply Node.worded_form
      simpa using ⟨Node.worded_word (s := "retval") (by decide), worded⟩
  induction t with
  | missing => exact Node.worded_word (by decide)
  | base b m => exact enclosed b.legible.worded
  | pointer t m ih =>
    apply enclosed
    apply Node.worded_form
    simpa using ⟨Node.worded_word (s := "p") (by decide), ih⟩
  | array n t m ih =>
    apply enclosed
    apply Node.worded_form
    simpa using ⟨Node.worded_word (s := "array-of") (by decide), Node.worded_numeral n, ih⟩

theorem enclose_of_bare {a b : Bool} {n m : Node} (hn : n.head? ≠ some "retval") (hm : m.head? ≠ some "retval")
    (same : (enclose a n).bare = (enclose b m).bare) : a = b ∧ n.bare = m.bare := by
  have apart {n m : Node} (other : m.head? ≠ some "retval") : (enclose true n).bare ≠ m.bare := by
    intro same
    apply other
    rw [← m.head?_bare, ← same, Node.head?_bare]
    rfl
  cases a with
  | false =>
    cases b with
    | false => exact ⟨rfl, same⟩
    | true => exact (apart hn same.symm).elim
  | true =>
    cases b with
    | false => exact (apart hm same).elim
    | true =>
      have items := Node.map_bare_of_form same
      exact ⟨rfl, (List.cons.inj (List.cons.inj items).2).1⟩

theorem core_of_bare {t u : Ty} (same : t.toNode.bare = u.toNode.bare) :
    t.isMarked = u.isMarked ∧ t.core.bare = u.core.bare := by
  rw [toNode_eq, toNode_eq] at same
  exact enclose_of_bare t.head?_core u.head?_core same

theorem eq_of_bare_toNode {t u : Ty} (same : t.toNode.bare = u.toNode.bare) : t = u := by
  induction t generalizing u with
  | missing =>
    obtain ⟨marks, cores⟩ := core_of_bare same
    cases u with
    | missing => rfl
    | base b m => exact absurd (Node.word_of_bare cores) (by cases b <;> decide)
    | pointer | array => cases cores
  | base b m =>
    obtain ⟨marks, cores⟩ := core_of_bare same
    cases u with
    | missing => exact absurd (Node.word_of_bare cores) (by cases b <;> decide)
    | base b' m' =>
      rw [Base.name_inj (Node.word_of_bare cores), show m = m' from marks]
    | pointer | array => cases cores
  | pointer t m ih =>
    obtain ⟨marks, cores⟩ := core_of_bare same
    cases u with
    | missing | base => cases cores
    | pointer u m' =>
      have items := Node.map_bare_of_form cores
      rw [ih (List.cons.inj (List.cons.inj items).2).1, show m = m' from marks]
    | array => cases congrArg List.length (Node.map_bare_of_form cores)
  | array n t m ih =>
    obtain ⟨marks, cores⟩ := core_of_bare same
    cases u with
    | missing | base => cases cores
    | pointer => cases congrArg List.length (Node.map_bare_of_form cores)
    | array n' u m' =>
      have items := (List.cons.inj (Node.map_bare_of_form cores)).2
      have sizes : Text.Numeral.ofInt n = Text.Numeral.ofInt n' :=
        congrArg Token.literal (Node.atom.inj (List.cons.inj items).1)
      rw [Text.Numeral.ofInt_inj sizes, ih (List.cons.inj (List.cons.inj items).2).1, show m = m' from marks]

theorem text_inj {t u : Ty} (same : t.text = u.text) : t = u := by
  rw [← text_toNode, ← text_toNode] at same
  exact eq_of_bare_toNode (t.worded_toNode.bare_eq u.worded_toNode same)

theorem texts_inj {ts us : List Ty} (same : " ".intercalate (ts.map text) = " ".intercalate (us.map text)) :
    ts = us := by
  have worded (ts : List Ty) : (Node.form (ts.map toNode)).Worded := by
    apply Node.worded_form
    intro n inside
    obtain ⟨t, -, rfl⟩ := List.mem_map.mp inside
    exact t.worded_toNode
  have items (ts : List Ty) : (ts.map toNode).map Node.text = ts.map text := by
    rw [List.map_map]
    exact List.map_congr_left fun t _ => t.text_toNode
  have bares := Node.map_bare_of_form ((worded ts).bare_eq (worded us) (by
    rw [Node.form, Node.form, Node.text, Node.text, Node.textItems_eq_intercalate, Node.textItems_eq_intercalate, items,
      items, same]))
  rw [List.map_map, List.map_map] at bares
  exact (List.map_inj_right fun _ _ same => eq_of_bare_toNode same).mp bares

/-- The text of a type that has been read is one node, which is read as the same type again. Two types have the same
text only if they are the same, also where they cannot be read. -/
theorem text_identifies :
    (∀ (n : Node) (t : Ty), Ty.read n = .ok t → ∀ source : String,
      ∃ m : Node, Node.readOne source t.text = .ok m ∧ ∃ u : Ty, Ty.read m = .ok u ∧ (u == t) = true) ∧
    ∀ t u : Ty, t.text = u.text ↔ (t == u) = true := by
  constructor
  · intro n t read source
    have written : t.Written := (ends_read_written n).ok read
    obtain ⟨m, one, same⟩ := written.legible.exists_readOne source
    rw [text_toNode] at one
    exact ⟨m, one, t, written.read same, beq_self_eq_true t⟩
  · intro t u
    rw [beq_iff_eq]
    exact ⟨text_inj, congrArg text⟩

/-- Marks collapse, names have one spelling and sizes lose their signs and zeros. -/
theorem text_identifies_array :
    Ty.read (.form [.word "retval", .form [.word "retval", .form [.word "array-of", .word "+007",
      .form [.word "p", .form [.word "retval", .word "int"]]]]]) = .ok (array 7 (pointerTo int32.mark) true) ∧
    ∃ m : Node, Node.readOne "types" "(retval (array-of 7 (p (retval int32))))" = .ok m ∧
      ∃ u : Ty, Ty.read m = .ok u ∧ (u == array 7 (pointerTo int32.mark) true) = true := by
  refine (fun read => ⟨read, ?_⟩) rfl
  have text : (array 7 (pointerTo int32.mark) true).text = "(retval (array-of 7 (p (retval int32))))" := by
    decide +kernel
  rw [← text]
  exact text_identifies.1 _ _ read "types"

end Ty

end FormCompiler
