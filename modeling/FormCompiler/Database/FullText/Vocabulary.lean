import FormCompiler.Database.FullText.Settings

namespace FormCompiler.Database.FullText

inductive Vocabulary.Kind where
  | words
  | columns
  | places
  deriving DecidableEq

structure Vocabulary where
  table : String
  kind : Vocabulary.Kind

namespace Vocabulary

def columns (v : Vocabulary) : List String :=
  match v.kind with
  | .words => ["term", "doc", "cnt"]
  | .columns => ["term", "col", "doc", "cnt"]
  | .places => ["term", "doc", "col", "offset"]

def ofArguments (args : List Octets) : Except String Vocabulary :=
  let bare (a : Octets) : Octets := ((Settings.word? a).map (·.1)).getD a
  match args.map bare with
  | [table, kind] =>
    let made (k : Kind) : Except String Vocabulary := .ok ⟨Octets.text table, k⟩
    match (Octets.text kind).map Char.toLower with
    | "row" => made .words
    | "col" => made .columns
    | "instance" => made .places
    | _ => .error ("fts5vocab: unknown table type: '" ++ Octets.text kind ++ "'")
  | _ => .error "wrong number of vtable arguments"

structure Occurrence where
  row : Int
  column : Nat
  word : Nat

def occurrences (rows : List (Int × Document)) : List (Octets × List Occurrence) :=
  let all := rows.flatMap fun (n, d) => d.zipIdx.flatMap fun (ws, c) => ws.zipIdx.map fun (w, k) =>
    (w, (⟨n, c, k⟩ : Occurrence))
  let isBefore (a b : Octets × Occurrence) : Bool :=
    (Value.ofOctets a.1).order .binary .utf8 (Value.ofOctets b.1) != .gt
  (all.mergeSort isBefore).foldr (fun (w, o) (found : List (Octets × List Occurrence)) =>
    match found with
    | (v, os) :: rest => if v == w then (v, o :: os) :: rest else (w, [o]) :: found
    | [] => [(w, [o])]) []

def rowCount (os : List Occurrence) : Nat := (os.map (·.row)).eraseDups.length

def rows (v : Vocabulary) (columns : List String) (texts : List (Int × Document)) : List (List Value) :=
  let number (n : Nat) : Value := .integer n
  let name (c : Nat) : Value := .ofString (columns.getD c "")
  (occurrences texts).flatMap fun (w, os) =>
    match v.kind with
    | .words => [[.ofOctets w, number (rowCount os), number os.length]]
    | .columns => (List.range columns.length).filterMap fun c =>
      let own := os.filter fun o => o.column == c
      if own.isEmpty then none else some [.ofOctets w, name c, number (rowCount own), number own.length]
    | .places => os.map fun o => [.ofOctets w, .integer o.row, name o.column, number o.word]

end Vocabulary

end FormCompiler.Database.FullText
