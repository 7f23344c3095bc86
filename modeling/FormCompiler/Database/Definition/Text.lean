import FormCompiler.Database.Lexeme
import FormCompiler.Database.Statement.Basic

namespace FormCompiler.Database

structure Edit where
  start : Nat
  stop : Nat
  new : Octets

namespace Edit

def apply (text : Octets) (e : Edit) : Octets := text.take e.start ++ e.new ++ text.drop e.stop

def applyAll (edits : List Edit) (text : Octets) : Octets := edits.foldr (fun e s => apply s e) text

end Edit

namespace DefinitionText

def nested : Nat → List Lexeme → List (Lexeme × Nat)
  | _, [] => []
  | depth, l :: rest =>
    if l.isSign "(" then (l, depth) :: nested (depth + 1) rest
    else if l.isSign ")" then (l, depth - 1) :: nested (depth - 1) rest
    else (l, depth) :: nested depth rest

def startsRule (l : Lexeme) : Bool :=
  l.word?.any ["constraint", "primary", "unique", "check", "foreign"].contains

def members (ls : List (Lexeme × Nat)) : List (Lexeme × Lexeme) :=
  (ls.zip (ls.drop 1)).filterMap fun ((mark, depth), (l, _)) =>
    if (mark.isSign "(" && depth = 0) || (mark.isSign "," && depth = 1) then some (mark, l) else none

def columns (ls : List (Lexeme × Nat)) : List (Lexeme × Lexeme) := (members ls).takeWhile fun m => !startsRule m.2

def columnsEnd (ls : List (Lexeme × Nat)) : Nat :=
  match (members ls).find? fun m => startsRule m.2 with
  | some (mark, _) => mark.start
  | none => ((ls.find? fun (l, depth) => l.isSign ")" && depth = 0).map fun (l, _) => l.start).getD 0

variable (text : Octets)

def withColumn (column : String) : Octets :=
  let i := columnsEnd (nested 0 (Lexeme.read text.letters))
  Edit.applyAll [⟨i, i, Octets.ofString (", " ++ column)⟩] text

def withoutColumn (k : Nat) : Octets :=
  let ls := nested 0 (Lexeme.read text.letters)
  let all := columns ls
  match all[k]?, all[k + 1]? with
  | some (_, l), some (_, next) => Edit.applyAll [⟨l.start, next.start, []⟩] text
  | some (mark, _), none => Edit.applyAll [⟨mark.start, columnsEnd ls, []⟩] text
  | none, _ => text

def quoted (name : String) : String :=
  "\"" ++ String.ofList (name.toList.flatMap fun c => if c == '"' then [c, c] else [c]) ++ "\""

def rename (new : Name) (l : Lexeme) : Edit :=
  let isPlain := !new.isQuoted && l.chars.head?.any Lexeme.isNamePart
  ⟨l.start, l.start + l.chars.length, Octets.ofString (if isPlain then new.text else quoted new.text)⟩

def referring : Option String → List Lexeme → List (Lexeme × Option String)
  | _, [] => []
  | some t, l :: rest => if l.isSign ")" then (l, none) :: referring none rest
    else (l, some t) :: referring (some t) rest
  | none, l :: n :: o :: rest =>
    if l.isWord "references" && o.isSign "(" then (l, none) :: (n, none) :: (o, none) :: referring (some n.name) rest
    else (l, none) :: referring none (n :: o :: rest)
  | none, l :: rest => (l, none) :: referring none rest

def neighbours (ls : List Lexeme) : List (Option Lexeme × Option Lexeme × Lexeme × Option Lexeme) :=
  ls.zipIdx.map fun (l, i) =>
    (if i < 2 then none else ls[i - 2]?, if i = 0 then none else ls[i - 1]?, l, ls[i + 1]?)

def foreign : List String :=
  ["references", "constraint", "collate", "default", "table", "index", "view", "trigger", "join", "into", "as"]

def isColumn (tables : List String) (before previous next : Option Lexeme) : Bool :=
  let isQualified := previous.any (·.isSign ".")
  !next.any (fun n => n.isSign "(" || n.isSign ".")
    && !previous.any (fun p => p.word?.any foreign.contains)
    && (!isQualified || before.any fun b => tables.any (Name.same b.name))

def withColumnRenamed (table : String) (old new : Name) : Octets :=
  let ls := Lexeme.read text.letters
  let heads := (columns (nested 0 ls)).map (·.2.start)
  let depths := (nested 0 ls).map (·.2)
  let tags := (referring none ls).map (·.2)
  let isMeant (n : Option Lexeme × Option Lexeme × Lexeme × Option Lexeme) (depth : Nat) (tag : Option String) : Bool :=
    let (before, previous, l, next) := n
    l.isName && Name.same l.name old.text && tag.all (Name.same table) &&
      (heads.contains l.start || (1 < depth && isColumn [table] before previous next))
  let found := ((neighbours ls).zip (depths.zip tags)).filter fun (n, depth, tag) => isMeant n depth tag
  Edit.applyAll (found.map fun (n, _) => rename new n.2.2.1) text

def withReferenceRenamed (table : String) (old new : Name) : Octets :=
  let found := (referring none (Lexeme.read text.letters)).filter fun (l, tag) =>
    tag.any (Name.same table) && l.isName && Name.same l.name old.text
  Edit.applyAll (found.map fun (l, _) => rename new l) text

def namesOf (ls : List Lexeme) (table : String) : List String :=
  let isTable (l : Lexeme) : Bool := l.isName && Name.same l.name table
  let others := (neighbours ls).filterMap fun (before, previous, l, _) =>
    if l.kind = .name && previous.any isTable then some l.name
    else if l.kind = .name && previous.any (·.isWord "as") && before.any isTable then some l.name
    else none
  table :: others

def withUseRenamed (tables : List String) (old new : Name) : Octets :=
  let ls := Lexeme.read text.letters
  let found := (neighbours ls).filter fun (before, previous, l, next) =>
    l.isName && Name.same l.name old.text && isColumn tables before previous next
      && !(previous.any (·.isWord "on") && next.any (·.isSign "("))
  Edit.applyAll (found.map fun n => rename new n.2.2.1) text

def withTableRenamed (old : String) (new : String) : Octets :=
  let ls := Lexeme.read text.letters
  let found := (neighbours ls).filter fun (_, previous, l, next) =>
    (l.isName || (l.kind = .string && previous.any (·.isWord "table"))) && Name.same l.name old
      && !previous.any (fun p => p.isSign "." || p.isWord "as" || p.isWord "index" || p.isWord "trigger" ||
        p.isWord "view")
      && (next.any (·.isSign ".") || previous.any fun p =>
        p.isSign "," || p.isSign "(" || p.word?.any ["table", "on", "from", "join", "into", "update",
          "references", "exists",
          "rollback", "abort", "fail", "ignore", "replace", "in"].contains)
  Edit.applyAll (found.map fun n => ⟨n.2.2.1.start, n.2.2.1.start + n.2.2.1.chars.length,
    Octets.ofString (quoted new)⟩) text

end DefinitionText

end FormCompiler.Database
