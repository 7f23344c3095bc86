import FormCompiler.Database.Change.Run

namespace FormCompiler.Database

open Store (Obstacle Code)

def Loading.Fields.values (f : Loading.Fields) (root : Value) : List Value :=
  let text (s : Option String) : Value := s.elim .null Value.ofString
  [text f.type, text f.name, text f.table, root, f.text.elim .null Value.ofOctets]

namespace Work

def definitionPlace (n : FullName) (isTemporary : Bool) : Work Nat := do
  let place ← memberOf n.database
  if isTemporary then
    if n.database.isSome && place != temporary then complain "temporary table name must be unqualified"
    return temporary
  return place

variable (i : Nat)

def builderFor : Work Builder := do
  let m ← member i
  return { database := m.name, schema := m.schema.getD {}, isTemporary := i = temporary }

def beginDefinition : Work Unit := do
  enterForStatement i
  if (← volume i).cookie 2 = 0 then
    let encoding := (← get).encoding
    paging i do
      Paging.setCookie 2 4
      Paging.setCookie 5 (encodingNumber encoding)

structure Description where
  type : String
  name : String
  table : String
  root : Nat := 0
  text : Option Octets := none

def Description.values (d : Description) : List Value :=
  [.ofString d.type, .ofString d.name, .ofString d.table, .integer d.root, d.text.elim .null Value.ofOctets]

def writeDescription (n : Int) (d : Description) : Work Unit := do
  let e := (← get).encoding
  paging i (Paging.putRow 1 n (Row.write e d.values))

def addDescription (d : Description) : Work Unit := do
  writeDescription i (← newNumber i (schemaTable false)) d

def reserveDescription : Work Int := do
  let n ← newNumber i (schemaTable false)
  paging i (Paging.putRow 1 n ⟨#[6, 0, 0, 0, 0, 0]⟩)
  return n

def descriptions : Work (List (Int × Loading.Fields)) := do
  let (rows, stopped) ← schemaRows i
  match stopped with
  | some code => refuse code
  | none =>
    let e := (← get).encoding
    rows.toList.mapM fun (n, b) => do
      match Row.read? e b 5 with
      | some values => return (n, Loading.Fields.ofValues values)
      | none => refuse .corrupt

def countDefinition : Work Unit := do
  let cookie := ((← schema i).cookie + 1) % 0x100000000
  paging i (Paging.setCookie 1 cookie)
  modifySchema i fun s => { s with cookie }

def learn (isMeant : Loading.Fields → Bool) : Work Unit := do
  let m ← member i
  let builder : Builder := {
    database := m.name
    schema := m.schema.getD {}
    isTemporary := i = temporary
    isLoading := true
    isUnchecked := (← get).overlooks }
  let rows := (← descriptions i).filter fun r => isMeant r.2
  if !rows.isEmpty then modify fun c => { c with encodingIsFixed := true }
  let l := rows.foldl (fun (l : Loading) r => l.addRow r.2) ({ builder, pages := (← volume i).count } : Loading)
  match l.code with
  | some code =>
    modifyMember i fun m => { m with schema := none }
    match l.message with
    | some s => throw (.detailed code s)
    | none => refuse code
  | none => modifyMember i fun m => { m with schema := some l.builder.schema }

def forget (isMeant : Loading.Fields → Bool) : Work Unit := do
  for (n, f) in ← descriptions i do
    if isMeant f then discard (paging i (Paging.eraseRow 1 n))

end Work

end FormCompiler.Database
