import FormCompiler.Database.Moment
import FormCompiler.Database.Session
import FormCompiler.Store.Basic

namespace FormCompiler

namespace Database

open Store (Obstacle Failure Request)

def recordTable : String :=
  "CREATE TABLE _Functions (\n    fingerprint varchar(64) NOT NULL,\n    unit varchar(26),\n    name varchar(255),\n" ++
    "    internalName varchar(255),\n    linkage varchar(16),\n    returnType varchar(255),\n" ++
    "    params varchar(1024),\n    attrs varchar(255),\nPRIMARY KEY (fingerprint))"

def Work.migrate : Work Unit := do
  match ← attempt (select "SELECT fingerprint FROM _Functions WHERE 1 = 0" fun _ rows => rows.first?) with
  | .ok _ => return
  | .error _ => execute (Octets.ofString recordTable) []

def momentTypes : List String := ["date", "datetime", "timestamp"]

def scan? (f : Field) : Value → Option Octets
  | .null => none
  | .integer n =>
    some (Octets.ofString
      (if Word.lower f.type == "boolean" then (if n = 0 then "false" else "true") else Text.Numeral.ofInt n))
  | .real x => some (Octets.ofString (Real.shortest x))
  | .text s =>
    let octets : Octets := s.data.toList
    let moment := if momentTypes.contains (Word.lower f.type) then Moment.read? octets.text else none
    some ((moment.map fun m => Octets.ofString (Moment.show_ m)).getD octets)
  | v => some v.octets

def scanRow (fields : List (Field × Nat)) (row : List Value) : Except Obstacle (List Octets) :=
  (fields.zip row).mapM fun ((f, i), v) =>
    match scan? f v with
    | some s => .ok s
    | none => .error (.other ("sql: Scan error on column index " ++ Text.Numeral.ofNat i ++ ", name " ++
        Text.quoted (Octets.ofString f.name) ++ ": converting NULL to string is unsupported"))

def textsOf (r : Record) : List ByteArray :=
  [r.fingerprint.toUTF8, r.unit.toUTF8, r.name.toUTF8, r.internalName.toByteArray, r.linkage.toUTF8,
    r.returnType.toUTF8, r.params.toUTF8, (" ".intercalate r.attributes).toUTF8]

def rowOf (r : Record) : List Value := (textsOf r).map .text

def recordOf (texts : List Octets) : Record :=
  let text (i : Nat) : String := (texts.getD i []).text
  { fingerprint := text 0
    unit := text 1
    name := text 2
    internalName := texts.getD 3 []
    linkage := text 4
    returnType := text 5
    params := text 6
    attributes := Text.words (text 7) }

def Work.readRecords (fields : Array Field) (rows : Stream (List Value)) : Work (List Record) := do
  let numbered := fields.toList.zipIdx
  let records ← (rows.mapM fun row => do return recordOf (← ofExcept (scanRow numbered row))).toArray
  return records.toList

def Work.loadRecords : Work (List Record) :=
  let text := "SELECT fingerprint, unit, name, internalName, linkage, returnType, params, attrs\n" ++
    "FROM _Functions ORDER BY name, unit"
  select text readRecords

namespace Connection

def request {α : Type} (c : Connection) (what : Request) (x : Work α) : Except Failure α × Connection :=
  match x c with
  | .ok a c => (.ok a, c)
  | .error o c => (.error (.refused what o), c)

variable (c : Connection)

def giveUp (f : Failure) : Except Failure Unit × Connection :=
  match Work.execute (Octets.ofString "rollback") [] c with
  | .ok _ c | .error _ c => (.error f, c)

def ask (what : Request) (text : Octets) (values : List Value) : Except Failure Unit × Connection :=
  c.request what (Work.execute text values)

def beginning : Octets := Octets.ofString "begin" ++ if c.start.isEmpty then [] else Octets.ofString " " ++ c.start

def deletion : Octets := Octets.ofString "DELETE FROM _Functions WHERE fingerprint = ?"

def insertion : Octets :=
  Octets.ofString ("INSERT INTO _Functions(fingerprint, unit, name, internalName, linkage, returnType, " ++
    "params, attrs)\n\tVALUES (" ++ Store.placeholders "sqlite" 8 ++ ")")

def save (r : Record) : Except Failure Unit × Connection :=
  match c.ask .begin c.beginning [] with
  | (.error f, c) => (.error f, c)
  | (.ok _, c) =>
    match c.ask (.replace r.name) deletion [.ofString r.fingerprint] with
    | (.error f, c) => c.giveUp f
    | (.ok _, c) =>
      match c.ask (.save r.name) insertion (rowOf r) with
      | (.error f, c) => c.giveUp f
      | (.ok _, c) => c.ask (.save r.name) (Octets.ofString "commit") []

def load : Except Failure (List Record) × Connection := c.request .load Work.loadRecords

instance : Storage Connection := ⟨save, load⟩

def close : Disk :=
  match Work.closeAll c with
  | .ok _ c | .error _ c => c.disk

def orClose (what : Request) (x : Work Unit) : Except (Failure × Disk) Connection :=
  match c.request what x with
  | (.ok _, c) => .ok c
  | (.error f, c) => .error (f, c.close)

end Connection

def Work.settle (s : Source) : Work Unit := do
  s.pragmas.forM fun p => execute (Octets.ofString "pragma " ++ p) []
  let start ← ofExcept s.start
  modify fun c => { c with start }
  execute (Octets.ofString "select 1") []

end Database

namespace Disk

open Database

def openStore (d : Disk) (driver name : String) : Except (Store.Failure × Disk) Connection := do
  (Store.checkDriver driver).mapError fun f => (f, d)
  let source ← (Source.read name).mapError fun o => (.refused .connect o, d)
  let opened ← (Connection.open? d source).mapError fun o => (.refused .connect o, d)
  let connected ← opened.orClose .connect (Work.settle source)
  connected.orClose .migrate Work.migrate

end Disk

end FormCompiler
