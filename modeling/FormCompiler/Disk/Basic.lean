import FormCompiler.Disk.Path

namespace FormCompiler

inductive Entry where
  | file (bytes : ByteArray)
  | folder

namespace Entry

def kind : Entry → Path.Kind
  | file _ => .file
  | folder => .folder

def bytes : Entry → ByteArray
  | file b => b
  | folder => .empty

end Entry

structure Disk where
  entries : List (Location × Entry) := []

namespace Disk

def ofTexts (texts : List (String × String)) : Disk :=
  ⟨texts.map fun (name, s) => (⟨.above 0, Octets.ofString name⟩, .file s.toUTF8)⟩

def find? (d : Disk) (l : Location) : Option Entry := d.entries.lookup l

def lookup (d : Disk) : Path.Lookup := fun l => (d.find? l).map Entry.kind

def has (d : Disk) (l : Location) : Bool := (d.find? l).isSome

def bytes (d : Disk) (l : Location) : ByteArray := (d.find? l).elim .empty Entry.bytes

def remove (d : Disk) (l : Location) : Disk := ⟨d.entries.filter fun f => f.1 != l⟩

def put (d : Disk) (l : Location) (e : Entry) : Disk := ⟨(l, e) :: (d.remove l).entries⟩

def write (d : Disk) (l : Location) (b : ByteArray) : Disk := d.put l (.file b)

def textOf (b : ByteArray) : String := (String.fromUTF8? b).getD (Octets.text b.toList)

def read (d : Disk) (path : String) : Except String String :=
  match Path.resolve d.lookup (Octets.ofString path) with
  | .ok l => .ok (textOf (d.bytes l))
  | .error t => .error (t.message path)

end Disk

end FormCompiler
