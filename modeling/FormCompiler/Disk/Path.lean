import FormCompiler.Text.Octets

namespace FormCompiler

/-- The root, the directory so many levels above the working directory, or one that was made. -/
inductive Folder where
  | root
  | above (levels : Nat)
  | inside (folder : Folder) (name : Octets)
  deriving DecidableEq

namespace Folder

def parent : Folder → Folder
  | root => root
  | above n => above (n + 1)
  | inside f _ => f

def start (path : Octets) : Folder := if path.head? = some '/'.toUInt8 then root else above 0

end Folder

structure Location where
  folder : Folder
  name : Octets
  deriving DecidableEq

def Location.beside (l : Location) (suffix : String) : Location :=
  { l with name := l.name ++ Octets.ofString suffix }

namespace Path

def parts (path : Octets) : List Octets := Octets.pieces '/' path

def isHere (part : Octets) : Bool := part.isEmpty || part == Octets.ofString "."

def isUp (part : Octets) : Bool := part == Octets.ofString ".."

def nameLimit : Nat := 255

def isLongName (name : Octets) : Bool := decide (nameLimit < name.length)

def limit : Nat := 4096

inductive Trouble where
  | notThere
  | notDirectory
  | isDirectory
  | tooLong
  deriving DecidableEq

def Trouble.message (path : String) : Trouble → String
  | notThere => "open " ++ path ++ ": no such file or directory"
  | notDirectory => "open " ++ path ++ ": not a directory"
  | isDirectory => "read " ++ path ++ ": is a directory"
  | tooLong => "open " ++ path ++ ": file name too long"

inductive Kind where
  | file
  | folder
  deriving DecidableEq

abbrev Lookup := Location → Option Kind

def follow (find : Lookup) : Folder → List Octets → Except Trouble Location
  | _, [] => .error .isDirectory
  | f, part :: rest =>
    if isHere part then follow find f rest
    else if isUp part then follow find f.parent rest
    else if isLongName part then .error .tooLong
    else
      match find ⟨f, part⟩ with
      | some .file => if rest.isEmpty then .ok ⟨f, part⟩ else .error .notDirectory
      | some .folder => follow find (f.inside part) rest
      | none => .error .notThere

def resolve (find : Lookup) (path : Octets) : Except Trouble Location :=
  if path.isEmpty then .error .notThere
  else if limit ≤ path.length then .error .tooLong
  else follow find (.start path) (parts path)

def leadsSomewhere (find : Lookup) (path : Octets) : Bool :=
  match resolve find path with
  | .ok _ | .error .isDirectory => true
  | .error _ => false

/-- The directory that names below a folder lead to, if it was made. The names come last first. -/
def folderOf? (find : Lookup) (f : Folder) : List Octets → Option Folder
  | [] => some f
  | name :: outer =>
    match folderOf? find f outer with
    | some g => if find ⟨g, name⟩ = some .folder then some (g.inside name) else none
    | none => none

def kindOf? (find : Lookup) (f : Folder) : List Octets → Option Kind
  | [] => some .folder
  | name :: outer => (folderOf? find f outer).bind fun g => find ⟨g, name⟩

/-- Follows parts by their text alone: two dots take back the part before them, whether that is there
or not. Only a name that cannot be looked up stands in the way. The names below the folder come last
first. -/
def simplify (find : Lookup) : Folder → List Octets → List Octets → Option (Folder × List Octets)
  | f, names, [] => some (f, names)
  | f, names, part :: rest =>
    if isHere part then simplify find f names rest
    else if isUp part then
      match names with
      | [] => simplify find f.parent [] rest
      | _ :: outer => simplify find f outer rest
    else if kindOf? find f names = some .file then none
    else if (folderOf? find f names).isSome && isLongName part then none
    else if !names.isEmpty && tooDeep (part :: names) then none
    else simplify find f (part :: names) rest
where
  /-- A simplified path has room for 510 octets, of which the folder takes some. -/
  tooDeep (names : List Octets) : Bool := decide (490 < (names.flatMap ('/'.toUInt8 :: ·)).length)

/-- What a path names by its text. A file need not be there, but the directory it is in. -/
inductive Place where
  | nowhere
  | missing
  | directory
  | file (location : Location)
  deriving DecidableEq

/-- The place that a path names. The root is not even that of a directory. -/
def locate (find : Lookup) (path : Octets) : Place :=
  match simplify find (.start path) [] (parts path) with
  | none | some (.root, []) => .nowhere
  | some (_, []) => .directory
  | some (f, name :: outer) =>
    match folderOf? find f outer with
    | none => .missing
    | some g => if find ⟨g, name⟩ = some .folder then .directory else .file ⟨g, name⟩

end Path

end FormCompiler
