import FormCompiler.Database.Connection.Transaction
import FormCompiler.Database.Word

namespace FormCompiler.Database

open Store (Obstacle)

namespace Member

def sized (m : Member) (file : ByteArray) : Member :=
  match Work.pageSize? file with
  | none => m
  | some size => { m with
    isSized := true
    layout := ⟨size, size - Bytes.byte file 20⟩
    mapsPages := Bytes.long file 52 != 0
    isIncremental := Bytes.long file 64 != 0 }

def open? (d : Disk) (s : Source) (name : String) : Except Obstacle (Member × Disk) :=
  let option (key : String) : Bool := (s.options.value? key).any fun v => Word.isTrue v.text
  let plain : Member := { name, system := s.system, isReadOnly := s.mode = .readOnly }
  let opened : Member := { plain with
    isReadOnly := plain.isReadOnly || option "immutable"
    isImmutable := option "immutable"
    locks := !option "nolock" }
  if s.isInMemory || s.path.isEmpty then .ok (plain, d)
  else if s.system = .memory then .ok (opened, d)
  else
    let place := Path.locate d.lookup s.path
    let lacksModel := (s.options.value? "modeof").any fun v => !Path.leadsSomewhere d.lookup v
    match place with
    | .nowhere => .error (.opening .cannotOpen)
    | place =>
      if lacksModel then .error (.opening .io)
      else
        match place with
        | .file l =>
          if d.has l then .ok ({ opened with place := some l }.sized (d.bytes l), d)
          else if s.mode = .create then .ok ({ opened with place := some l }, d.write l .empty)
          else .error (.opening .cannotOpen)
        | .directory => .error (.opening (if s.mode = .readOnly then .io else .cannotOpen))
        | _ => .error (.opening .cannotOpen)

end Member

namespace Connection

def open? (d : Disk) (s : Source) : Except Obstacle Connection := do
  let (main, disk) ← Member.open? d s "main"
  return { disk, members := [main, { name := "temp" }] }

end Connection

end FormCompiler.Database
