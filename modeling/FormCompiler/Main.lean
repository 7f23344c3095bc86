import FormCompiler.Console.OnDisk

namespace FormCompiler

open CommandLine Database

def entryAt (path : String) : IO (Option Entry) := do
  match ← (IO.FS.readBinFile path).toBaseIO with
  | .ok bytes => return some (.file bytes)
  | .error (.noFileOrDirectory ..) => return none
  | .error _ => return some .folder

def placeOf (path : String) : Location :=
  let octets := Octets.ofString path
  let names := (Path.parts octets).filter fun p => !Path.isHere p
  let folder := names.dropLast.foldl (fun f p => if Path.isUp p then f.parent else f.inside p) (Folder.start octets)
  ⟨folder, names.getLastD []⟩

def waysTo (path : String) : List String :=
  let parts := path.splitOn "/"
  (List.range parts.length).map fun i => "/".intercalate (parts.take (i + 1))

def databaseFiles (path : String) : List String :=
  path :: ["-journal", "-wal", "-shm", ".lock"].map (path ++ ·)

def filesOf (settings : Settings) (args : List String) : List String :=
  let code := match Command.ofArgs args with
    | .compile (some file) => [file]
    | _ => []
  let data := match Source.read settings.dsn with
    | .ok source => if source.isFile then databaseFiles source.path.text else []
    | .error _ => []
  code ++ data

def readDisk (paths : List String) : IO Disk :=
  (paths.flatMap waysTo).foldlM (fun (d : Disk) path => do
    if path.isEmpty then return d
    match ← entryAt path with
    | some e => return d.put (placeOf path) e
    | none => return d) {}

def writeDisk (before after : Disk) (paths : List String) : IO Unit := do
  for path in paths do
    let l := placeOf path
    match before.find? l, after.find? l with
    | _, some (.file b) => if !(before.has l) || before.bytes l != b then IO.FS.writeBinFile path b
    | none, some .folder => IO.FS.createDir path
    | some (.file _), none => IO.FS.removeFile path
    | some .folder, none => IO.FS.removeDir path
    | _, _ => pure ()

partial def converse {σ : Type} [Storage σ] (s : Interactive σ) : IO (Option σ × UInt32) := do
  let out ← IO.getStdout
  out.putStr s.prompt
  out.flush
  let line ← (← IO.getStdin).getLine
  if line.isEmpty then return (s.store, 0)
  let (s, reply) := s.feed (if line.endsWith "\n" then (line.dropEnd 1).toString else line)
  out.putStr reply.output
  match reply.stopped with
  | some f =>
    out.putStr (internalError f)
    return (s.store, 2)
  | none => if reply.ended then return (s.store, 0) else converse s

def interactive {σ : Type} [Storage σ] (ready : Except (Exit × Option σ) (Ready σ)) : IO (Option σ × UInt32) := do
  match ready with
  | .error (exit, store) =>
    IO.print exit.output
    return (store, exit.status.toUInt32)
  | .ok ready =>
    IO.print (ready.output ++ Text.logo)
    converse { unit := ready.unit, store := ready.store }

end FormCompiler

open FormCompiler CommandLine Database in
def main (args : List String) : IO UInt32 := do
  let driver ← IO.getEnv "TERN_DB_DRIVER"
  let dsn ← IO.getEnv "TERN_DB_DSN"
  let env (name : String) := if name = "TERN_DB_DRIVER" then driver else if name = "TERN_DB_DSN" then dsn else none
  let settings := Settings.load env
  let files := filesOf settings args
  let disk ← readDisk files
  let id := unitId (← IO.monoNanosNow)
  if Command.ofArgs args != .interactive then
    let (exit, after) := disk.run env id args
    IO.print exit.output
    writeDisk disk after files
    return exit.status.toUInt32
  else if settings.storeEnabled then
    match disk.openStore settings.driver settings.dsn with
    | .error (f, after) =>
      writeDisk disk after files
      let (_, status) ← interactive (prepareWith id (.error f : Except Store.Failure Connection))
      return status
    | .ok c =>
      let (left, status) ← interactive (prepareWith id (.ok c))
      writeDisk disk (left.getD c).close files
      return status
  else
    let (_, status) ← interactive (.ok { unit := .new id } : Except (Exit × Option Store) (Ready Store))
    return status
