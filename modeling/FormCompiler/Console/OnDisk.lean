import FormCompiler.Console.CommandLine
import FormCompiler.Database.Records

namespace FormCompiler.Disk

open Database (Connection)

/-- Runs a command without a terminal. A store is opened before a source file is read, and is closed when
the command ends as it should. -/
def run (d : Disk) (env : String → Option String) (id : String) (args : List String) :
    CommandLine.Exit × Disk :=
  let settings := Settings.load env
  if (Command.ofArgs args).needsUnit && settings.storeEnabled then
    match d.openStore settings.driver settings.dsn with
    | .error (f, d) =>
      let host : CommandLine.Host Connection := ⟨env, d.read, fun _ _ => .error f⟩
      ((CommandLine.run host id args []).1, d)
    | .ok c =>
      let (exit, left) := CommandLine.run ⟨env, c.disk.read, fun _ _ => .ok c⟩ id args []
      let c := left.getD c
      (exit, if exit.isAbrupt then c.disk else c.close)
  else
    let host : CommandLine.Host Store := ⟨env, d.read, fun _ _ => .ok {}⟩
    ((CommandLine.run host id args []).1, d)

end FormCompiler.Disk
