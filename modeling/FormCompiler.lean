import FormCompiler.Bench.Environments
import FormCompiler.Bench.Overloads
import FormCompiler.Main
import FormCompiler.Proofs.Dominance
import FormCompiler.Proofs.FailedSaves
import FormCompiler.Proofs.InteractiveLines
import FormCompiler.Proofs.LatestRecords
import FormCompiler.Proofs.LocalNames
import FormCompiler.Proofs.NameFlags
import FormCompiler.Proofs.Races
import FormCompiler.Proofs.ResultOperations
import FormCompiler.Proofs.ResultSlots
import FormCompiler.Proofs.Scoping
import FormCompiler.Proofs.StoredRows
import FormCompiler.Session.Basic
import FormCompiler.Text.Sorted
