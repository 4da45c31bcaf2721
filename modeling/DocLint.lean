import DocLint.Document.OfValue
import DocLint.Files.Tree
import DocLint.Main
import DocLint.Proofs.Cancellation
import DocLint.Proofs.Check.Order
import DocLint.Proofs.Check.Presence
import DocLint.Proofs.Check.Shape
import DocLint.Proofs.Command
import DocLint.Proofs.Compilation
import DocLint.Proofs.Document.Navigation
import DocLint.Proofs.Document.Number
import DocLint.Proofs.Entries
import DocLint.Proofs.Flag
import DocLint.Proofs.Isolation
import DocLint.Proofs.Path
import DocLint.Proofs.Placeless
import DocLint.Proofs.Precedence
import DocLint.Proofs.Registration
import DocLint.Proofs.Report.Human
import DocLint.Proofs.Report.InPlace
import DocLint.Proofs.Report.Json
import DocLint.Proofs.Report.Lines
import DocLint.Proofs.Report.Overriding
import DocLint.Proofs.Repository
import DocLint.Proofs.Selector.Bare
import DocLint.Proofs.Selector.Closing
import DocLint.Proofs.Selector.Reach
import DocLint.Session
