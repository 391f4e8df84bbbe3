import HookLint.Main
import HookLint.Config.Step
import HookLint.Proofs.Tree.Walk
import HookLint.Proofs.Check.Traversal
import HookLint.Proofs.Hook.Lowering
import HookLint.Proofs.Hook.Exactness
import HookLint.Proofs.Order.Sorting
import HookLint.Proofs.Files.Path
import HookLint.Proofs.Files.Disk
import HookLint.Proofs.Files.Lookup
import HookLint.Proofs.Files.Discovery
import HookLint.Proofs.Check.Alone
import HookLint.Proofs.Check.Gathering
import HookLint.Proofs.Check.Merging
import HookLint.Proofs.Check.Scheduling
import HookLint.Proofs.Hook.Tracking
import HookLint.Proofs.Check.Restriction
import HookLint.Proofs.Files.Sources
import HookLint.Proofs.Tree.Placement
import HookLint.Proofs.Hook.Placement
import HookLint.Proofs.Check.DocumentOrder
import HookLint.Proofs.Check.Positions
import HookLint.Proofs.Tree.Fault
import HookLint.Proofs.Results
import HookLint.Proofs.Config.Names
import HookLint.Proofs.Config.Runs
import HookLint.Proofs.Text.Lines
import HookLint.Proofs.Check.Suppression
import HookLint.Proofs.Check.Counting
import HookLint.Proofs.Command.Configuration
import HookLint.Proofs.Command.Words
import HookLint.Proofs.Command.Status
import HookLint.Proofs.Json.Members
import HookLint.Proofs.Json.Numbers
import HookLint.Proofs.Json.Reads
import HookLint.Proofs.Json.RoundTrip
import HookLint.Proofs.Json.Fields
import HookLint.Proofs.Config.Values
import HookLint.Proofs.Config.Reading
import HookLint.Proofs.Config.Supplying
import HookLint.Proofs.Check.Fates
import HookLint.Proofs.Check.Reconciling
import HookLint.Proofs.Report.Totals
import HookLint.Proofs.Report.Recovery
import HookLint.Proofs.Config.Tracked
import HookLint.Proofs.Tree.Fields
import HookLint.Proofs.Hook.Faithfulness
import HookLint.Proofs.Tree.Edit
import HookLint.Proofs.Hook.Parts
import HookLint.Proofs.Hook.Editing
import HookLint.Proofs.Check.Edits
import HookLint.Proofs.Files.LastName
import HookLint.Proofs.Language.OfPath
import HookLint.Proofs.Check.Languages
