import Suitewright.Main
import Suitewright.Tree.Backend
import Suitewright.Web.Answer
import Suitewright.Proofs.Project.Writing
import Suitewright.Proofs.Loop.Working
import Suitewright.Proofs.Loop.Rounds
import Suitewright.Proofs.Loop.OnDisk
import Suitewright.Proofs.Text.Replacing
import Suitewright.Proofs.Text.Replaced
import Suitewright.Proofs.Text.Tame
import Suitewright.Proofs.Text.Mark
import Suitewright.Proofs.Repair.Draft
import Suitewright.Proofs.Repair.Assertions
import Suitewright.Proofs.Repair.Queries
import Suitewright.Proofs.Repair.Redirect
import Suitewright.Proofs.Repair.DefaultImport
import Suitewright.Proofs.Repair.Injection
import Suitewright.Proofs.Repair.Mending
import Suitewright.Proofs.Suite.Lines
import Suitewright.Proofs.Suite.Cases
import Suitewright.Proofs.Suite.Whole
import Suitewright.Proofs.Repair.Openings
import Suitewright.Proofs.Results
import Suitewright.Proofs.Failure.Reading
import Suitewright.Proofs.Repair.Naming
import Suitewright.Proofs.Repair.Settled
import Suitewright.Proofs.Repair.Idempotence
import Suitewright.Proofs.Loop.Stalling
import Suitewright.Proofs.Loop.Readable
import Suitewright.Proofs.Tree.Wordless
import Suitewright.Proofs.Repair.Redirected
import Suitewright.Proofs.Repair.Cleared
import Suitewright.Proofs.Repair.Closures
import Suitewright.Proofs.Repair.Leftovers
import Suitewright.Proofs.Diff.Blocks
import Suitewright.Proofs.Diff.Patch
import Suitewright.Proofs.Diff.Faithful
import Suitewright.Proofs.Repair.Ending
import Suitewright.Proofs.Loop.History
import Suitewright.Proofs.Tree.Preorder
import Suitewright.Proofs.Tree.Step
import Suitewright.Proofs.Tree.Readable
import Suitewright.Proofs.Tree.Summary
import Suitewright.Proofs.Tree.Degraded
import Suitewright.Proofs.Suite.Plan
import Suitewright.Proofs.Suite.Outline
import Suitewright.Proofs.Suite.Supplied
import Suitewright.Proofs.Rpc.Requests
import Suitewright.Proofs.Rpc.Replies
import Suitewright.Proofs.Text.Bytes
import Suitewright.Proofs.Json.Printed
import Suitewright.Proofs.Json.ReadBack
import Suitewright.Proofs.Loop.Unread
import Suitewright.Proofs.Rpc.Serving
import Suitewright.Proofs.Loop.Obstacles
import Suitewright.Proofs.Loop.Interrupted
import Suitewright.Proofs.Project.Sparing
import Suitewright.Proofs.Loop.Spared
import Suitewright.Proofs.Runner.Candidates
import Suitewright.Proofs.Repair.Attributes
import Suitewright.Proofs.Repair.Places
import Suitewright.Proofs.Repair.Missing
import Suitewright.Proofs.Repair.ReadBack
import Suitewright.Proofs.Suite.Renderings
import Suitewright.Proofs.Project.Importing
import Suitewright.Proofs.Loop.Imports
import Suitewright.Proofs.Suite.Literals
import Suitewright.Proofs.Suite.Entries
import Suitewright.Proofs.Suite.Classes
import Suitewright.Proofs.Suite.Alternatives
import Suitewright.Proofs.Suite.ComponentName
import Suitewright.Proofs.Text.Found
import Suitewright.Proofs.Failure.Phrases
import Suitewright.Proofs.Failure.Signals
import Suitewright.Proofs.Project.Usable
import Suitewright.Proofs.Loop.Configured
import Suitewright.Proofs.Tree.Turns
import Suitewright.Proofs.Repair.TextQueries
import Suitewright.Proofs.Suite.Reader
import Suitewright.Proofs.Suite.Constants
