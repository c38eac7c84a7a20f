import Userland.Batch.Rehearsal
import Userland.Boot
import Userland.LinkScript
import Userland.Log.Operation
import Userland.Operation
import Userland.Program
import Userland.Transcript
import Userland.Proofs.Kernel.Replies
import Userland.Proofs.Run.Sequence
import Userland.Proofs.Text.Refused
import Userland.Proofs.Output.Control
import Userland.Proofs.Output.Noninterference
import Userland.Proofs.Batch.Launching
import Userland.Proofs.Output.Written
import Userland.Proofs.Batch.Verdict
import Userland.Proofs.Run.Checked
import Userland.Proofs.Text.Handover
import Userland.Proofs.Program.Conclusion
import Userland.Proofs.Boot.Rounds
import Userland.Proofs.Kernel.Contract
import Userland.Proofs.Program.Lines
import Userland.Proofs.Batch.Rehearsing
import Userland.Proofs.Batch.Agreement
import Userland.Proofs.Paging.Misplaced
import Userland.Proofs.Run.ExitCodes
import Userland.Proofs.Batch.FailureText
import Userland.Proofs.Log.History
import Userland.Proofs.Log.Origin
import Userland.Proofs.Log.LineText
import Userland.Proofs.Text.Quoting
import Userland.Proofs.Paging.Visited
