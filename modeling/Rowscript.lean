import Rowscript.Main
import Rowscript.Proofs.Accounting
import Rowscript.Proofs.Composition
import Rowscript.Proofs.Interruption
import Rowscript.Proofs.LastWriter
import Rowscript.Proofs.Traffic
import Rowscript.Proofs.Verdict
import Rowscript.Proofs.Inversion
import Rowscript.Proofs.Severity
import Rowscript.Proofs.Wording
import Rowscript.Proofs.Calm
import Rowscript.Proofs.Isolation
import Rowscript.Proofs.Seeding
import Rowscript.Proofs.Cancellation
import Rowscript.Proofs.Precedence
import Rowscript.Proofs.AllOrNothing
import Rowscript.Proofs.Exchange
import Rowscript.Proofs.Modes
import Rowscript.Proofs.Chronicle
import Rowscript.Proofs.Relevance
import Rowscript.Proofs.Settling
import Rowscript.Proofs.Latch
import Rowscript.Proofs.WrittenScripts
import Rowscript.Proofs.Timeout
import Rowscript.Proofs.Layout
import Rowscript.Proofs.Repetition
import Rowscript.Proofs.Bytewise
