import ModalLexer.Main
import ModalLexer.Proofs.Account
import ModalLexer.Proofs.Append
import ModalLexer.Proofs.Argument
import ModalLexer.Proofs.Bounds
import ModalLexer.Proofs.Colour
import ModalLexer.Proofs.Failure
import ModalLexer.Proofs.Frame
import ModalLexer.Proofs.Interleaving
import ModalLexer.Proofs.Join
import ModalLexer.Proofs.Number
import ModalLexer.Proofs.Outcome
import ModalLexer.Proofs.Pointing
import ModalLexer.Proofs.Precedence
import ModalLexer.Proofs.Progress
import ModalLexer.Proofs.Record
import ModalLexer.Proofs.Recovery
import ModalLexer.Proofs.Repair
import ModalLexer.Proofs.Replay
import ModalLexer.Proofs.Replacement
import ModalLexer.Proofs.Respacing
import ModalLexer.Proofs.Restart
import ModalLexer.Proofs.Roles
import ModalLexer.Proofs.Routes
import ModalLexer.Proofs.Segmentation
import ModalLexer.Proofs.Separation
import ModalLexer.Proofs.Spelling
import ModalLexer.Proofs.Splitting
import ModalLexer.Proofs.Underline
