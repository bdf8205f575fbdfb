import Brace.CommandLine.Run
import Brace.Main
import Brace.Proofs.Account.Sound
import Brace.Proofs.Account.Outcome
import Brace.Proofs.Account.Scan
import Brace.Proofs.Account.Rounds
import Brace.Proofs.Account.Tokenize
import Brace.Proofs.TopLevel
import Brace.Proofs.Cover
import Brace.Proofs.Audit
import Brace.Proofs.Account.Reach
import Brace.Proofs.Separation
import Brace.Proofs.RoundTrip
import Brace.Proofs.Validity
import Brace.Proofs.Permission
import Brace.Proofs.Account.Alone
import Brace.Proofs.Nesting
import Brace.Proofs.Prospect
import Brace.Proofs.Respacing
import Brace.Proofs.Isolation
import Brace.Proofs.Unbroken
import Brace.Proofs.Sources
import Brace.Proofs.Culprit
import Brace.Proofs.Alike
import Brace.Proofs.Files
import Brace.Proofs.Entries
import Brace.Proofs.Inputs
import Brace.Proofs.Munch
import Brace.Proofs.Wordlike
import Brace.Proofs.Words
import Brace.Proofs.Writings
import Brace.Proofs.Listings
import Brace.Proofs.Inquiries
import Brace.Proofs.Keywords
import Brace.Proofs.Advice
import Brace.Proofs.Walks
import Brace.Proofs.Readings
import Brace.Proofs.Shown
import Brace.Proofs.Heads
