import HomePairing.Accessory.Opening
import HomePairing.Controller.Dialogue
import HomePairing.Proofs.Config.Generation
import HomePairing.Proofs.Connection.Rejections
import HomePairing.Proofs.Controller.Discipline
import HomePairing.Proofs.Crypto.Sealing
import HomePairing.Proofs.Exchange.Managing
import HomePairing.Proofs.Exchange.Messages
import HomePairing.Proofs.Exchange.Pairing
import HomePairing.Proofs.Exchange.Transport
import HomePairing.Proofs.Requests.Completion
import HomePairing.Proofs.Runs.Agreements
import HomePairing.Proofs.Runs.Attempts
import HomePairing.Proofs.Runs.Authorisation
import HomePairing.Proofs.Runs.Authority
import HomePairing.Proofs.Runs.Bookkeeping
import HomePairing.Proofs.Runs.Manageability
import HomePairing.Proofs.Runs.Removal
import HomePairing.Proofs.Runs.Slot
import HomePairing.Proofs.Runs.Stranding
import HomePairing.Proofs.Session.Channel
import HomePairing.Proofs.Session.Numbering
import HomePairing.Proofs.Session.Segmentation
import HomePairing.Proofs.Srp.Agreement
import HomePairing.Proofs.Srp.LeadingZeros
import HomePairing.Proofs.Store.Interchange
import HomePairing.Proofs.Store.Stability
import HomePairing.Proofs.Tlv.Acceptance
import HomePairing.Proofs.Tlv.RoundTrip
import HomePairing.Proofs.Tlv.Runs
import HomePairing.Proofs.Tlv.Unambiguous
import HomePairing.Site
