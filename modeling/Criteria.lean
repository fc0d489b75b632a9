import Criteria.Derive.Code
import Criteria.Formula.Inspect
import Criteria.Formula.Program
import Criteria.Json.Decode
import Criteria.Json.Encode
import Criteria.Proofs.Derive.Attributes
import Criteria.Proofs.Derive.Names
import Criteria.Proofs.Filter.Rearrangement
import Criteria.Proofs.Fingerprint.Bytes
import Criteria.Proofs.Fingerprint.Change
import Criteria.Proofs.Fingerprint.Contents
import Criteria.Proofs.Fingerprint.Separation
import Criteria.Proofs.Formula.Inspect
import Criteria.Proofs.Formula.Nulls
import Criteria.Proofs.Formula.Program
import Criteria.Proofs.Formula.Selection
import Criteria.Proofs.Formula.Text
import Criteria.Proofs.Json.RoundTrip
import Criteria.Proofs.Synthesis.Compatibility
import Criteria.Proofs.Synthesis.Events
import Criteria.Proofs.Synthesis.Failure
import Criteria.Proofs.Synthesis.Filling
import Criteria.Proofs.Synthesis.Meaning
import Criteria.Proofs.Synthesis.Optimism
import Criteria.Proofs.Synthesis.Pairing
import Criteria.Proofs.Synthesis.Presence
import Criteria.Proofs.Synthesis.Reordering
import Criteria.Proofs.Synthesis.Rewording
import Criteria.Proofs.Synthesis.Skipping
import Criteria.Proofs.Synthesis.Typing
import Criteria.Proofs.Test.Agreement
import Criteria.Proofs.Test.Normal
import Criteria.Proofs.Test.Relaxation
import Criteria.Proofs.Timestamp.Calendar
import Criteria.Proofs.Timestamp.Order
import Criteria.Proofs.Timestamp.Text
import Criteria.Proofs.Timestamp.Units
import Criteria.Proofs.Workspace
