import ResourceMoves.Main
import ResourceMoves.Matching.Token
import ResourceMoves.Proofs.Attribute.Disagreement
import ResourceMoves.Proofs.Attribute.Mask
import ResourceMoves.Proofs.Ignore.Grammar
import ResourceMoves.Proofs.Ignore.Position
import ResourceMoves.Proofs.Ignore.Spelling
import ResourceMoves.Proofs.Ignore.Distinction
import ResourceMoves.Proofs.Ignore.Literals
import ResourceMoves.Proofs.Matching.Greedy
import ResourceMoves.Proofs.Matching.Removal
import ResourceMoves.Proofs.Matching.Conservation
import ResourceMoves.Proofs.Matching.Stability
import ResourceMoves.Proofs.Matching.Cancellation
import ResourceMoves.Proofs.Matching.Marking
import ResourceMoves.Proofs.Matching.Distinction
import ResourceMoves.Proofs.Matching.Families
import ResourceMoves.Proofs.Plan.Relocation
import ResourceMoves.Proofs.Plan.Order
import ResourceMoves.Proofs.Plan.Unused
import ResourceMoves.Proofs.Settings.Rules
import ResourceMoves.Proofs.Run.Stages
import ResourceMoves.Proofs.Run.Delivery
import ResourceMoves.Proofs.Run.Faults
import ResourceMoves.Proofs.Run.Calls
import ResourceMoves.Proofs.Run.Program
import ResourceMoves.Proofs.Json.Numbers
import ResourceMoves.Proofs.Plan.Attributes
import ResourceMoves.Proofs.Attribute.Symmetry
import ResourceMoves.Proofs.Plan.Extraction
import ResourceMoves.Proofs.Plan.Bystanders
import ResourceMoves.Proofs.Plan.Outcome
import ResourceMoves.Proofs.Plan.Insertion
import ResourceMoves.Proofs.Plan.Contradiction
import ResourceMoves.Proofs.Move.Commands
import ResourceMoves.Proofs.Attribute.Display
import ResourceMoves.Proofs.Attribute.RoundTrip
import ResourceMoves.Proofs.Plan.Encoding
import ResourceMoves.Proofs.Move.Fingerprint
import ResourceMoves.Proofs.Move.Batches
import ResourceMoves.Proofs.Version
import ResourceMoves.Proofs.Report.Lines
