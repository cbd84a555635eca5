import LineagePorts.Main
import LineagePorts.Proofs.Store.Codec
import LineagePorts.Proofs.Store.Durability
import LineagePorts.Proofs.Request.Identity
import LineagePorts.Proofs.Config.RoundTrip
import LineagePorts.Proofs.Request.Refinement
import LineagePorts.Proofs.Request.Attribution
import LineagePorts.Proofs.Request.Ownership
import LineagePorts.Proofs.Request.Commutation
import LineagePorts.Proofs.Store.Linking
import LineagePorts.Proofs.Operation.Linking
import LineagePorts.Proofs.Operation.Delegation
import LineagePorts.Proofs.Operation.Update
import LineagePorts.Proofs.Request.Removal
import LineagePorts.Proofs.Registry.History
import LineagePorts.Proofs.Request.Frame
import LineagePorts.Proofs.Request.SchemaTypes
import LineagePorts.Proofs.Identifier.Grammar
import LineagePorts.Proofs.Store.Chronology
import LineagePorts.Proofs.Operation.StoredTypes
import LineagePorts.Proofs.Request.Blank
import LineagePorts.Proofs.Store.Canonical
import LineagePorts.Proofs.Request.Batch
