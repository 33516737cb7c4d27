import OwnedHandles.Arith.Nearest
import OwnedHandles.Arith.Power
import OwnedHandles.Arith.Binary64
import OwnedHandles.Arith.IntType
import OwnedHandles.HandleKind
import OwnedHandles.Text.CharTable
import OwnedHandles.Text.Letters
import OwnedHandles.Text.Quoted
import OwnedHandles.Text.Slice
import OwnedHandles.Text.Utf8
import OwnedHandles.Text.CText
import OwnedHandles.Text.Decimal
import OwnedHandles.Text.Blank
import OwnedHandles.Payload.Counter
import OwnedHandles.Payload.Person
import OwnedHandles.Clock.Duration
import OwnedHandles.Clock.TimeUnit
import OwnedHandles.Clock.Rendering
import OwnedHandles.Clock.Instant
import OwnedHandles.Trace.Event
import OwnedHandles.Trace.Pattern
import OwnedHandles.Trace.Directive
import OwnedHandles.Trace.Filter
import OwnedHandles.Slots.Key
import OwnedHandles.Slots.Table
import OwnedHandles.Slots.Printer
import OwnedHandles.Slots.History
import OwnedHandles.Memory.Heap
import OwnedHandles.Memory.Custody
import OwnedHandles.Boundary.Cell
import OwnedHandles.Boundary.Call
import OwnedHandles.Boundary.Ledger
import OwnedHandles.Boundary.Output
import OwnedHandles.Boundary.Machine
import OwnedHandles.Proofs.Slots.FreeList
import OwnedHandles.Proofs.Slots.Generations
import OwnedHandles.Proofs.Slots.Lifecycle
import OwnedHandles.Proofs.Since
import OwnedHandles.Proofs.Slots.Transition
import OwnedHandles.Proofs.Slots.Allocation
import OwnedHandles.Proofs.Slots.Frame
import OwnedHandles.Proofs.Memory.AddressMap
import OwnedHandles.Proofs.Memory.Conservation
import OwnedHandles.Proofs.Boundary.LedgerMap
import OwnedHandles.Proofs.Text.NulFree
import OwnedHandles.Proofs.Boundary.Store
import OwnedHandles.Proofs.Boundary.Refinement
import OwnedHandles.Proofs.Slots.Contents
import OwnedHandles.Proofs.Arith.IsNearest
import OwnedHandles.Proofs.Arith.Quotient
import OwnedHandles.Proofs.Clock.Numerator
import OwnedHandles.Proofs.Clock.Quantity
import OwnedHandles.Proofs.Clock.Promotion
import OwnedHandles.Proofs.Clock.Monotone
import OwnedHandles.Proofs.Text.Encoding
import OwnedHandles.Proofs.Text.Openings
import OwnedHandles.Proofs.Text.Decoding
import OwnedHandles.Proofs.Text.Joining
import OwnedHandles.Proofs.Arith.Proportion
import OwnedHandles.Proofs.Clock.Fraction
import OwnedHandles.Proofs.Boundary.Desk
import OwnedHandles.Proofs.Boundary.Clients
import OwnedHandles.Proofs.Text.Obtainable
import OwnedHandles.Proofs.Text.Splitting
import OwnedHandles.Proofs.Clock.Attempts
import OwnedHandles.Proofs.Boundary.Rendered
import OwnedHandles.Proofs.Payload.Saturation
import OwnedHandles.Proofs.Boundary.LedgerIndexes
import OwnedHandles.Proofs.Slots.Cycling
import OwnedHandles.Proofs.Slots.Lookup
import OwnedHandles.Proofs.Slots.Commuting
import OwnedHandles.Proofs.Slots.Growth
import OwnedHandles.Proofs.Boundary.EventLog
