import OwnedHandles.Clock.Instant
import OwnedHandles.Memory.Heap
import OwnedHandles.Payload.Counter
import OwnedHandles.Payload.Person

/-!
# What lies behind a handle

- `Kind`: the kinds of handles that cross the boundary, with the type of their payloads.
- `Cell`: a payload together with its kind, as it lies at an address.
-/

namespace OwnedHandles

/-- The kinds of handles that cross the boundary. -/
inductive Kind where
  | counter
  | text
  | person
  | instant
  | duration
  deriving DecidableEq, Repr

namespace Kind

/-- The payloads of a kind. Counters are 64 bits wide. -/
abbrev Payload : Kind → Type
  | .counter => Counter .int64
  | .text => CText
  | .person => Person
  | .instant => Instant
  | .duration => Duration

/-- The name of a kind is the name of its payloads. -/
def name : Kind → String
  | .counter => kindName (Counter .int64)
  | .text => kindName CText
  | .person => kindName Person
  | .instant => kindName Instant
  | .duration => kindName Duration

/-- Kinds are told apart by their names. -/
theorem name_injective {k l : Kind} (h : k.name = l.name) : k = l := by
  cases k <;> cases l <;> first | rfl | exact absurd h (by decide)

end Kind

/-- A payload of some kind. -/
structure Cell where
  kind : Kind
  payload : kind.Payload

namespace Cell

/-- The payload, if it is of the kind asked for. -/
def as? (c : Cell) (kind : Kind) : Option kind.Payload :=
  if h : c.kind = kind then some (h ▸ c.payload) else none

@[simp] theorem as?_self (kind : Kind) (payload : kind.Payload) :
    (Cell.mk kind payload).as? kind = some payload := by
  simp [as?]

end Cell

end OwnedHandles
