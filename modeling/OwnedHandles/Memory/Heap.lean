import Std.Data.ExtTreeMap
import OwnedHandles.HandleKind
import OwnedHandles.Trace.Event

/-!
# Payloads at addresses

A payload that is handed out moves to an address of its own, and the address is the handle. The null
address is none.

- `Heap.store`: moves a payload to an address.
- `Heap.load`, `Heap.modify`: looks at or changes the payload of a handle.
- `Heap.take`: takes the payload out. `Heap.free`: drops it.

Using the null handle is a fault of the caller, except in `Heap.free`, where it is ignored. A handle
without a payload behind it is a fault too: in memory, it dangles.
-/

namespace OwnedHandles

/-- The address of a payload. -/
abbrev Address := Nat

/-- The address that no payload has. -/
def nullAddress : Address := 0

/-- Payloads by address. -/
abbrev Heap (α : Type) := Std.ExtTreeMap Address α

/-- Why a handle cannot be used. -/
inductive AccessFault where
  | nullPointer
  | dangling (address : Address)
  deriving DecidableEq, Repr

/-- The wording of a fault, with the name of the call. -/
def AccessFault.message (call : String) : AccessFault → String
  | .nullPointer => s!"called `{call}` with null pointer"
  | .dangling _ => s!"called `{call}` with a dangling pointer"

namespace Heap

variable {α : Type}

/-- Moves a payload to an address. -/
def store (h : Heap α) (address : Address) (payload : α) : Heap α :=
  h.insert address payload

/-- The payload of a handle. -/
def load (h : Heap α) (address : Address) : Except AccessFault α :=
  if address = nullAddress then .error .nullPointer
  else
    match h[address]? with
    | some payload => .ok payload
    | none => .error (.dangling address)

@[simp] theorem load_null (h : Heap α) : h.load nullAddress = .error .nullPointer := by
  simp [load]

/-- A stored payload is found at its address. -/
theorem load_store_self (h : Heap α) {address : Address} (payload : α)
    (hnull : address ≠ nullAddress) : (h.store address payload).load address = .ok payload := by
  simp [load, store, hnull]

/-- Storing a payload leaves all other addresses alone. -/
theorem load_store_ne (h : Heap α) {address other : Address} (payload : α)
    (hne : other ≠ address) : (h.store address payload).load other = h.load other := by
  simp [load, store, Std.ExtTreeMap.getElem?_insert, Ne.symm hne]

/-- Looking succeeds iff there is a payload at the address, which is not null. -/
theorem load_eq_ok_iff (h : Heap α) (address : Address) (payload : α) :
    h.load address = .ok payload ↔ address ≠ nullAddress ∧ h[address]? = some payload := by
  unfold load
  by_cases hnull : address = nullAddress
  · simp [hnull]
  · simp only [hnull, if_false, ne_eq, not_false_eq_true, true_and]
    cases h[address]? <;> simp

/-- Changes the payload of a handle in place. -/
def modify (h : Heap α) (address : Address) (change : α → α) : Except AccessFault (Heap α) :=
  match h.load address with
  | .ok payload => .ok (h.insert address (change payload))
  | .error fault => .error fault

/-- Takes the payload of a handle out; its address is free again. -/
def take (h : Heap α) (address : Address) : Except AccessFault (α × Heap α) :=
  match h.load address with
  | .ok payload => .ok (payload, h.erase address)
  | .error fault => .error fault

/-- Drops the payload of a handle; its address is free again. The null handle has none. -/
def free (h : Heap α) (address : Address) : Except AccessFault (Option α × Heap α) :=
  if address = nullAddress then .ok (none, h)
  else
    match h.take address with
    | .ok (payload, after) => .ok (some payload, after)
    | .error fault => .error fault

@[simp] theorem free_null (h : Heap α) : h.free nullAddress = .ok (none, h) := by
  simp [free]

end Heap

end OwnedHandles
