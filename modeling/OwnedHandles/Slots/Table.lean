import OwnedHandles.Slots.Key
import OwnedHandles.Trace.Event

/-!
# Slot tables

A table of live resources, addressed by keys. A resource occupies a slot; when it is released, the
slot falls vacant under the next generation, so that no key of an earlier occupant fits it again. A
slot whose generations are all used up is retired. Vacant slots form a list, each linking to the
next one, and the slot released last is filled first.

- `SlotTable.create`, `SlotTable.read`, `SlotTable.mutate`, `SlotTable.release`: the life of a
  resource.
- `SlotTable.state`: what the table knows of a key.
- `SlotTable.entries`: the live resources with their keys, in the order of the slots.

Two outcomes are kept apart: a key that is refused (`KeyError`), and a table that contradicts itself
(`TableDefect`), which no sequence of operations on an empty table leads to.
-/

namespace OwnedHandles

/-- A place for one resource. A vacant slot holds the generation of its next occupant and the next
vacant slot. -/
inductive Slot (α : Type) where
  | occupied (generation : UInt32) (value : α)
  | vacant (generation : UInt32) (nextFree : Option Nat)
  | retired
  deriving DecidableEq, Repr

/-- The greatest generation. -/
def lastGeneration : UInt32 := 0xFFFFFFFF

/-- The generation after another one, if it is not the last. -/
def nextGeneration (generation : UInt32) : Option UInt32 :=
  if generation = lastGeneration then none else some (generation + 1)

namespace Slot

variable {α : Type}

/-- The generation that keys are compared with: the occupant's, the next occupant's or the last. -/
def generation : Slot α → UInt32
  | .occupied generation _ => generation
  | .vacant generation _ => generation
  | .retired => lastGeneration

/-- Tells whether the slot has an occupant of a generation. -/
def hasOccupant (slot : Slot α) (generation : UInt32) : Bool :=
  match slot with
  | .occupied current _ => current == generation
  | .vacant _ _ | .retired => false

@[simp] theorem hasOccupant_occupied (current generation : UInt32) (value : α) :
    (occupied current value).hasOccupant generation ↔ current = generation :=
  beq_iff_eq

@[simp] theorem hasOccupant_vacant (next generation : UInt32) (nextFree : Option Nat) :
    (vacant next nextFree : Slot α).hasOccupant generation ↔ False :=
  iff_of_false Bool.false_ne_true id

end Slot

/-- The wording of a defect: the program is at a point that it never comes to. -/
def defectText (reason : String) : String :=
  "internal error: entered unreachable code: " ++ reason

/-- A table that contradicts itself. -/
inductive TableDefect where
  | freeListBroken
  | validSlotEmpty
  deriving DecidableEq, Repr

/-- The wording of a contradiction. -/
def TableDefect.message : TableDefect → String
  | .freeListBroken =>
    defectText "free list of `Registry` points at a slot that is not vacant"
  | .validSlotEmpty => defectText "`Registry::release` validated an occupied slot"

/-- Why a release fails. -/
inductive ReleaseError where
  | refused (e : KeyError)
  | defect (d : TableDefect)
  deriving DecidableEq, Repr

/-- Live resources in slots, the first vacant slot, and the number of live resources. -/
structure SlotTable (α : Type) where
  slots : Array (Slot α)
  freeHead : Option Nat
  len : Nat
  deriving DecidableEq, Repr

/-- What a release yields: the resource, the table without it, and what is reported. -/
structure Removal (α : Type) where
  value : α
  table : SlotTable α
  events : List Event
  deriving DecidableEq, Repr

namespace SlotTable

variable {α β : Type}

/-- The table without slots. -/
def empty : SlotTable α := ⟨#[], none, 0⟩

instance : EmptyCollection (SlotTable α) := ⟨empty⟩

/-- Tells whether no resource is live. -/
def isEmpty (t : SlotTable α) : Bool :=
  t.len == 0

/-- Stores a resource under a fresh key: in the slot released last, or in a new one. -/
def create (t : SlotTable α) (value : α) : Except TableDefect (Key × SlotTable α) :=
  match t.freeHead with
  | some index =>
    match t.slots[index]? with
    | some (.vacant generation nextFree) =>
      let slots := t.slots.setIfInBounds index (.occupied generation value)
      .ok (⟨index, generation⟩, ⟨slots, nextFree, t.len + 1⟩)
    | _ => .error .freeListBroken
  | none =>
    .ok (⟨t.slots.size, 0⟩, ⟨t.slots.push (.occupied 0 value), none, t.len + 1⟩)

/-- What the table knows of a key. The key of the occupant is valid. Keys below the generation of
their slot have been released, and so have all keys of a retired slot. -/
def state (t : SlotTable α) (key : Key) : Lifecycle :=
  match t.slots[key.index]? with
  | none => .uninitialized
  | some .retired => .released
  | some slot =>
    if slot.hasOccupant key.generation then .valid
    else if key.generation < slot.generation then .released
    else .uninitialized

/-- The live resources with their keys, in the order of the slots. -/
def entries (t : SlotTable α) : List (Key × α) :=
  t.slots.toList.zipIdx.filterMap fun (slot, index) =>
    match slot with
    | .occupied generation value => some (⟨index, generation⟩, value)
    | .vacant _ _ | .retired => none

/-- A key is valid iff its slot is occupied under its generation. -/
theorem isValid_state_iff (t : SlotTable α) (key : Key) :
    (t.state key).isValid ↔ ∃ v, t.slots[key.index]? = some (.occupied key.generation v) := by
  unfold state
  rcases t.slots[key.index]? with _ | ⟨generation, value⟩ | ⟨generation, nextFree⟩ | _
  · simp [Lifecycle.isValid]
  · by_cases h : generation = key.generation
    · simp [h, Lifecycle.isValid]
    · simp only [Slot.hasOccupant_occupied, h, if_false, Option.some.injEq, Slot.occupied.injEq,
        false_and, exists_false, iff_false]
      split <;> exact Bool.false_ne_true
  · simp only [Slot.hasOccupant_vacant, if_false, Option.some.injEq, reduceCtorEq, exists_false,
      iff_false]
    split <;> exact Bool.false_ne_true
  · simp [Lifecycle.isValid]

/-- Lets an occupied slot stand at a later generation, as if it had been released and filled again
with the same resource that often. -/
def advance (t : SlotTable α) (index : Nat) (generation : UInt32) : Option (Key × SlotTable α) :=
  match t.slots[index]? with
  | some (.occupied current value) =>
    if current < generation then
      let slots := t.slots.setIfInBounds index (.occupied generation value)
      some (⟨index, generation⟩, { t with slots })
    else none
  | _ => none

variable [HandleKind α]

/-- The refusal of a key that is not valid. -/
def refusal (t : SlotTable α) (key : Key) : KeyError :=
  match t.state key with
  | .released => .released (kindName α) key
  | _ => .unknown (kindName α) key

/-- The resource of a key. -/
def read (t : SlotTable α) (key : Key) : Except KeyError α :=
  match t.slots[key.index]? with
  | some (.occupied generation value) =>
    if generation = key.generation then .ok value else .error (t.refusal key)
  | _ => .error (t.refusal key)

/-- Reading succeeds iff the slot is occupied under the key's generation. -/
theorem read_eq_ok_iff (t : SlotTable α) (key : Key) (v : α) :
    t.read key = .ok v ↔ t.slots[key.index]? = some (.occupied key.generation v) := by
  unfold read
  rcases t.slots[key.index]? with _ | ⟨generation, value⟩ | ⟨generation, nextFree⟩ | _
  · simp
  · by_cases h : generation = key.generation <;> simp [h]
  · simp
  · simp

/-- Changes the resource of a key in place. The operation yields a result and the changed resource;
it is not run for a key that is refused. -/
def mutate (t : SlotTable α) (key : Key) (operation : α → β × α) :
    Except KeyError (β × SlotTable α) :=
  match t.slots[key.index]? with
  | some (.occupied generation value) =>
    if generation = key.generation then
      let (result, changed) := operation value
      let slots := t.slots.setIfInBounds key.index (.occupied generation changed)
      .ok (result, { t with slots })
    else .error (t.refusal key)
  | _ => .error (t.refusal key)

/-- Removes the resource of a key. The slot falls vacant under the next generation and becomes the
first to be filled, or it is retired after the last one. -/
def release (t : SlotTable α) (key : Key) : Except ReleaseError (Removal α) :=
  if (t.state key).isValid then
    match t.slots[key.index]? with
    | some (.occupied _ value) =>
      match nextGeneration key.generation with
      | some generation =>
        let slots := t.slots.setIfInBounds key.index (.vacant generation t.freeHead)
        .ok ⟨value, ⟨slots, some key.index, t.len - 1⟩, []⟩
      | none =>
        let slots := t.slots.setIfInBounds key.index .retired
        .ok ⟨value, ⟨slots, t.freeHead, t.len - 1⟩, [.slotRetired (kindName α) key.index]⟩
    | _ => .error (.defect .validSlotEmpty)
  else .error (.refused (t.refusal key))

end SlotTable

end OwnedHandles
