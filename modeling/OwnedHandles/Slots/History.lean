import OwnedHandles.Slots.Table

/-!
# Histories of a table

- `TableOp`: what can be done to a table.
- `SlotTable.step`: one operation, with its outcome. A refused key leaves the table as it is.
- `SlotTable.run`: a sequence of operations, up to a contradiction in the table.
-/

namespace OwnedHandles

/-- An operation on a table. A mutation yields a result of its own. -/
inductive TableOp (α β : Type) where
  | create (value : α)
  | read (key : Key)
  | mutate (key : Key) (operation : α → β × α)
  | release (key : Key)

/-- What an operation yields. -/
inductive TableOutcome (α β : Type) where
  | issued (key : Key)
  | value (v : α)
  | result (r : β)
  | removed (v : α)
  | refused (e : KeyError)
  deriving DecidableEq, Repr

/-- An outcome, the table after it and what is reported. -/
structure TableStep (α β : Type) where
  outcome : TableOutcome α β
  table : SlotTable α
  events : List Event

namespace SlotTable

variable {α β : Type} [HandleKind α]

/-- Carries out one operation. -/
def step (t : SlotTable α) : TableOp α β → Except TableDefect (TableStep α β)
  | .create value =>
    match t.create value with
    | .ok (key, table) => .ok ⟨.issued key, table, []⟩
    | .error d => .error d
  | .read key =>
    match t.read key with
    | .ok value => .ok ⟨.value value, t, []⟩
    | .error e => .ok ⟨.refused e, t, []⟩
  | .mutate key operation =>
    match t.mutate key operation with
    | .ok (result, table) => .ok ⟨.result result, table, []⟩
    | .error e => .ok ⟨.refused e, t, []⟩
  | .release key =>
    match t.release key with
    | .ok removal => .ok ⟨.removed removal.value, removal.table, removal.events⟩
    | .error (.refused e) => .ok ⟨.refused e, t, []⟩
    | .error (.defect d) => .error d

/-- Carries out operations one after the other: their outcomes and the table at the end. -/
def run (t : SlotTable α) :
    List (TableOp α β) → Except TableDefect (List (TableOutcome α β) × SlotTable α)
  | [] => .ok ([], t)
  | op :: rest =>
    match t.step op with
    | .error d => .error d
    | .ok s =>
      match s.table.run rest with
      | .error d => .error d
      | .ok (outcomes, last) => .ok (s.outcome :: outcomes, last)

end SlotTable

end OwnedHandles
