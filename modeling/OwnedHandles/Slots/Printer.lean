import OwnedHandles.Slots.Table

/-!
# Slot tables as text

- `SlotTable.text`: the number of live resources and of slots.
- `SlotTable.dump`: every slot and every link, for inspection.
-/

namespace OwnedHandles

/-- A link to a slot. -/
def linkText : Option Nat → String
  | some index => s!"Some({index})"
  | none => "None"

/-- A slot with all it holds. -/
def Slot.dump {α : Type} (value : α → String) : Slot α → String
  | .occupied generation v =>
    "Occupied \x7b generation: " ++ toString generation.toNat ++ ", value: " ++ value v ++ " \x7d"
  | .vacant generation nextFree =>
    "Vacant \x7b generation: " ++ toString generation.toNat ++ ", next_free: "
      ++ linkText nextFree ++ " \x7d"
  | .retired => "Retired"

namespace SlotTable

variable {α : Type}

/-- A table in short: its kind, its live resources and all its slots. -/
def text [HandleKind α] (t : SlotTable α) : String :=
  s!"Registry<{kindName α}>(live: {t.len}, slots: {t.slots.size})"

/-- A table in full. -/
def dump (value : α → String) (t : SlotTable α) : String :=
  let slots := ", ".intercalate (t.slots.toList.map (Slot.dump value))
  "Registry \x7b slots: [" ++ slots ++ "], free_head: " ++ linkText t.freeHead
    ++ ", len: " ++ toString t.len ++ " \x7d"

end SlotTable

end OwnedHandles
