import OwnedHandles.Proofs.Slots.Transition

/-!
# What other keys see

An operation on one key is not felt through any other.

- `Transition.read_of_create`: a creation adds one readable key, which was not readable before.
- `Transition.read_of_release`: a release takes one readable key away.
- `Transition.read_of_mutate`: a mutation changes what is read through one key.
- `release_of_read`: what can be read can be released.
-/

namespace OwnedHandles.SlotTable

variable {α β : Type} [HandleKind α] {t t' : SlotTable α} {key : Key} {value : α}

/-- Nothing can be read from the empty table. -/
theorem read_empty_ne (key : Key) (value : α) : (∅ : SlotTable α).read key ≠ .ok value := by
  rw [Ne, read_eq_ok_iff]
  show (#[] : Array (Slot α))[key.index]? ≠ _
  simp

/-- A replaced slot is felt through the keys of its index only. -/
theorem Replaces.read_iff {index : Nat} {new : Slot α} (h : Replaces t t' index new) (k : Key)
    (v : α) :
    t'.read k = .ok v ↔
      k.index = index ∧ new = .occupied k.generation v ∨ k.index ≠ index ∧ t.read k = .ok v := by
  rw [read_eq_ok_iff, read_eq_ok_iff, h k.index]
  by_cases hindex : k.index = index
  · simp [hindex]
  · simp [hindex]

/-- A slot that does not hold a resource cannot be read. -/
theorem read_ne_of_not_occupied {k : Key}
    (h : ∀ generation v, t.slots[k.index]? ≠ some (.occupied generation v)) (v : α) :
    t.read k ≠ .ok v :=
  fun hread => h _ v ((read_eq_ok_iff t k v).mp hread)

/-- A creation fills one slot that held no resource. -/
theorem Transition.replaces_of_create
    (h : Transition t (.create value : TableOp α β) (.issued key) t') :
    Replaces t t' key.index (.occupied key.generation value) ∧
      ∀ generation v, t.slots[key.index]? ≠ some (.occupied generation v) := by
  cases h with
  | refilled value head slot =>
    refine ⟨replaces_set slot _ _ _, fun generation v hv => ?_⟩
    rw [slot] at hv
    cases hv
  | appended value head =>
    refine ⟨replaces_push t _ _ _, fun generation v hv => ?_⟩
    exact Nat.lt_irrefl _ (Array.getElem?_eq_some_iff.mp hv).1

/-- A release empties the slot of the key, which held the resource. -/
theorem Transition.replaces_of_release
    (h : Transition t (.release key : TableOp α β) (.removed value) t') :
    t.read key = .ok value ∧
      ∃ new, Replaces t t' key.index new ∧ ∀ generation v, new ≠ .occupied generation v := by
  cases h with
  | recycled slot generation =>
    exact ⟨(read_eq_ok_iff t key value).mpr slot, _, replaces_set slot _ _ _, by simp⟩
  | retired slot generation =>
    exact ⟨(read_eq_ok_iff t key value).mpr slot, _, replaces_set slot _ _ _, by simp⟩

/-- **A creation adds one key**, which could not be read before. -/
theorem Transition.read_of_create
    (h : Transition t (.create value : TableOp α β) (.issued key) t') :
    (∀ v, t.read key ≠ .ok v) ∧
      ∀ k v, t'.read k = .ok v ↔ k = key ∧ v = value ∨ t.read k = .ok v := by
  obtain ⟨hreplaces, hempty⟩ := h.replaces_of_create
  refine ⟨read_ne_of_not_occupied hempty, fun k v => ?_⟩
  rw [hreplaces.read_iff]
  by_cases hindex : k.index = key.index
  · have hnot : t.read k ≠ .ok v := read_ne_of_not_occupied (by rwa [hindex]) v
    cases k
    cases key
    simp_all [eq_comm]
  · have hne : k ≠ key := fun heq => hindex (congrArg Key.index heq)
    simp [hindex, hne]

/-- **A release takes one key away**, and yields what could be read through it. -/
theorem Transition.read_of_release
    (h : Transition t (.release key : TableOp α β) (.removed value) t') :
    t.read key = .ok value ∧ ∀ k v, t'.read k = .ok v ↔ k ≠ key ∧ t.read k = .ok v := by
  obtain ⟨hread, new, hreplaces, hempty⟩ := h.replaces_of_release
  refine ⟨hread, fun k v => ?_⟩
  rw [hreplaces.read_iff]
  by_cases hindex : k.index = key.index
  · -- in the slot of the key, only the key itself could be read
    have hself : t.read k = .ok v → k = key := by
      intro hk
      rw [read_eq_ok_iff, hindex, (read_eq_ok_iff t key value).mp hread] at hk
      cases k
      cases key
      simp_all
    simp only [hindex, hempty, and_false, ne_eq, not_true_eq_false, false_and, or_self, false_iff]
    exact fun ⟨hne, hk⟩ => hne (hself hk)
  · have hne : k ≠ key := fun heq => hindex (congrArg Key.index heq)
    simp [hindex, hne]

/-- **A mutation changes one resource**, to what the operation makes of it. -/
theorem Transition.read_of_mutate {operation : α → β × α} {result : β}
    (h : Transition t (.mutate key operation) (.result result) t') :
    ∃ value, t.read key = .ok value ∧ result = (operation value).1 ∧
      ∀ k v, t'.read k = .ok v ↔
        k = key ∧ v = (operation value).2 ∨ k ≠ key ∧ t.read k = .ok v := by
  cases h with
  | @changed key value operation slot =>
    have hread := (read_eq_ok_iff t key value).mpr slot
    refine ⟨value, hread, rfl, fun k v => ?_⟩
    have hreplaces :=
      replaces_set slot (.occupied key.generation (operation value).2) t.freeHead t.len
    rw [hreplaces.read_iff]
    by_cases hindex : k.index = key.index
    · -- of the keys of this slot, only the key itself has the occupant's generation
      have hself : t.read k = .ok v → k = key := by
        intro hk
        rw [read_eq_ok_iff, hindex, slot] at hk
        cases k
        cases key
        simp_all
      have hfits : Slot.occupied key.generation (operation value).2 = .occupied k.generation v ↔
          k = key ∧ v = (operation value).2 := by
        cases k
        cases key
        simp_all [eq_comm]
      rw [hfits]
      simp only [hindex, true_and, ne_eq, not_true_eq_false, false_and, or_false]
      exact ⟨.inl, fun hor => hor.resolve_right fun hother => hother.1 (hself hother.2)⟩
    · have hne : k ≠ key := fun heq => hindex (congrArg Key.index heq)
      simp [hindex, hne]

/-- **What can be read can be released.** All that a release reports is that its slot is used up. -/
theorem release_of_read (h : t.read key = .ok value) :
    ∃ removal, t.release key = .ok removal ∧ removal.value = value ∧
      ∀ e ∈ removal.events, ∃ index, e = .slotRetired (kindName α) index := by
  have hslot := (read_eq_ok_iff t key value).mp h
  have hvalid : (t.state key).isValid := (isValid_state_iff t key).mpr ⟨value, hslot⟩
  unfold release
  rw [if_pos hvalid, hslot]
  cases nextGeneration key.generation with
  | some generation => exact ⟨_, rfl, rfl, by simp⟩
  | none => exact ⟨_, rfl, rfl, by simp⟩

end OwnedHandles.SlotTable
