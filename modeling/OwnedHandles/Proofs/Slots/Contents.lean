import Mathlib.Data.Finmap
import OwnedHandles.Proofs.Slots.FreeList
import OwnedHandles.Proofs.Slots.Frame
import OwnedHandles.Proofs.Slots.Generations

/-!
# A table as a finite map

To its users a table is a finite map from keys to resources: slots, generations and the free list
only serve to find keys that are new.

- `contentsAfter history`: the plain map. A creation adds an entry, a mutation replaces the resource
  of one, a release removes one.
- `Holds t contents`: what can be read from the table is the map, and the table counts its entries.
  `Holds.transition` is the step and `Reaches.holds` the induction over a history.
- `mem_entries_iff`, `pairwise_index_entries`: the entries of a table are what can be read from it,
  in the order of the slots. `Holds.length_entries`: their number is the one that the table keeps.
- `Holds.read_of_ne`: nothing that is read through a key depends on operations on others.
- `run_refines_contents`: all of it for every sequence of operations on the empty table.
-/

namespace OwnedHandles

variable {α β : Type}

/-! ## The map -/

/-- Resources by key. -/
abbrev Contents (α : Type) := Finmap fun _ : Key => α

/-- The map after an occurrence. What is refused or only read changes nothing. -/
def Contents.record (m : Contents α) : Occurrence α β → Contents α
  | (.create value, .issued key) => m.insert key value
  | (.mutate key operation, .result _) =>
    (m.lookup key).elim m fun value => m.insert key (operation value).2
  | (.release key, .removed _) => m.erase key
  | _ => m

/-- The map that a history leads to. -/
def contentsAfter (history : History α β) : Contents α :=
  history.foldl Contents.record ∅

@[simp] theorem contentsAfter_concat (history : History α β) (e : Occurrence α β) :
    contentsAfter (history ++ [e]) = (contentsAfter history).record e := by
  simp [contentsAfter]

/-- An entry that is put in is found under its key, and all others as before. -/
theorem Contents.lookup_insert_eq_some_iff (m : Contents α) (key : Key) (value : α) (k : Key)
    (v : α) :
    (m.insert key value).lookup k = some v ↔
      k = key ∧ v = value ∨ k ≠ key ∧ m.lookup k = some v := by
  by_cases hk : k = key
  · subst hk
    rw [Finmap.lookup_insert]
    simp [eq_comm]
  · rw [Finmap.lookup_insert_of_ne _ hk]
    simp [hk]

/-- An entry that is taken out is not found, and all others as before. -/
theorem Contents.lookup_erase_eq_some_iff (m : Contents α) (key k : Key) (v : α) :
    (m.erase key).lookup k = some v ↔ k ≠ key ∧ m.lookup k = some v := by
  by_cases hk : k = key
  · subst hk
    rw [Finmap.lookup_erase]
    simp
  · rw [Finmap.lookup_erase_ne hk]
    simp [hk]

theorem Contents.keys_insert (m : Contents α) (key : Key) (value : α) :
    (m.insert key value).keys = insert key m.keys := by
  ext k
  simp [Finmap.mem_keys]

/-- A map without keys has no entries. -/
theorem Contents.card_keys_eq_zero_iff (m : Contents α) : m.keys.card = 0 ↔ m = ∅ := by
  rw [Finset.card_eq_zero]
  constructor
  · intro hkeys
    refine Finmap.ext_lookup fun k => ?_
    rw [Finmap.lookup_empty, Finmap.lookup_eq_none, ← Finmap.mem_keys, hkeys]
    exact Finset.notMem_empty k
  · rintro rfl
    exact Finmap.keys_empty

/-- The key that an occurrence is about: the one that it hands out, or the one of its operation. -/
def Occurrence.about? : Occurrence α β → Option Key
  | (.create _, .issued key) => some key
  | (op, _) => op.key?

theorem Occurrence.about?_of_issued {e : Occurrence α β} {key : Key}
    (h : Occurrence.issued? e = some key) : Occurrence.about? e = some key := by
  unfold Occurrence.issued? at h
  split at h
  · exact h
  · cases h

theorem Occurrence.about?_of_removed {e : Occurrence α β} {key : Key}
    (h : Occurrence.removed? e = some key) : Occurrence.about? e = some key := by
  unfold Occurrence.removed? at h
  split at h
  · exact h
  · cases h

/-- The map changes at the key of the occurrence only. -/
theorem Contents.lookup_record_of_ne (m : Contents α) {e : Occurrence α β} {k : Key}
    (hne : Occurrence.about? e ≠ some k) : (m.record e).lookup k = m.lookup k := by
  unfold Contents.record
  split
  · rename_i value key
    have hkey : k ≠ key := fun heq => hne (congrArg some heq.symm)
    exact Finmap.lookup_insert_of_ne _ hkey
  · rename_i key operation result
    have hkey : k ≠ key := fun heq => hne (congrArg some heq.symm)
    cases m.lookup key with
    | none => rfl
    | some value => exact Finmap.lookup_insert_of_ne _ hkey
  · rename_i key value
    have hkey : k ≠ key := fun heq => hne (congrArg some heq.symm)
    exact Finmap.lookup_erase_ne hkey
  · rfl

namespace SlotTable

/-! ## The entries of a table -/

/-- An entry is an occupied slot under its generation. -/
theorem mem_entries_iff (t : SlotTable α) (key : Key) (v : α) :
    (key, v) ∈ t.entries ↔ t.slots[key.index]? = some (.occupied key.generation v) := by
  unfold entries
  rw [List.mem_filterMap]
  constructor
  · rintro ⟨⟨slot, index⟩, hmem, hentry⟩
    rw [List.mem_zipIdx_iff_getElem?, Array.getElem?_toList] at hmem
    cases slot with
    | occupied generation value =>
      cases hentry
      exact hmem
    | vacant generation next => cases hentry
    | retired => cases hentry
  · intro hslot
    refine ⟨(.occupied key.generation v, key.index), ?_, rfl⟩
    rwa [List.mem_zipIdx_iff_getElem?, Array.getElem?_toList]

/-- The entries stand in the order of their slots, and no two of them share a slot. -/
theorem pairwise_index_entries (t : SlotTable α) :
    (t.entries.map fun entry => entry.1.index).Pairwise (· < ·) := by
  unfold entries
  rw [List.pairwise_map, List.pairwise_filterMap]
  have hslots : t.slots.toList.zipIdx.Pairwise fun a b => a.2 < b.2 := by
    rw [← List.pairwise_map (f := Prod.snd), List.zipIdx_map_snd]
    exact List.pairwise_lt_range'
  refine hslots.imp ?_
  rintro ⟨slot, index⟩ ⟨slot', index'⟩ hlt entry hentry entry' hentry'
  cases slot with
  | occupied generation value =>
    cases slot' with
    | occupied generation' value' =>
      cases hentry
      cases hentry'
      exact hlt
    | vacant generation' next' => cases hentry'
    | retired => cases hentry'
  | vacant generation next => cases hentry
  | retired => cases hentry

/-- No two entries share a key. -/
theorem nodup_keys_entries (t : SlotTable α) : (t.entries.map Prod.fst).Nodup := by
  apply List.Nodup.of_map Key.index
  rw [List.map_map]
  exact t.pairwise_index_entries.imp Nat.ne_of_lt

/-! ## Table and map -/

variable [HandleKind α] {t t' : SlotTable α} {m : Contents α}

/-- What can be read from the table is the map, and the table counts its entries. -/
structure Holds (t : SlotTable α) (m : Contents α) : Prop where
  read : ∀ key v, t.read key = .ok v ↔ m.lookup key = some v
  len : t.len = m.keys.card

theorem holds_empty : Holds (∅ : SlotTable α) (contentsAfter ([] : History α β)) where
  read key v := iff_of_false (read_empty_ne key v) (by simp [contentsAfter])
  len := rfl

theorem Holds.mem_keys_iff (h : Holds t m) (key : Key) :
    key ∈ m.keys ↔ ∃ v, t.read key = .ok v := by
  rw [Finmap.mem_keys, Finmap.mem_iff]
  simp only [h.read]

/-- The number that a table keeps is the number of its entries. -/
theorem Holds.length_entries (h : Holds t m) : t.entries.length = t.len := by
  have hkeys : (t.entries.map Prod.fst).toFinset = m.keys := by
    ext key
    rw [List.mem_toFinset, h.mem_keys_iff]
    simp only [List.mem_map, Prod.exists, exists_and_right, exists_eq_right]
    exact exists_congr fun v => by rw [mem_entries_iff, read_eq_ok_iff]
  rw [h.len, ← hkeys, List.toFinset_card_of_nodup t.nodup_keys_entries, List.length_map]

/-- A creation adds an entry to table and map. -/
theorem Holds.create (h : Holds t m) {key : Key} {value : α}
    (hstep : Transition t (.create value : TableOp α β) (.issued key) t') :
    Holds t' (m.insert key value) := by
  obtain ⟨hfresh, hread⟩ := hstep.read_of_create
  have hmem : key ∉ m.keys := by
    rw [h.mem_keys_iff]
    exact fun ⟨v, hv⟩ => hfresh v hv
  refine ⟨fun k v => ?_, ?_⟩
  · rw [hread, h.read, Contents.lookup_insert_eq_some_iff]
    have hne : m.lookup k = some v → k ≠ key := by
      rintro hlookup rfl
      exact hfresh v ((h.read k v).mpr hlookup)
    exact or_congr_right ⟨fun hlookup => ⟨hne hlookup, hlookup⟩, And.right⟩
  · rw [Contents.keys_insert, Finset.card_insert_of_notMem hmem, ← h.len]
    cases hstep <;> rfl

/-- A mutation replaces a resource in table and map. -/
theorem Holds.mutate (h : Holds t m) {key : Key} {operation : α → β × α} {result : β}
    (hstep : Transition t (.mutate key operation) (.result result) t') :
    Holds t' (m.record (.mutate key operation, .result result)) := by
  obtain ⟨value, hvalue, -, hread⟩ := hstep.read_of_mutate
  have hlookup := (h.read key value).mp hvalue
  have hmem : key ∈ m.keys := (h.mem_keys_iff key).mpr ⟨value, hvalue⟩
  rw [Contents.record, hlookup]
  refine ⟨fun k v => ?_, ?_⟩
  · rw [hread, h.read]
    exact (m.lookup_insert_eq_some_iff key _ k v).symm
  · show _ = (m.insert key _).keys.card
    rw [Contents.keys_insert, Finset.insert_eq_of_mem hmem, ← h.len]
    cases hstep
    rfl

/-- A release removes an entry from table and map. -/
theorem Holds.release (h : Holds t m) {key : Key} {value : α}
    (hstep : Transition t (.release key : TableOp α β) (.removed value) t') :
    Holds t' (m.erase key) := by
  obtain ⟨hvalue, hread⟩ := hstep.read_of_release
  have hmem : key ∈ m.keys := (h.mem_keys_iff key).mpr ⟨value, hvalue⟩
  refine ⟨fun k v => ?_, ?_⟩
  · rw [hread, h.read, Contents.lookup_erase_eq_some_iff]
  · rw [Finmap.keys_erase, Finset.card_erase_of_mem hmem, ← h.len]
    cases hstep <;> rfl

/-- **Every operation moves table and map alike.** -/
theorem Holds.transition (h : Holds t m) {op : TableOp α β} {outcome : TableOutcome α β}
    (hstep : Transition t op outcome t') : Holds t' (m.record (op, outcome)) := by
  cases hstep with
  | refilled value head slot => exact h.create (.refilled (β := β) value head slot)
  | appended value head => exact h.create (.appended (β := β) value head)
  | looked slot => exact h
  | changed operation slot => exact h.mutate (.changed operation slot)
  | recycled slot generation => exact h.release (.recycled (β := β) slot generation)
  | retired slot generation => exact h.release (.retired (β := β) slot generation)
  | refused about invalid => cases ‹TableOp α β› <;> exact h

/-- A reachable table holds what its history leads to. -/
theorem Reaches.holds {history : History α β} (h : Reaches history t) :
    Holds t (contentsAfter history) := by
  induction h with
  | empty => exact holds_empty
  | next before transition ih =>
    rw [contentsAfter_concat]
    exact ih.transition transition

/-! ## Other keys -/

/-- The verdict on a key depends on what happens to that key only. -/
theorem Transition.state_of_ne {op : TableOp α β} {outcome : TableOutcome α β}
    (h : Transition t op outcome t') {k : Key}
    (hne : Occurrence.about? (op, outcome) ≠ some k) : t'.state k = t.state k := by
  rw [state_eq, state_eq]
  cases h.generationStep with
  | @issue key issued removed fresh issuedAt releasedAt =>
    -- the first number of the slot moves past the key that is handed out, and past no other
    have hkey : k ≠ key := fun heq => hne (heq ▸ Occurrence.about?_of_issued issued)
    have hlt := lt_ite_succ_iff k fresh
    rw [or_iff_left hkey] at hlt
    rw [issuedAt, releasedAt]
    simp only [hlt]
  | @release key issued removed oldest live issuedAt releasedAt =>
    have hkey : k ≠ key := fun heq => hne (heq ▸ Occurrence.about?_of_removed removed)
    have hlt := lt_ite_succ_iff k oldest
    rw [or_iff_left hkey] at hlt
    rw [issuedAt, releasedAt]
    simp only [hlt]
  | rest issued removed issuedAt releasedAt => rw [issuedAt, releasedAt]

/-- The refusal of a key depends on the verdict on it only. -/
theorem refusal_eq_of_state_eq {k : Key} (h : t'.state k = t.state k) :
    t'.refusal k = t.refusal k := by
  unfold refusal
  rw [h]

/-- **An operation is not felt through other keys**: they read the same resource as before, or are
refused in the same way. -/
theorem Holds.read_of_ne (h : Holds t m) {op : TableOp α β} {outcome : TableOutcome α β}
    (hstep : Transition t op outcome t') {k : Key}
    (hne : Occurrence.about? (op, outcome) ≠ some k) : t'.read k = t.read k := by
  have hlookup := m.lookup_record_of_ne hne
  cases hread : t.read k with
  | ok v => rwa [(h.transition hstep).read, hlookup, ← h.read]
  | error e =>
    obtain ⟨hinvalid, rfl⟩ := (read_eq_error_iff e).mp hread
    have hstate := hstep.state_of_ne hne
    rw [read_eq_error_iff, hstate]
    exact ⟨hinvalid, (refusal_eq_of_state_eq hstate).symm⟩

/-! ## Every run -/

/-- What can be read is what a release yields. -/
theorem release_eq_ok_iff (t : SlotTable α) (key : Key) (v : α) :
    (∃ removal, t.release key = .ok removal ∧ removal.value = v) ↔ t.read key = .ok v := by
  constructor
  · rintro ⟨removal, hrelease, rfl⟩
    exact (transition_of_release (β := Unit) hrelease).read_of_release.1
  · intro hread
    obtain ⟨removal, hrelease, hvalue, -⟩ := release_of_read hread
    exact ⟨removal, hrelease, hvalue⟩

/-- What can be read is what a mutation works on, and its result is that of the operation. -/
theorem mutate_eq_ok_iff (t : SlotTable α) (key : Key) (operation : α → β × α) (result : β) :
    (∃ t', t.mutate key operation = .ok (result, t')) ↔
      ∃ v, t.read key = .ok v ∧ result = (operation v).1 := by
  constructor
  · rintro ⟨t', hmutate⟩
    obtain ⟨v, hread, hresult, -⟩ := (transition_of_mutate hmutate).read_of_mutate
    exact ⟨v, hread, hresult⟩
  · rintro ⟨v, hread, rfl⟩
    have hslot := (read_eq_ok_iff t key v).mp hread
    refine ⟨{ t with slots :=
      t.slots.setIfInBounds key.index (.occupied key.generation (operation v).2) }, ?_⟩
    unfold mutate
    rw [hslot]
    exact if_pos rfl

/-- **A table is a finite map from keys to resources.** After every sequence of operations on the
empty table, with the map that their outcomes lead to:

- A key is read, mutated or released iff the map has it. Reading and releasing yield the resource of
  the map, and mutating runs the operation on it and yields its result.
- The next operation moves table and map alike, and all that is read through other keys than its own
  stays as it is.
- The entries of the table are those of the map, in the order of their slots and each slot once. The
  table counts them, and is empty iff the map is. -/
theorem run_refines_contents (ops : List (TableOp α β)) :
    ∃ outcomes t, (∅ : SlotTable α).run ops = .ok (outcomes, t) ∧ outcomes.length = ops.length ∧
      (∀ key v, t.read key = .ok v ↔ (contentsAfter (ops.zip outcomes)).lookup key = some v) ∧
      (∀ key v, (∃ removal, t.release key = .ok removal ∧ removal.value = v) ↔
        (contentsAfter (ops.zip outcomes)).lookup key = some v) ∧
      (∀ key (operation : α → β × α) result,
        (∃ t', t.mutate key operation = .ok (result, t')) ↔
          ∃ v, (contentsAfter (ops.zip outcomes)).lookup key = some v ∧
            result = (operation v).1) ∧
      (∀ (op : TableOp α β) s, t.step op = .ok s →
        (∀ key v, s.table.read key = .ok v ↔
          ((contentsAfter (ops.zip outcomes)).record (op, s.outcome)).lookup key = some v) ∧
        ∀ key, Occurrence.about? (op, s.outcome) ≠ some key →
          s.table.read key = t.read key) ∧
      (t.entries.map fun entry => entry.1.index).Pairwise (· < ·) ∧
      (∀ key v, (key, v) ∈ t.entries ↔
        (contentsAfter (ops.zip outcomes)).lookup key = some v) ∧
      t.len = (contentsAfter (ops.zip outcomes)).keys.card ∧
      (t.isEmpty ↔ contentsAfter (ops.zip outcomes) = ∅) := by
  obtain ⟨outcomes, t, hrun, hlength, hreaches⟩ := run_total (α := α) ops
  have hholds := hreaches.holds
  refine ⟨outcomes, t, hrun, hlength, hholds.read, ?_, ?_, ?_, t.pairwise_index_entries, ?_,
    hholds.len, ?_⟩
  · intro key v
    rw [release_eq_ok_iff, hholds.read]
  · intro key operation result
    rw [mutate_eq_ok_iff]
    simp only [hholds.read]
  · intro op s hstep
    have htransition := transition_of_step hstep
    exact ⟨(hholds.transition htransition).read, fun key hne => hholds.read_of_ne htransition hne⟩
  · intro key v
    rw [mem_entries_iff, ← read_eq_ok_iff, hholds.read]
  · rw [isEmpty, beq_iff_eq, hholds.len, Contents.card_keys_eq_zero_iff]

end SlotTable

end OwnedHandles
