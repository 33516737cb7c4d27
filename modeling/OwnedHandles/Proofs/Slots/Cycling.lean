import OwnedHandles.Proofs.Slots.Contents

/-!
# Cycling a slot

A release makes its slot the first vacant one, and the next creation fills the first vacant slot. So
a resource that is released and created again comes back to its slot, and nothing but the generation
of the slot has changed. This can be repeated until the generations are used up.

- `Key.later key n`: the key of the same slot, `n` generations on.
- `SlotTable.cycle t key n`: releases a key and creates its resource again, `n` times, each time
  under the key that was issued last.
- `SlotTable.cycle_eq`: the keys and the table that this leads to. `SlotTable.advance_eq_of_cycle`:
  `SlotTable.advance` is a shortcut to the same table.
- `SlotTable.issuedKeys_index_ne`: a slot whose generations are used up is never filled again.
- `SlotTable.cycling_changes_generation_only`: all of it for every reachable table.
-/

namespace OwnedHandles

/-! ## Later keys -/

/-- The key of the same slot, a number of generations on. -/
def Key.later (key : Key) (n : Nat) : Key :=
  ⟨key.index, UInt32.ofNat (key.generation.toNat + n)⟩

namespace Key

@[simp] theorem later_zero (key : Key) : key.later 0 = key := by
  show Key.mk key.index (UInt32.ofNat (key.generation.toNat + 0)) = key
  rw [Nat.add_zero, UInt32.ofNat_toNat]

/-- As long as generations are left, a later key has a greater one: they do not wrap. -/
theorem toNat_generation_later {key : Key} {n : Nat}
    (h : key.generation.toNat + n ≤ lastGeneration.toNat) :
    (key.later n).generation.toNat = key.generation.toNat + n := by
  rw [toNat_lastGeneration] at h
  show (UInt32.ofNat (key.generation.toNat + n)).toNat = _
  rw [UInt32.toNat_ofNat']
  exact Nat.mod_eq_of_lt (by omega)

theorem later_later {key : Key} {n : Nat} (h : key.generation.toNat + n ≤ lastGeneration.toNat)
    (m : Nat) : (key.later n).later m = key.later (n + m) := by
  show Key.mk key.index (UInt32.ofNat ((key.later n).generation.toNat + m)) = _
  rw [toNat_generation_later h, Nat.add_assoc]
  rfl

/-- The next generation of a slot is that of the next key. -/
theorem nextGeneration_eq_later {key : Key}
    (h : key.generation.toNat + 1 ≤ lastGeneration.toNat) :
    nextGeneration key.generation = some (key.later 1).generation := by
  have hne : key.generation ≠ lastGeneration := by
    intro heq
    rw [heq] at h
    exact absurd h (Nat.not_succ_le_self _)
  obtain ⟨next, hnext⟩ := Option.ne_none_iff_exists'.mp (mt nextGeneration_eq_none_iff.mp hne)
  rw [hnext, ← UInt32.toNat_inj.mp ((toNat_of_nextGeneration hnext).trans
    (toNat_generation_later h).symm)]

end Key

namespace SlotTable

variable {α β : Type}

/-! ## One round -/

/-- The table with the slot of a key occupied under its generation. -/
def refill (t : SlotTable α) (key : Key) (value : α) : SlotTable α :=
  { t with slots := t.slots.setIfInBounds key.index (.occupied key.generation value) }

variable [HandleKind α] {t : SlotTable α} {key : Key} {value : α}

/-- Filling a slot with what it holds changes nothing. -/
theorem refill_self (h : t.read key = .ok value) : t.refill key value = t := by
  have hslot := (read_eq_ok_iff t key value).mp h
  have hslots : t.slots.setIfInBounds key.index (.occupied key.generation value) = t.slots := by
    apply Array.ext_getElem?
    intro i
    rw [getElem?_set hslot]
    split
    · rename_i hi
      rw [hi, hslot]
    · rfl
  rw [refill, hslots]

omit [HandleKind α] in
/-- Of two fillings of a slot the second one counts. -/
theorem refill_refill (t : SlotTable α) (key : Key) (n : Nat) (first value : α) :
    (t.refill key first).refill (key.later n) value = t.refill (key.later n) value := by
  show SlotTable.mk ((t.slots.setIfInBounds key.index _).setIfInBounds key.index _) _ _ = _
  rw [Array.setIfInBounds_setIfInBounds]
  rfl

/-- A slot that is filled under another generation is read under it. -/
theorem read_refill_later (h : t.read key = .ok value) (n : Nat) :
    (t.refill (key.later n) value).read (key.later n) = .ok value := by
  have hslot := (read_eq_ok_iff t key value).mp h
  rw [read_eq_ok_iff]
  show (t.slots.setIfInBounds key.index _)[key.index]? = _
  rw [getElem?_set hslot, if_pos rfl]

/-- A release of a key that can be read goes one of two ways, by the generation that is left. -/
theorem release_eq (h : t.read key = .ok value) :
    t.release key = .ok
      (match nextGeneration key.generation with
      | some generation =>
        ⟨value, ⟨t.slots.setIfInBounds key.index (.vacant generation t.freeHead), some key.index,
          t.len - 1⟩, []⟩
      | none =>
        ⟨value, ⟨t.slots.setIfInBounds key.index .retired, t.freeHead, t.len - 1⟩,
          [.slotRetired (kindName α) key.index]⟩) := by
  have hslot := (read_eq_ok_iff t key value).mp h
  have hvalid : (t.state key).isValid := (isValid_state_iff t key).mpr ⟨value, hslot⟩
  unfold release
  rw [if_pos hvalid, hslot]
  cases nextGeneration key.generation <;> rfl

/-- **One round leads back to the slot**: what is released comes first on the free list, and the
creation takes it off again. -/
theorem create_of_release (h : t.read key = .ok value) (hlen : 0 < t.len)
    (hleft : key.generation.toNat + 1 ≤ lastGeneration.toNat) :
    ∃ removal, t.release key = .ok removal ∧ removal.value = value ∧ removal.events = [] ∧
      removal.table.create value = .ok (key.later 1, t.refill (key.later 1) value) := by
  have hslot := (read_eq_ok_iff t key value).mp h
  have hrelease := release_eq h
  rw [Key.nextGeneration_eq_later hleft] at hrelease
  refine ⟨_, hrelease, rfl, rfl, ?_⟩
  have hemptied := getElem?_set hslot (.vacant (key.later 1).generation t.freeHead) key.index
  rw [if_pos rfl] at hemptied
  unfold create
  simp only [hemptied, Array.setIfInBounds_setIfInBounds, Nat.sub_add_cancel hlen]
  rfl

/-! ## Many rounds -/

/-- Releases a key and creates its resource again, a number of times, each time with the key that
was issued last: the keys that are issued, and the table at the end. -/
def cycle (t : SlotTable α) (key : Key) : Nat → Except ReleaseError (List Key × SlotTable α)
  | 0 => .ok ([], t)
  | n + 1 =>
    match t.release key with
    | .error e => .error e
    | .ok removal =>
      match removal.table.create removal.value with
      | .error d => .error (.defect d)
      | .ok (fresh, table) =>
        match table.cycle fresh n with
        | .error e => .error e
        | .ok (keys, last) => .ok (fresh :: keys, last)

/-- **Rounds change the generation of the slot and nothing else**, and yield its generations in
turn. -/
theorem cycle_eq (n : Nat) (h : t.read key = .ok value) (hlen : 0 < t.len)
    (hleft : key.generation.toNat + n ≤ lastGeneration.toNat) :
    t.cycle key n =
      .ok ((List.range n).map fun j => key.later (j + 1), t.refill (key.later n) value) := by
  induction n generalizing t key with
  | zero =>
    rw [Key.later_zero, refill_self h]
    rfl
  | succ n ih =>
    have hfirst : key.generation.toNat + 1 ≤ lastGeneration.toNat := by omega
    have hnext := Key.toNat_generation_later hfirst
    have hlater : ∀ j, (key.later 1).later j = key.later (j + 1) := by
      intro j
      rw [Key.later_later hfirst, Nat.add_comm]
    obtain ⟨removal, hrelease, hvalue, -, hcreate⟩ := create_of_release h hlen hfirst
    have hrest := ih (read_refill_later h 1) hlen (by omega)
    have hrefill := refill_refill t (key.later 1) n value value
    rw [hlater] at hrefill
    rw [cycle, hrelease]
    simp only [hvalue, hcreate, hrest, hlater, hrefill]
    rw [List.range_succ_eq_map, List.map_cons, List.map_map]
    rfl

/-- **The shortcut leads where the rounds lead.** -/
theorem advance_eq_of_cycle {n : Nat} (h : t.read key = .ok value) (hlen : 0 < t.len)
    (hpos : 0 < n) (hleft : key.generation.toNat + n ≤ lastGeneration.toNat) :
    ∃ keys last, t.cycle key n = .ok (keys, last) ∧
      t.advance key.index (key.later n).generation = some (key.later n, last) := by
  refine ⟨_, _, cycle_eq n h hlen hleft, ?_⟩
  have hslot := (read_eq_ok_iff t key value).mp h
  have hlt : key.generation < (key.later n).generation := by
    rw [UInt32.lt_iff_toNat_lt, Key.toNat_generation_later hleft]
    omega
  unfold advance
  rw [hslot]
  simp only [if_pos hlt]
  rfl

/-! ## Slots that are used up -/

/-- A slot that has released all its generations issues none. -/
theorem Transition.issued_index_ne {t' : SlotTable α} {op : TableOp α β}
    {outcome : TableOutcome α β} (h : Transition t op outcome t') {index : Nat}
    (hspent : UInt32.size ≤ t.releasedAt index)
    (hissued : Occurrence.issued? (op, outcome) = some key) : key.index ≠ index := by
  rintro rfl
  cases h.generationStep with
  | @issue fresh issued removed next issuedAt releasedAt =>
    obtain rfl : key = fresh := Option.some.inj (hissued.symm.trans issued)
    have hle := t.releasedAt_le_issuedAt key.index
    have hlt : key.generation.toNat < UInt32.size := key.generation.toNat_lt
    omega
  | release issued =>
    rw [issued] at hissued
    cases hissued
  | rest issued =>
    rw [issued] at hissued
    cases hissued

/-- **A slot that is used up is never filled again**, whatever is done next. -/
theorem issuedKeys_index_ne {last : SlotTable α} {ops : List (TableOp α β)}
    {outcomes : List (TableOutcome α β)} {index : Nat} (hspent : UInt32.size ≤ t.releasedAt index)
    (hrun : t.run ops = .ok (outcomes, last)) :
    ∀ k ∈ issuedKeys (ops.zip outcomes), k.index ≠ index := by
  induction ops generalizing t outcomes with
  | nil =>
    intro k hk
    cases hk
  | cons op rest ih =>
    obtain ⟨s, later, hstep, hrest, rfl⟩ := run_cons_eq_ok_iff.mp hrun
    have htransition := transition_of_step hstep
    intro k hk
    rw [List.zip_cons_cons, issuedKeys, List.mem_filterMap] at hk
    obtain ⟨e, he, hissued⟩ := hk
    rcases List.mem_cons.mp he with rfl | he
    · exact htransition.issued_index_ne hspent hissued
    · have hspent' := Nat.le_trans hspent (htransition.releasedAt_le index)
      exact ih hspent' hrest k (List.mem_filterMap.mpr ⟨e, he, hissued⟩)

/-- A release under the last generation retires the slot. The free list does not lead through it. -/
theorem release_of_last (h : t.read key = .ok value) (hlast : key.generation = lastGeneration) :
    t.release key = .ok ⟨value, ⟨t.slots.setIfInBounds key.index .retired, t.freeHead, t.len - 1⟩,
      [.slotRetired (kindName α) key.index]⟩ := by
  rw [release_eq h, nextGeneration_eq_none_iff.mpr hlast]

/-! ## Every reachable table -/

/-- A table from which something can be read does not count to zero. -/
theorem Holds.len_pos {m : Contents α} (h : Holds t m) (hread : t.read key = .ok value) :
    0 < t.len := by
  rw [h.len]
  exact Finset.card_pos.mpr ⟨key, (h.mem_keys_iff key).mpr ⟨value, hread⟩⟩

/-- **Cycling a slot changes only its generation.** After every sequence of operations on the empty
table, for every live key:

- As many rounds as there are generations left, each releasing the key of the slot and creating its
  resource again, yield the keys of the next generations in turn. The table differs from the one at
  the beginning in the generation of this slot; its other slots, its free list and its count are the
  same.
- Under the last generation, the release retires the slot instead. The count drops by one, the free
  list stays, and no later sequence of operations, all of which can be carried out, is ever issued a
  key of the slot again. -/
theorem cycling_changes_generation_only (ops : List (TableOp α β)) :
    ∃ outcomes t, (∅ : SlotTable α).run ops = .ok (outcomes, t) ∧ outcomes.length = ops.length ∧
      ∀ key value, t.read key = .ok value →
        (∀ n, key.generation.toNat + n ≤ lastGeneration.toNat →
          t.cycle key n = .ok ((List.range n).map fun j => key.later (j + 1),
            { t with slots :=
                t.slots.setIfInBounds key.index (.occupied (key.later n).generation value) }) ∧
          ∀ j ≤ n, (key.later j).index = key.index ∧
            (key.later j).generation.toNat = key.generation.toNat + j) ∧
        (key.generation = lastGeneration →
          ∃ removal, t.release key = .ok removal ∧ removal.value = value ∧
            removal.table.slots = t.slots.setIfInBounds key.index .retired ∧
            removal.table.freeHead = t.freeHead ∧ removal.table.len + 1 = t.len ∧
            (∃ free, FreeList t free ∧ FreeList removal.table free) ∧
            ∀ next : List (TableOp α β), ∃ outcomes' last,
              removal.table.run next = .ok (outcomes', last) ∧
                ∀ k ∈ issuedKeys (next.zip outcomes'), k.index ≠ key.index) := by
  obtain ⟨outcomes, t, hrun, hlength, hreaches⟩ := run_total (α := α) ops
  refine ⟨outcomes, t, hrun, hlength, fun key value hread => ⟨fun n hleft => ?_, fun hlast => ?_⟩⟩
  · refine ⟨cycle_eq n hread (hreaches.holds.len_pos hread) hleft, fun j hj => ⟨rfl, ?_⟩⟩
    exact Key.toNat_generation_later (by omega)
  · have hslot := (read_eq_ok_iff t key value).mp hread
    have hlen := hreaches.holds.len_pos hread
    have hfree := hreaches.freeList
    have hfree' : FreeList ⟨t.slots.setIfInBounds key.index .retired, t.freeHead, t.len - 1⟩ _ :=
      hfree.replaced hslot (by simp) (t.len - 1)
    refine ⟨_, release_of_last hread hlast, rfl, rfl, rfl, Nat.sub_add_cancel hlen,
      ⟨_, hfree, hfree'⟩, fun next => ?_⟩
    obtain ⟨outcomes', last, hrun', -⟩ := hfree'.run_total next
    have hretired : (t.slots.setIfInBounds key.index .retired)[key.index]? = some .retired := by
      rw [getElem?_set hslot, if_pos rfl]
    have hspent := countAt_eq (t := ⟨_, t.freeHead, t.len - 1⟩) hretired Slot.released
    exact ⟨outcomes', last, hrun', issuedKeys_index_ne hspent.ge hrun'⟩

end SlotTable

end OwnedHandles
