import OwnedHandles.Proofs.Slots.Transition

/-!
# Generations as counts

A table keeps no history, but two numbers per slot are enough to know what it has handed out: how
many generations of the slot have been issued, and how many of them have been released.

- `issuedAt t i`, `releasedAt t i`: the two numbers. A slot that does not exist has issued nothing.
- `state_eq`: what the table says of a key is decided by comparing its generation with them.
- `GenerationStep`: an operation issues the next generation of a slot, releases the oldest one that
  is left, or moves neither number.
- `mem_issuedKeys_iff`: the keys that a history hands out are those below the first number.
  `releasedAt_eq`: the second number counts the releases.
-/

namespace OwnedHandles

variable {α β : Type}

/-- How many generations of a slot have been issued. -/
def Slot.issued : Slot α → Nat
  | .occupied generation _ => generation.toNat + 1
  | .vacant generation _ => generation.toNat
  | .retired => UInt32.size

/-- How many generations of a slot have been released. -/
def Slot.released : Slot α → Nat
  | .occupied generation _ => generation.toNat
  | .vacant generation _ => generation.toNat
  | .retired => UInt32.size

namespace SlotTable

/-- A number that belongs to the slot at an index; zero if there is none. -/
def countAt (count : Slot α → Nat) (t : SlotTable α) (index : Nat) : Nat :=
  (t.slots[index]?).elim 0 count

/-- How many generations of the slot at an index have been issued. -/
def issuedAt (t : SlotTable α) (index : Nat) : Nat :=
  t.countAt Slot.issued index

/-- How many generations of the slot at an index have been released. -/
def releasedAt (t : SlotTable α) (index : Nat) : Nat :=
  t.countAt Slot.released index

theorem countAt_eq {t : SlotTable α} {index : Nat} {slot : Slot α}
    (h : t.slots[index]? = some slot) (count : Slot α → Nat) :
    t.countAt count index = count slot := by
  rw [countAt, h]
  rfl

/-- At most one generation is issued and not released. -/
theorem releasedAt_le_issuedAt (t : SlotTable α) (index : Nat) :
    t.releasedAt index ≤ t.issuedAt index := by
  unfold releasedAt issuedAt countAt
  rcases t.slots[index]? with _ | ⟨_ | _ | _⟩ <;> simp [Slot.issued, Slot.released]

/-- **The verdict on a key is a comparison**: released below the first number, live between the two,
and never issued from the second one on. -/
theorem state_eq (t : SlotTable α) (key : Key) :
    t.state key =
      if key.generation.toNat < t.releasedAt key.index then .released
      else if key.generation.toNat < t.issuedAt key.index then .valid
      else .uninitialized := by
  unfold state releasedAt issuedAt
  cases h : t.slots[key.index]? with
  | none => simp [countAt, h]
  | some slot =>
    rw [countAt_eq h, countAt_eq h]
    cases slot with
    | occupied generation value =>
      simp only [Slot.hasOccupant_occupied, Slot.generation, Slot.issued, Slot.released,
        UInt32.lt_iff_toNat_lt, ← UInt32.toNat_inj]
      grind
    | vacant generation next =>
      simp only [Slot.hasOccupant_vacant, Slot.generation, Slot.issued, Slot.released,
        UInt32.lt_iff_toNat_lt]
      grind
    | retired =>
      have hlt : key.generation.toNat < UInt32.size := key.generation.toNat_lt
      exact (if_pos hlt).symm

theorem state_eq_released_iff (t : SlotTable α) (key : Key) :
    t.state key = .released ↔ key.generation.toNat < t.releasedAt key.index := by
  rw [state_eq]
  grind

theorem state_eq_valid_iff (t : SlotTable α) (key : Key) :
    t.state key = .valid ↔
      t.releasedAt key.index ≤ key.generation.toNat ∧
        key.generation.toNat < t.issuedAt key.index := by
  rw [state_eq]
  grind

theorem state_eq_uninitialized_iff (t : SlotTable α) (key : Key) :
    t.state key = .uninitialized ↔ t.issuedAt key.index ≤ key.generation.toNat := by
  have := t.releasedAt_le_issuedAt key.index
  rw [state_eq]
  grind

/-! ## The numbers after an operation -/

/-- A replaced slot moves the number at its index and no other. -/
theorem Replaces.countAt {t t' : SlotTable α} {index : Nat} {new : Slot α}
    (h : Replaces t t' index new) (count : Slot α → Nat) (i : Nat) :
    t'.countAt count i = if i = index then count new else t.countAt count i := by
  unfold SlotTable.countAt
  rw [h i]
  by_cases hi : i = index
  · rw [if_pos hi, if_pos hi]
    rfl
  · rw [if_neg hi, if_neg hi]

/-- A replaced slot with the same number moves none. -/
theorem Replaces.countAt_eq {t t' : SlotTable α} {index : Nat} {new : Slot α}
    (h : Replaces t t' index new) {count : Slot α → Nat} (hnew : count new = t.countAt count index)
    (i : Nat) : t'.countAt count i = t.countAt count i := by
  rw [h.countAt]
  by_cases hi : i = index
  · rw [if_pos hi, hi, hnew]
  · rw [if_neg hi]

/-- A replaced slot with the next number counts its index up. -/
theorem Replaces.countAt_succ {t t' : SlotTable α} {index : Nat} {new : Slot α}
    (h : Replaces t t' index new) {count : Slot α → Nat}
    (hnew : count new = t.countAt count index + 1) (i : Nat) :
    t'.countAt count i = if i = index then t.countAt count i + 1 else t.countAt count i := by
  rw [h.countAt]
  by_cases hi : i = index
  · rw [if_pos hi, if_pos hi, hi, hnew]
  · rw [if_neg hi, if_neg hi]

@[simp] theorem issuedAt_empty (index : Nat) : issuedAt (∅ : SlotTable α) index = 0 := rfl

@[simp] theorem releasedAt_empty (index : Nat) : releasedAt (∅ : SlotTable α) index = 0 := rfl

theorem countAt_size (t : SlotTable α) (count : Slot α → Nat) :
    t.countAt count t.slots.size = 0 := by
  simp [countAt]

/-- What an occurrence does to the numbers: it issues the next generation of a slot, releases the
one generation of a slot that is left, or moves neither. -/
inductive GenerationStep (t t' : SlotTable α) (e : Occurrence α β) : Prop
  | issue {key : Key} (issued : Occurrence.issued? e = some key)
      (removed : Occurrence.removed? e = none)
      (fresh : key.generation.toNat = t.issuedAt key.index)
      (issuedAt : ∀ i, t'.issuedAt i = if i = key.index then t.issuedAt i + 1 else t.issuedAt i)
      (releasedAt : ∀ i, t'.releasedAt i = t.releasedAt i)
  | release {key : Key} (issued : Occurrence.issued? e = none)
      (removed : Occurrence.removed? e = some key)
      (oldest : key.generation.toNat = t.releasedAt key.index)
      (live : key.generation.toNat < t.issuedAt key.index)
      (issuedAt : ∀ i, t'.issuedAt i = t.issuedAt i)
      (releasedAt : ∀ i, t'.releasedAt i =
        if i = key.index then t.releasedAt i + 1 else t.releasedAt i)
  | rest (issued : Occurrence.issued? e = none) (removed : Occurrence.removed? e = none)
      (issuedAt : ∀ i, t'.issuedAt i = t.issuedAt i)
      (releasedAt : ∀ i, t'.releasedAt i = t.releasedAt i)

variable [HandleKind α] {t t' : SlotTable α}

/-- **Every operation is a generation step.** -/
theorem Transition.generationStep {op : TableOp α β} {outcome : TableOutcome α β}
    (h : Transition t op outcome t') : GenerationStep t t' (op, outcome) := by
  cases h with
  | @refilled index generation next value head slot =>
    have hset := replaces_set slot (.occupied generation value) next (t.len + 1)
    have hissued := countAt_eq slot Slot.issued
    have hreleased := countAt_eq slot Slot.released
    exact .issue rfl rfl hissued.symm (hset.countAt_succ (by rw [hissued]; rfl))
      (hset.countAt_eq (by rw [hreleased]; rfl))
  | appended value head =>
    have hpush := replaces_push t (.occupied 0 value) none (t.len + 1)
    have hissued := t.countAt_size Slot.issued
    have hreleased := t.countAt_size Slot.released
    exact .issue rfl rfl hissued.symm (hpush.countAt_succ (by rw [hissued]; rfl))
      (hpush.countAt_eq (by rw [hreleased]; rfl))
  | looked slot => exact .rest rfl rfl (fun _ => rfl) fun _ => rfl
  | @changed key value operation slot =>
    have hset := replaces_set slot (.occupied key.generation (operation value).2) t.freeHead t.len
    exact .rest rfl rfl (hset.countAt_eq (by rw [countAt_eq slot]; rfl))
      (hset.countAt_eq (by rw [countAt_eq slot]; rfl))
  | @recycled key value next slot generation =>
    have hset := replaces_set slot (.vacant next t.freeHead) (some key.index) (t.len - 1)
    have hissued := countAt_eq slot Slot.issued
    have hreleased := countAt_eq slot Slot.released
    have hnext := toNat_of_nextGeneration generation
    exact .release rfl rfl hreleased.symm (by rw [issuedAt, hissued]; exact Nat.lt_succ_self _)
      (hset.countAt_eq (by rw [hissued]; exact hnext))
      (hset.countAt_succ (by rw [hreleased]; exact hnext))
  | @retired key value slot generation =>
    have hset := replaces_set slot .retired t.freeHead (t.len - 1)
    have hissued := countAt_eq slot Slot.issued
    have hreleased := countAt_eq slot Slot.released
    -- the last generation is one below the number of all generations
    have hlast := congrArg UInt32.toNat (nextGeneration_eq_none_iff.mp generation)
    exact .release rfl rfl hreleased.symm (by rw [issuedAt, hissued]; exact Nat.lt_succ_self _)
      (hset.countAt_eq (by rw [hissued, Slot.issued, Slot.issued, hlast]; rfl))
      (hset.countAt_succ (by rw [hreleased, Slot.released, Slot.released, hlast]; rfl))
  | refused about invalid =>
    cases ‹TableOp α β› <;> exact .rest rfl rfl (fun _ => rfl) fun _ => rfl

/-! ## The keys of a history -/

/-- A key whose number is next lies below the number once it has been counted up. -/
theorem lt_ite_succ_iff (key : Key) {other : Key} {counts : Nat → Nat}
    (hother : other.generation.toNat = counts other.index) :
    key.generation.toNat < (if key.index = other.index then counts key.index + 1
      else counts key.index) ↔ key.generation.toNat < counts key.index ∨ key = other := by
  have hext : key = other ↔ key.index = other.index ∧
      key.generation.toNat = other.generation.toNat := by
    rw [UInt32.toNat_inj]
    cases key
    cases other
    simp
  rw [hext]
  by_cases hi : key.index = other.index
  · rw [if_pos hi, hother, ← hi]
    omega
  · rw [if_neg hi]
    simp [hi]

/-- A key has been issued iff its generation lies below the first number of its slot. -/
theorem Reaches.mem_issuedKeys_iff {history : History α β} (h : Reaches history t) (key : Key) :
    key ∈ issuedKeys history ↔ key.generation.toNat < t.issuedAt key.index := by
  induction h with
  | empty => simp [issuedKeys]
  | next before transition ih =>
    rw [issuedKeys_concat, List.mem_append, ih]
    cases transition.generationStep with
    | issue issued removed fresh issuedAt releasedAt =>
      rw [issued, issuedAt, lt_ite_succ_iff key fresh]
      simp
    | release issued removed oldest live issuedAt releasedAt =>
      rw [issued, issuedAt]
      simp
    | rest issued removed issuedAt releasedAt =>
      rw [issued, issuedAt]
      simp

/-- No key is issued twice: the next one of a slot lies above all earlier ones. -/
theorem Reaches.nodup_issuedKeys {history : History α β} (h : Reaches history t) :
    (issuedKeys history).Nodup := by
  induction h with
  | empty => exact List.nodup_nil
  | next before transition ih =>
    rw [issuedKeys_concat]
    cases transition.generationStep with
    | @issue key issued removed fresh issuedAt releasedAt =>
      have hnew : key ∉ issuedKeys _ := fun hmem =>
        Nat.lt_irrefl _ (fresh ▸ (before.mem_issuedKeys_iff key).mp hmem)
      rw [issued]
      exact List.nodup_append.mpr ⟨ih, by simp, by grind⟩
    | release issued removed oldest live issuedAt releasedAt =>
      rw [issued]
      simpa using ih
    | rest issued removed issuedAt releasedAt =>
      rw [issued]
      simpa using ih

/-- How many releases of a slot have succeeded. -/
def releases (history : History α β) (index : Nat) : Nat :=
  (removedKeys history).countP (·.index = index)

/-- The second number of a slot is the number of its releases. -/
theorem Reaches.releasedAt_eq {history : History α β} (h : Reaches history t) (index : Nat) :
    t.releasedAt index = releases history index := by
  induction h with
  | empty => rfl
  | next before transition ih =>
    rw [releases, removedKeys_concat, List.countP_append, ← releases, ← ih]
    cases transition.generationStep with
    | issue issued removed fresh issuedAt releasedAt =>
      rw [removed, releasedAt]
      rfl
    | @release key issued removed oldest live issuedAt releasedAt =>
      rw [removed, releasedAt]
      by_cases hi : index = key.index
      · simp [hi]
      · simp [hi, Ne.symm hi]
    | rest issued removed issuedAt releasedAt =>
      rw [removed, releasedAt]
      rfl

/-- Releases are never taken back. -/
theorem Transition.releasedAt_le {op : TableOp α β} {outcome : TableOutcome α β}
    (h : Transition t op outcome t') (index : Nat) : t.releasedAt index ≤ t'.releasedAt index := by
  cases h.generationStep with
  | issue issued removed fresh issuedAt releasedAt => exact Nat.le_of_eq (releasedAt index).symm
  | rest issued removed issuedAt releasedAt => exact Nat.le_of_eq (releasedAt index).symm
  | release issued removed oldest live issuedAt releasedAt =>
    rw [releasedAt]
    split
    · exact Nat.le_succ _
    · exact Nat.le_refl _

end SlotTable

end OwnedHandles
