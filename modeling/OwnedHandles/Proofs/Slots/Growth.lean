import Mathlib.Order.Bounds.Basic
import OwnedHandles.Proofs.Slots.Contents

/-!
# The size of a table

A table adds a slot only for a resource that finds all others taken: by live resources, or by the
generations that they have used up. So the size of a table is what has been taken at its fullest.

- `vacantSlots`, `retiredSlots`: how many slots are vacant, and how many are retired.
  `taken`: how many cannot be filled. `Reaches.size_eq`: these are all slots there are.
- `FreeList.freeHead_eq_none_iff`: where a creation looks for a vacant slot, it misses none.
- `Reaches.size_of_transition`: one operation keeps the size at the fullest so far.
  `Reaches.size_of_run`: and so do operations one after the other.
- `Passes t ops u`: a run of the operations passes the table on its way.
- `size_is_fullest`: all of it for every sequence of operations on the empty table.
-/

namespace OwnedHandles

variable {α β : Type}

/-! ## Slots by form -/

namespace Slot

/-- Tells whether a resource is in the slot. -/
def isOccupied : Slot α → Bool
  | .occupied _ _ => true
  | .vacant _ _ | .retired => false

/-- Tells whether the slot can be filled. -/
def isVacant : Slot α → Bool
  | .vacant _ _ => true
  | .occupied _ _ | .retired => false

/-- Tells whether the slot has used up its generations. -/
def isRetired : Slot α → Bool
  | .retired => true
  | .occupied _ _ | .vacant _ _ => false

end Slot

namespace SlotTable

/-- How many slots are vacant. -/
def vacantSlots (t : SlotTable α) : Nat :=
  t.slots.countP Slot.isVacant

/-- How many slots are retired. -/
def retiredSlots (t : SlotTable α) : Nat :=
  t.slots.countP Slot.isRetired

/-- How many slots cannot be filled: those of live resources, and those that are retired. -/
def taken (t : SlotTable α) : Nat :=
  t.len + t.retiredSlots

/-- Every slot is of one of the three forms. -/
theorem size_eq_countP (slots : Array (Slot α)) :
    slots.size = slots.countP Slot.isOccupied + slots.countP Slot.isVacant +
      slots.countP Slot.isRetired := by
  rw [← Array.countP_toList, ← Array.countP_toList, ← Array.countP_toList, ← Array.length_toList]
  induction slots.toList with
  | nil => rfl
  | cons slot rest ih =>
    rw [List.length_cons, List.countP_cons, List.countP_cons, List.countP_cons, ih]
    cases slot with
    | occupied generation value => simp [Slot.isOccupied, Slot.isVacant, Slot.isRetired]; omega
    | vacant generation next => simp [Slot.isOccupied, Slot.isVacant, Slot.isRetired]; omega
    | retired => simp [Slot.isOccupied, Slot.isVacant, Slot.isRetired]; omega

/-- The entries of a table are its occupied slots. -/
theorem length_entries (t : SlotTable α) : t.entries.length = t.slots.countP Slot.isOccupied := by
  unfold entries
  rw [List.length_filterMap_eq_countP, ← Array.countP_toList]
  conv_rhs => rw [← List.zipIdx_map_fst 0 t.slots.toList, List.countP_map]
  congr 1
  funext ⟨slot, index⟩
  cases slot <;> rfl

/-- No slot is vacant iff none is counted. -/
theorem vacantSlots_eq_zero_iff (t : SlotTable α) :
    t.vacantSlots = 0 ↔ ∀ i, ¬IsVacant t.slots i := by
  unfold vacantSlots
  rw [Array.countP_eq_zero]
  constructor
  · rintro h i ⟨generation, next, hslot⟩
    exact h _ (Array.mem_of_getElem? hslot) rfl
  · intro h slot hmem
    obtain ⟨i, hi⟩ := Array.mem_iff_getElem?.mp hmem
    cases slot with
    | occupied generation value => exact Bool.false_ne_true
    | vacant generation next => exact fun _ => h i ⟨generation, next, hi⟩
    | retired => exact Bool.false_ne_true

/-- **A creation finds a vacant slot iff there is one.** -/
theorem FreeList.freeHead_eq_none_iff {t : SlotTable α} {free : List Nat} (h : FreeList t free) :
    t.freeHead = none ↔ t.vacantSlots = 0 := by
  have hchain := h.chain
  rw [vacantSlots_eq_zero_iff]
  constructor
  · intro hhead i hvacant
    rw [hhead] at hchain
    have hmem := (h.covers i).mpr hvacant
    rw [hchain.of_none] at hmem
    exact List.not_mem_nil hmem
  · intro hnone
    cases hhead : t.freeHead with
    | none => rfl
    | some index =>
      rw [hhead] at hchain
      obtain ⟨generation, next, rest, slot, -, -⟩ := hchain.of_some
      exact absurd ⟨generation, next, slot⟩ (hnone index)

variable [HandleKind α] {t t' : SlotTable α}

/-! ## One operation -/

/-- **The slots of a table** are those of live resources, the vacant and the retired ones. -/
theorem Reaches.size_eq {history : History α β} (h : Reaches history t) :
    t.slots.size = t.len + t.vacantSlots + t.retiredSlots := by
  rw [← h.holds.length_entries, length_entries]
  exact size_eq_countP t.slots

/-- What is taken never exceeds the slots. -/
theorem Reaches.taken_le_size {history : History α β} (h : Reaches history t) :
    t.taken ≤ t.slots.size := by
  rw [h.size_eq, taken]
  omega

/-- What an operation does to the number of slots: a creation that finds no vacant slot adds one and
leaves none vacant; nothing else moves it. -/
inductive Growth (t t' : SlotTable α) (op : TableOp α β) : Prop
  | grows (creates : ∃ value, op = .create value) (full : t.vacantSlots = 0)
      (size : t'.slots.size = t.slots.size + 1) (head : t'.freeHead = none)
  | stays (other : (∃ value, op = .create value) → t.vacantSlots ≠ 0)
      (size : t'.slots.size = t.slots.size)

/-- **Every operation is one of growth.** -/
theorem Transition.growth {op : TableOp α β} {outcome : TableOutcome α β} {free : List Nat}
    (h : Transition t op outcome t') (hfree : FreeList t free) : Growth t t' op := by
  have hhead := hfree.freeHead_eq_none_iff
  cases h with
  | refilled value head slot =>
    refine .stays (fun _ hfull => ?_) Array.size_setIfInBounds
    rw [hhead.mpr hfull] at head
    cases head
  | appended value head => exact .grows ⟨value, rfl⟩ (hhead.mp head) (Array.size_push _) rfl
  | looked slot => exact .stays (fun ⟨_, h⟩ => nomatch h) rfl
  | changed operation slot => exact .stays (fun ⟨_, h⟩ => nomatch h) Array.size_setIfInBounds
  | recycled slot generation => exact .stays (fun ⟨_, h⟩ => nomatch h) Array.size_setIfInBounds
  | retired slot generation => exact .stays (fun ⟨_, h⟩ => nomatch h) Array.size_setIfInBounds
  | refused about invalid =>
    refine .stays ?_ rfl
    rintro ⟨value, rfl⟩
    cases about

omit [HandleKind α] in
/-- Slots never disappear. -/
theorem Growth.size_le {op : TableOp α β} (h : Growth t t' op) : t.slots.size ≤ t'.slots.size := by
  cases h with
  | grows creates full size head => exact size ▸ Nat.le_succ _
  | stays other size => exact size.ge

omit [HandleKind α] in
/-- A slot is added by a creation iff no slot is vacant, and by nothing else. -/
theorem Growth.size_lt_iff {op : TableOp α β} (h : Growth t t' op) :
    t.slots.size < t'.slots.size ↔ (∃ value, op = .create value) ∧ t.vacantSlots = 0 := by
  cases h with
  | grows creates full size head =>
    exact iff_of_true (size ▸ Nat.lt_succ_self _) ⟨creates, full⟩
  | stays other size =>
    exact iff_of_false size.not_gt fun ⟨creates, full⟩ => other creates full

/-- **The size after an operation** is the size before it, or all that is taken after it. -/
theorem Reaches.size_of_transition {history : History α β} {op : TableOp α β}
    {outcome : TableOutcome α β} (h : Reaches history t) (hstep : Transition t op outcome t') :
    t'.slots.size = max t.slots.size t'.taken := by
  have hnext := h.next hstep
  have hle := hnext.taken_le_size
  cases hstep.growth h.freeList with
  | grows creates full size head =>
    -- there is no vacant slot after the growth, so that all slots are taken
    have hvacant := hnext.freeList.freeHead_eq_none_iff.mp head
    have htaken : t'.taken = t'.slots.size := by
      rw [hnext.size_eq, hvacant]
      rfl
    rw [htaken, size]
    exact (Nat.max_eq_right (Nat.le_succ _)).symm
  | stays other size =>
    rw [size] at hle ⊢
    exact (Nat.max_eq_left hle).symm

/-! ## Operations one after the other -/

/-- A run of the operations passes the table: it is there after the first few of them. -/
def Passes (t : SlotTable α) (ops : List (TableOp α β)) (u : SlotTable α) : Prop :=
  ∃ n outcomes, t.run (ops.take n) = .ok (outcomes, u)

theorem passes_nil_iff {u : SlotTable α} : t.Passes ([] : List (TableOp α β)) u ↔ u = t := by
  constructor
  · rintro ⟨n, outcomes, hrun⟩
    rw [List.take_nil] at hrun
    cases hrun
    rfl
  · rintro rfl
    exact ⟨0, [], rfl⟩

/-- A run passes its first table, and then those that the rest of it passes. -/
theorem passes_cons_iff {op : TableOp α β} {rest : List (TableOp α β)} {u : SlotTable α} :
    t.Passes (op :: rest) u ↔ u = t ∨ ∃ s, t.step op = .ok s ∧ s.table.Passes rest u := by
  constructor
  · rintro ⟨n, outcomes, hrun⟩
    cases n with
    | zero =>
      cases hrun
      exact .inl rfl
    | succ n =>
      obtain ⟨s, later, hstep, hrest, -⟩ := run_cons_eq_ok_iff.mp hrun
      exact .inr ⟨s, hstep, n, later, hrest⟩
  · rintro (rfl | ⟨s, hstep, n, later, hrest⟩)
    · exact ⟨0, [], rfl⟩
    · exact ⟨n + 1, _, run_cons_eq_ok_iff.mpr ⟨s, later, hstep, hrest, rfl⟩⟩

/-- **The size after a run** is the size before it, or all that was taken at the fullest point. -/
theorem Reaches.size_of_run {history : History α β} {last : SlotTable α} {ops : List (TableOp α β)}
    {outcomes : List (TableOutcome α β)} (h : Reaches history t)
    (hrun : t.run ops = .ok (outcomes, last)) :
    (∀ u, t.Passes ops u → u.slots.size ≤ last.slots.size ∧ u.taken ≤ last.slots.size) ∧
      (last.slots.size = t.slots.size ∨ ∃ u, t.Passes ops u ∧ u.taken = last.slots.size) := by
  induction ops generalizing history t outcomes with
  | nil =>
    cases hrun
    refine ⟨fun u hu => ?_, .inl rfl⟩
    rw [passes_nil_iff.mp hu]
    exact ⟨Nat.le_refl _, h.taken_le_size⟩
  | cons op rest ih =>
    obtain ⟨s, later, hstep, hrest, -⟩ := run_cons_eq_ok_iff.mp hrun
    have htransition := transition_of_step hstep
    have hsize := h.size_of_transition htransition
    obtain ⟨hbound, hattained⟩ := ih (h.next htransition) hrest
    have hfirst : s.table.Passes rest s.table := ⟨0, [], rfl⟩
    have hgrown : t.slots.size ≤ last.slots.size :=
      Nat.le_trans (htransition.growth h.freeList).size_le (hbound _ hfirst).1
    refine ⟨fun u hu => ?_, ?_⟩
    · rcases passes_cons_iff.mp hu with rfl | ⟨s', hstep', hu⟩
      · exact ⟨hgrown, Nat.le_trans h.taken_le_size hgrown⟩
      · rw [hstep] at hstep'
        cases hstep'
        exact hbound u hu
    · rcases hattained with hlast | ⟨u, hu, htaken⟩
      · -- the rest adds no slot, so that the size is what the first operation leaves
        rcases Nat.le_total s.table.taken t.slots.size with hle | hle
        · rw [Nat.max_eq_left hle] at hsize
          exact .inl (hlast.trans hsize)
        · rw [Nat.max_eq_right hle] at hsize
          exact .inr ⟨s.table, passes_cons_iff.mpr (.inr ⟨s, hstep, hfirst⟩),
            (hlast.trans hsize).symm⟩
      · exact .inr ⟨u, passes_cons_iff.mpr (.inr ⟨s, hstep, hu⟩), htaken⟩

/-- **A table grows only when it must.** After every sequence of operations on the empty table:

- The slots are those of its live resources, which are its entries, the vacant and the retired ones.
- Their number is the greatest number of slots that were taken at any point of the run, by live
  resources or by retirement. No table that the run passed has more slots.
- The next operation, whatever it is, can be carried out. It adds a slot iff it is a creation and no
  slot is vacant, one slot in that case, and it never removes one. -/
theorem size_is_fullest (ops : List (TableOp α β)) :
    ∃ outcomes t, (∅ : SlotTable α).run ops = .ok (outcomes, t) ∧ outcomes.length = ops.length ∧
      t.slots.size = t.len + t.vacantSlots + t.retiredSlots ∧ t.len = t.entries.length ∧
      IsGreatest {n | ∃ u, (∅ : SlotTable α).Passes ops u ∧ n = u.len + u.retiredSlots}
        t.slots.size ∧
      (∀ u, (∅ : SlotTable α).Passes ops u → u.slots.size ≤ t.slots.size) ∧
      ∀ op : TableOp α β, ∃ s, t.step op = .ok s ∧ t.slots.size ≤ s.table.slots.size ∧
        s.table.slots.size ≤ t.slots.size + 1 ∧
        (t.slots.size < s.table.slots.size ↔
          (∃ value, op = .create value) ∧ t.vacantSlots = 0) := by
  obtain ⟨outcomes, t, hrun, hlength, hreaches⟩ := run_total (α := α) ops
  have hfree := hreaches.freeList
  obtain ⟨hbound, hattained⟩ := Reaches.empty.size_of_run hrun
  refine ⟨outcomes, t, hrun, hlength, hreaches.size_eq, hreaches.holds.length_entries.symm,
    ⟨?_, ?_⟩, fun u hu => (hbound u hu).1, fun op => ?_⟩
  · rcases hattained with hempty | ⟨u, hu, htaken⟩
    · -- a table that never had a slot was at its fullest when it was empty
      exact ⟨∅, ⟨0, [], rfl⟩, hempty⟩
    · exact ⟨u, hu, htaken.symm⟩
  · rintro n ⟨u, hu, rfl⟩
    exact (hbound u hu).2
  · obtain ⟨s, hstep⟩ := hfree.step_total op
    have hgrowth := (transition_of_step hstep).growth hfree
    refine ⟨s, hstep, hgrowth.size_le, ?_, hgrowth.size_lt_iff⟩
    cases hgrowth with
    | grows creates full size head => exact size.le
    | stays other size => exact size ▸ Nat.le_succ _

end SlotTable

end OwnedHandles
