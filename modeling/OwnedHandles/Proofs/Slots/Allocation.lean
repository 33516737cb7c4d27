import OwnedHandles.Proofs.Since
import OwnedHandles.Proofs.Slots.FreeList
import OwnedHandles.Proofs.Slots.Generations

/-!
# The order of allocation

Which key the next resource gets is told by the history alone: slots are filled again in the reverse
order of their release.

- `VacatedAt history n index`: the `n`-th occurrence released the slot, which has neither been
  filled again nor retired.
- `VacancyOrder`: the stack of `vacancies` holds these slots, the one released last on top. It says
  this of the history, and `FreeList` says of the table that the links spell the same stack.
- `allocation_is_stack`: both together, with the key that each creation yields.
-/

namespace OwnedHandles.SlotTable

variable {α β : Type}

/-- The occurrence hands out a key of the slot. -/
def Fills (index : Nat) (e : Occurrence α β) : Prop :=
  ∃ key, Occurrence.issued? e = some key ∧ key.index = index

/-- The occurrence takes back a key of the slot, which has a generation left. -/
def Empties (index : Nat) (e : Occurrence α β) : Prop :=
  ∃ key, Occurrence.removed? e = some key ∧ key.index = index ∧ key.generation ≠ lastGeneration

/-- The `n`-th occurrence released the slot, which has neither been filled again nor retired. -/
def VacatedAt (history : History α β) (n index : Nat) : Prop :=
  Since (Empties index) (Fills index) history n

/-- The slot was released after all others that have neither been filled again nor retired. -/
def LastVacated (history : History α β) (index : Nat) : Prop :=
  ∃ n, VacatedAt history n index ∧ ∀ m other, VacatedAt history m other → m ≤ n

/-! ## What an occurrence does to the stack -/

theorem freeAfter_of_issued {e : Occurrence α β} {key : Key}
    (h : Occurrence.issued? e = some key) (free : List Nat) :
    freeAfter free e = free.erase key.index := by
  unfold Occurrence.issued? at h
  split at h
  · cases h
    rfl
  · cases h

theorem freeAfter_of_removed {e : Occurrence α β} {key : Key}
    (h : Occurrence.removed? e = some key) (free : List Nat) :
    freeAfter free e =
      if key.generation = lastGeneration then free else key.index :: free := by
  unfold Occurrence.removed? at h
  split at h
  · cases h
    rfl
  · cases h

theorem freeAfter_of_rest {e : Occurrence α β} (hissued : Occurrence.issued? e = none)
    (hremoved : Occurrence.removed? e = none) (free : List Nat) : freeAfter free e = free := by
  unfold freeAfter
  split
  · cases hissued
  · cases hremoved
  · rfl

theorem vacatedAt_concat {history : History α β} {e : Occurrence α β} {n index : Nat} :
    VacatedAt (history ++ [e]) n index ↔
      VacatedAt history n index ∧ ¬Fills index e ∨ n = history.length ∧ Empties index e :=
  since_concat

/-- A stack of slots is ordered by the history: it holds the slots that were released and neither
filled again nor retired, each of them was released at one point, and those above later. -/
structure VacancyOrder (history : History α β) (free : List Nat) : Prop where
  covers : ∀ i, i ∈ free ↔ ∃ n, VacatedAt history n i
  unique : ∀ i n m, VacatedAt history n i → VacatedAt history m i → n = m
  order : free.Pairwise fun i j => ∀ n m, VacatedAt history n i → VacatedAt history m j → m < n

/-- An occurrence that vacates and fills nothing leaves the order as it is. -/
theorem VacancyOrder.rest {history : History α β} {free : List Nat} {e : Occurrence α β}
    (h : VacancyOrder history free) (hfills : ∀ i, ¬Fills i e) (hempties : ∀ i, ¬Empties i e) :
    VacancyOrder (history ++ [e]) free := by
  have hsame : ∀ n i, VacatedAt (history ++ [e]) n i ↔ VacatedAt history n i := by
    intro n i
    rw [vacatedAt_concat]
    simp [hfills i, hempties i]
  exact ⟨by simpa only [hsame] using h.covers, by simpa only [hsame] using h.unique,
    by simpa only [hsame] using h.order⟩

/-- A slot that is filled leaves the stack. -/
theorem VacancyOrder.fill {history : History α β} {free : List Nat} {e : Occurrence α β} {key : Key}
    (h : VacancyOrder history free) (hnodup : free.Nodup)
    (hissued : Occurrence.issued? e = some key) (hremoved : Occurrence.removed? e = none) :
    VacancyOrder (history ++ [e]) (free.erase key.index) := by
  have hsame : ∀ n i, VacatedAt (history ++ [e]) n i ↔ VacatedAt history n i ∧ i ≠ key.index := by
    intro n i
    rw [vacatedAt_concat]
    simp [Fills, Empties, hissued, hremoved, eq_comm]
  refine ⟨?_, ?_, ?_⟩
  · intro i
    rw [hnodup.mem_erase_iff, h.covers i]
    simp only [hsame]
    constructor
    · rintro ⟨hne, n, hn⟩
      exact ⟨n, hn, hne⟩
    · rintro ⟨n, hn, hne⟩
      exact ⟨hne, n, hn⟩
  · intro i n m hn hm
    exact h.unique i n m ((hsame n i).mp hn).1 ((hsame m i).mp hm).1
  · refine (h.order.sublist List.erase_sublist).imp ?_
    intro i j hij n m hn hm
    exact hij n m ((hsame n _).mp hn).1 ((hsame m _).mp hm).1

/-- A slot that falls vacant comes on top of the stack, since it is released last. -/
theorem VacancyOrder.empty {history : History α β} {free : List Nat} {e : Occurrence α β}
    {key : Key} (h : VacancyOrder history free) (hmem : key.index ∉ free)
    (hissued : Occurrence.issued? e = none) (hremoved : Occurrence.removed? e = some key)
    (hlast : key.generation ≠ lastGeneration) :
    VacancyOrder (history ++ [e]) (key.index :: free) := by
  have hsame : ∀ n i, VacatedAt (history ++ [e]) n i ↔
      VacatedAt history n i ∨ n = history.length ∧ i = key.index := by
    intro n i
    have hfills : ¬Fills i e := by simp [Fills, hissued]
    have hempties : Empties i e ↔ key.index = i := by simp [Empties, hremoved, hlast]
    rw [vacatedAt_concat, hempties, eq_comm (a := key.index)]
    exact or_congr_left (and_iff_left hfills)
  have hnever : ∀ n, ¬VacatedAt history n key.index := fun n hn => hmem ((h.covers _).mpr ⟨n, hn⟩)
  -- the slots that were on the stack before were released where they were
  have hold : ∀ n i, i ∈ free → VacatedAt (history ++ [e]) n i → VacatedAt history n i := by
    intro n i hi hn
    refine ((hsame n i).mp hn).resolve_right fun htop => ?_
    exact hmem (htop.2 ▸ hi)
  have htop : ∀ n, VacatedAt (history ++ [e]) n key.index → n = history.length := fun n hn =>
    (((hsame n _).mp hn).resolve_left (hnever n)).1
  refine ⟨?_, ?_, List.pairwise_cons.mpr ⟨?_, ?_⟩⟩
  · intro i
    rw [List.mem_cons, h.covers i]
    simp only [hsame]
    constructor
    · rintro (rfl | ⟨n, hn⟩)
      · exact ⟨_, .inr ⟨rfl, rfl⟩⟩
      · exact ⟨n, .inl hn⟩
    · rintro ⟨n, hn | ⟨-, rfl⟩⟩
      · exact .inr ⟨n, hn⟩
      · exact .inl rfl
  · intro i n m hn hm
    by_cases hi : i = key.index
    · subst hi
      rw [htop n hn, htop m hm]
    · have hne : ∀ k, VacatedAt (history ++ [e]) k i → VacatedAt history k i := fun k hk =>
        ((hsame k i).mp hk).resolve_right fun hor => hi hor.2
      exact h.unique i n m (hne n hn) (hne m hm)
  · intro j hj n m hn hm
    rw [htop n hn]
    exact (hold m j hj hm).lt_length
  · refine h.order.imp_of_mem ?_
    intro i j hi hj hij n m hn hm
    exact hij n m (hold n _ hi hn) (hold m _ hj hm)

variable [HandleKind α] {t t' : SlotTable α} {history : History α β}

/-- **The free list is in the order of release**, the slot released last in front. -/
theorem Reaches.vacancyOrder (h : Reaches history t) :
    VacancyOrder history (vacancies history) := by
  induction h with
  | empty =>
    refine ⟨?_, ?_, List.Pairwise.nil⟩
    · intro i
      exact iff_of_false List.not_mem_nil fun ⟨n, hn⟩ => not_since_nil hn
    · intro i n m hn
      exact absurd hn not_since_nil
  | @next history t t' op outcome before transition ih =>
    have hnodup := (before.next transition).freeList.nodup
    rw [vacancies_concat] at hnodup ⊢
    cases transition.generationStep with
    | issue issued removed fresh issuedAt releasedAt =>
      rw [freeAfter_of_issued issued]
      exact ih.fill before.freeList.nodup issued removed
    | @release key issued removed oldest live issuedAt releasedAt =>
      rw [freeAfter_of_removed removed] at hnodup ⊢
      by_cases hlast : key.generation = lastGeneration
      · rw [if_pos hlast]
        exact ih.rest (by simp [Fills, issued]) (by simp [Empties, removed, hlast])
      · rw [if_neg hlast] at hnodup ⊢
        exact ih.empty (List.nodup_cons.mp hnodup).1 issued removed hlast
    | rest issued removed issuedAt releasedAt =>
      rw [freeAfter_of_rest issued removed]
      exact ih.rest (by simp [Fills, issued]) (by simp [Empties, removed])

omit [HandleKind α] in
/-- The slot on top of the stack is the one released last. -/
theorem VacancyOrder.lastVacated {index : Nat} {rest : List Nat}
    (h : VacancyOrder history (index :: rest)) : LastVacated history index := by
  obtain ⟨n, hn⟩ := (h.covers index).mp List.mem_cons_self
  refine ⟨n, hn, fun m other hm => ?_⟩
  rcases List.mem_cons.mp ((h.covers other).mpr ⟨m, hm⟩) with rfl | hother
  · exact Nat.le_of_eq (h.unique _ m n hm hn)
  · exact Nat.le_of_lt ((List.pairwise_cons.mp h.order).1 other hother n m hn hm)

/-- **A creation takes the slot released last**, under the generation that its releases have
counted, or a new slot if none is vacant. -/
theorem Reaches.create_eq (h : Reaches history t) (value : α) :
    ∃ key t', t.create value = .ok (key, t') ∧
      (LastVacated history key.index ∧ key.generation.toNat = releases history key.index ∨
        key = ⟨t.slots.size, 0⟩) ∧
      (key = ⟨t.slots.size, 0⟩ ↔ ∀ n i, ¬VacatedAt history n i) := by
  have horder := h.vacancyOrder
  have hchain := h.freeList.chain
  cases hhead : t.freeHead with
  | none =>
    rw [hhead] at hchain
    rw [hchain.of_none] at horder
    refine ⟨_, _, by rw [create, hhead], .inr rfl, iff_of_true rfl fun n i hi => ?_⟩
    exact List.not_mem_nil ((horder.covers i).mpr ⟨n, hi⟩)
  | some index =>
    rw [hhead] at hchain
    obtain ⟨generation, next, rest, slot, hfree, -⟩ := hchain.of_some
    rw [hfree] at horder
    have hcreate : t.create value = .ok (⟨index, generation⟩,
        ⟨t.slots.setIfInBounds index (.occupied generation value), next, t.len + 1⟩) := by
      rw [create, hhead]
      simp only [slot]
    refine ⟨⟨index, generation⟩, _, hcreate, .inl ⟨horder.lastVacated, ?_⟩,
      iff_of_false (fun heq => ?_) fun hnone => ?_⟩
    · rw [← h.releasedAt_eq, releasedAt, countAt_eq slot]
      rfl
    · have hlt : index < t.slots.size := (Array.getElem?_eq_some_iff.mp slot).1
      exact Nat.ne_of_lt hlt (congrArg Key.index heq)
    · obtain ⟨n, hn, -⟩ := horder.lastVacated
      exact hnone n index hn

/-- **Keys are allocated as from a stack.** After every sequence of operations on the empty table,
the links lead from the first vacant slot through each vacant slot once and through no other, in the
order of their release, the last one first. No operation finds a contradiction in the table, and a
creation yields the slot released last with the number of its releases as generation; it yields a
new slot with generation zero exactly if no slot is left that was released and neither filled again
nor retired. -/
theorem allocation_is_stack (ops : List (TableOp α β)) :
    ∃ outcomes t, (∅ : SlotTable α).run ops = .ok (outcomes, t) ∧ outcomes.length = ops.length ∧
      (∃ free, Chain t.slots t.freeHead free ∧ free.Nodup ∧
        (∀ i, i ∈ free ↔ IsVacant t.slots i) ∧
        (∀ i, i ∈ free ↔ ∃ n, VacatedAt (ops.zip outcomes) n i) ∧
        free.Pairwise fun i j => ∀ n m,
          VacatedAt (ops.zip outcomes) n i → VacatedAt (ops.zip outcomes) m j → m < n) ∧
      (∀ (op : TableOp α β) defect, t.step op ≠ .error defect) ∧
      ∀ value, ∃ key t', t.create value = .ok (key, t') ∧
        (LastVacated (ops.zip outcomes) key.index ∧
            key.generation.toNat = releases (ops.zip outcomes) key.index ∨
          key = ⟨t.slots.size, 0⟩) ∧
        (key = ⟨t.slots.size, 0⟩ ↔ ∀ n i, ¬VacatedAt (ops.zip outcomes) n i) := by
  obtain ⟨outcomes, t, hrun, hlength, hreaches⟩ := run_total (α := α) ops
  have hfree := hreaches.freeList
  have horder := hreaches.vacancyOrder
  refine ⟨outcomes, t, hrun, hlength, ⟨_, hfree.chain, hfree.nodup, hfree.covers, horder.covers,
    horder.order⟩, fun op defect herror => ?_, hreaches.create_eq⟩
  obtain ⟨s, hstep⟩ := hfree.step_total op
  rw [herror] at hstep
  cases hstep

end OwnedHandles.SlotTable
