import OwnedHandles.Proofs.Slots.Transition

/-!
# The free list

The vacant slots of a table form a list that is threaded through the slots themselves. The list as
data is `vacancies history`: what a plain stack of slot numbers would hold after the same history.

- `Chain slots head free`: following the links from `head` leads through `free` and ends.
- `FreeList t free`: the chain of a table, which holds each vacant slot once and no other slot.
- `FreeList.transition`: every operation keeps it. `FreeList.step_total`: no operation runs into a
  contradiction, so that `run_total` gives every sequence of operations its outcomes.
-/

namespace OwnedHandles.SlotTable

variable {α β : Type}

/-! ## Vacant slots -/

/-- The slot is vacant. -/
def IsVacant (slots : Array (Slot α)) (index : Nat) : Prop :=
  ∃ generation next, slots[index]? = some (.vacant generation next)

theorem not_isVacant_of_occupied {slots : Array (Slot α)} {index : Nat} {generation : UInt32}
    {value : α} (h : slots[index]? = some (.occupied generation value)) :
    ¬IsVacant slots index := by
  rintro ⟨g, next, hg⟩
  rw [h] at hg
  cases hg

/-- Changing a slot leaves the vacancy of all others alone. -/
theorem isVacant_set_of_ne {slots : Array (Slot α)} {index : Nat} {old : Slot α}
    (h : slots[index]? = some old) (new : Slot α) {i : Nat} (hne : i ≠ index) :
    IsVacant (slots.setIfInBounds index new) i ↔ IsVacant slots i := by
  unfold IsVacant
  rw [getElem?_set h, if_neg hne]

/-! ## The chain of links -/

/-- The slots that the links lead through, from a first one on. Each of them is vacant, and the last
one has no link. -/
inductive Chain (slots : Array (Slot α)) : Option Nat → List Nat → Prop
  | nil : Chain slots none []
  | cons {index : Nat} {generation : UInt32} {next : Option Nat} {rest : List Nat}
      (slot : slots[index]? = some (.vacant generation next)) (tail : Chain slots next rest) :
      Chain slots (some index) (index :: rest)

/-- A chain only depends on the slots that it leads through. -/
theorem Chain.frame {slots slots' : Array (Slot α)} {head : Option Nat} {free : List Nat}
    (h : Chain slots head free) (agree : ∀ i ∈ free, slots'[i]? = slots[i]?) :
    Chain slots' head free := by
  induction h with
  | nil => exact .nil
  | cons slot tail ih =>
    refine .cons ((agree _ List.mem_cons_self).trans slot) (ih fun i hi => ?_)
    exact agree i (List.mem_cons_of_mem _ hi)

/-- A change outside the chain leaves it alone. -/
theorem Chain.set {slots : Array (Slot α)} {head : Option Nat} {free : List Nat}
    (h : Chain slots head free) {index : Nat} {old : Slot α} (hold : slots[index]? = some old)
    (hmem : index ∉ free) (new : Slot α) : Chain (slots.setIfInBounds index new) head free := by
  refine h.frame fun i hi => ?_
  have hne : i ≠ index := fun heq => hmem (heq ▸ hi)
  rw [getElem?_set hold, if_neg hne]

/-- A first slot comes with its link and the rest of the chain. -/
theorem Chain.of_some {slots : Array (Slot α)} {index : Nat} {free : List Nat}
    (h : Chain slots (some index) free) :
    ∃ generation next rest, slots[index]? = some (.vacant generation next) ∧
      free = index :: rest ∧ Chain slots next rest := by
  cases h with
  | cons slot tail => exact ⟨_, _, _, slot, rfl, tail⟩

/-- Without a first slot there is no slot at all. -/
theorem Chain.of_none {slots : Array (Slot α)} {free : List Nat} (h : Chain slots none free) :
    free = [] := by
  cases h
  rfl

/-! ## The list of all vacant slots -/

/-- The chain of a table is the list of its vacant slots, each once. -/
structure FreeList (t : SlotTable α) (free : List Nat) : Prop where
  chain : Chain t.slots t.freeHead free
  nodup : free.Nodup
  covers : ∀ i, i ∈ free ↔ IsVacant t.slots i

/-- A stack of slot numbers after an occurrence: a slot that is filled leaves it, and one that falls
vacant comes on top. A slot that is retired does not. -/
def freeAfter (free : List Nat) : Occurrence α β → List Nat
  | (.create _, .issued key) => free.erase key.index
  | (.release key, .removed _) =>
    if key.generation = lastGeneration then free else key.index :: free
  | _ => free

/-- The vacant slots after a history, the one released last in front. -/
def vacancies (history : History α β) : List Nat :=
  history.foldl freeAfter []

@[simp] theorem vacancies_concat (history : History α β) (e : Occurrence α β) :
    vacancies (history ++ [e]) = freeAfter (vacancies history) e := by
  simp [vacancies]

theorem freeList_empty : FreeList (∅ : SlotTable α) [] where
  chain := .nil
  nodup := List.nodup_nil
  covers i := by
    constructor
    · intro hi
      cases hi
    · rintro ⟨generation, next, h⟩
      change (#[] : Array (Slot α))[i]? = _ at h
      simp at h

variable {t t' : SlotTable α} {free : List Nat}

theorem FreeList.refilled (h : FreeList t free) {index : Nat} {generation : UInt32}
    {next : Option Nat} (head : t.freeHead = some index)
    (slot : t.slots[index]? = some (.vacant generation next)) (value : α) :
    FreeList ⟨t.slots.setIfInBounds index (.occupied generation value), next, t.len + 1⟩
      (free.erase index) := by
  have hchain := h.chain
  rw [head] at hchain
  obtain ⟨generation', next', rest, slot', rfl, tail⟩ := hchain.of_some
  obtain ⟨rfl, rfl⟩ : generation' = generation ∧ next' = next := by simpa [slot] using slot'.symm
  obtain ⟨hmem, hnodup⟩ := List.nodup_cons.mp h.nodup
  -- the slot is the first one of the chain, and the rest does not lead through it
  rw [List.erase_cons_head]
  refine ⟨tail.set slot hmem _, hnodup, fun i => ?_⟩
  by_cases hi : i = index
  · subst hi
    have hfilled := getElem?_set slot (.occupied generation' value) i
    rw [if_pos rfl] at hfilled
    exact iff_of_false hmem (not_isVacant_of_occupied hfilled)
  · rw [isVacant_set_of_ne slot _ hi, ← h.covers i, List.mem_cons]
    exact ⟨.inr, fun hor => hor.resolve_left hi⟩

theorem FreeList.appended (h : FreeList t free) (head : t.freeHead = none) (value : α) :
    FreeList ⟨t.slots.push (.occupied 0 value), none, t.len + 1⟩ (free.erase t.slots.size) := by
  have hchain := h.chain
  rw [head] at hchain
  obtain rfl := hchain.of_none
  -- no slot was vacant, and the new one is occupied
  refine ⟨.nil, List.nodup_nil, fun i => iff_of_false List.not_mem_nil ?_⟩
  rintro ⟨generation, next, hi⟩
  change (t.slots.push (.occupied 0 value))[i]? = _ at hi
  rw [Array.getElem?_push] at hi
  split at hi
  · cases hi
  · exact List.not_mem_nil ((h.covers i).mpr ⟨generation, next, hi⟩)

/-- Changing what an occupied slot holds keeps the list, as long as it stays occupied or is
retired. -/
theorem FreeList.replaced (h : FreeList t free) {index : Nat} {generation : UInt32} {value : α}
    (slot : t.slots[index]? = some (.occupied generation value)) {new : Slot α}
    (hnew : ∀ g next, new ≠ .vacant g next) (len : Nat) :
    FreeList ⟨t.slots.setIfInBounds index new, t.freeHead, len⟩ free := by
  have hmem : index ∉ free := fun hi => not_isVacant_of_occupied slot ((h.covers index).mp hi)
  refine ⟨h.chain.set slot hmem _, h.nodup, fun i => ?_⟩
  by_cases hi : i = index
  · subst hi
    refine iff_of_false hmem ?_
    rintro ⟨g, next, hg⟩
    rw [getElem?_set slot, if_pos rfl] at hg
    exact hnew g next (Option.some.inj hg)
  · rw [isVacant_set_of_ne slot _ hi]
    exact h.covers i

theorem FreeList.recycled (h : FreeList t free) {index : Nat} {generation next : UInt32} {value : α}
    (slot : t.slots[index]? = some (.occupied generation value)) :
    FreeList ⟨t.slots.setIfInBounds index (.vacant next t.freeHead), some index, t.len - 1⟩
      (index :: free) := by
  -- an occupied slot is on no chain, so that linking it in front makes no cycle
  have hmem : index ∉ free := fun hi => not_isVacant_of_occupied slot ((h.covers index).mp hi)
  have hemptied := getElem?_set slot (.vacant next t.freeHead) index
  rw [if_pos rfl] at hemptied
  refine ⟨.cons hemptied (h.chain.set slot hmem _), List.nodup_cons.mpr ⟨hmem, h.nodup⟩,
    fun i => ?_⟩
  by_cases hi : i = index
  · subst hi
    exact iff_of_true List.mem_cons_self ⟨next, t.freeHead, hemptied⟩
  · rw [isVacant_set_of_ne slot _ hi, List.mem_cons, ← h.covers i]
    exact ⟨fun hor => hor.resolve_left hi, .inr⟩

variable [HandleKind α]

/-- **Every operation keeps the free list**, and moves it as it moves a stack. -/
theorem FreeList.transition (h : FreeList t free) {op : TableOp α β} {outcome : TableOutcome α β}
    (hstep : Transition t op outcome t') : FreeList t' (freeAfter free (op, outcome)) := by
  cases hstep with
  | refilled value head slot => exact h.refilled head slot value
  | appended value head => exact h.appended head value
  | looked slot => exact h
  | changed operation slot => exact h.replaced slot (by simp) t.len
  | recycled slot generation =>
    rw [freeAfter, if_neg fun hlast => by simp [nextGeneration_eq_none_iff.mpr hlast] at generation]
    exact h.recycled slot
  | retired slot generation =>
    rw [freeAfter, if_pos (nextGeneration_eq_none_iff.mp generation)]
    exact h.replaced slot (by simp) _
  | refused about invalid => cases ‹TableOp α β› <;> exact h

/-- A reachable table has the free list that its history gives a stack. -/
theorem Reaches.freeList {history : History α β} (h : Reaches history t) :
    FreeList t (vacancies history) := by
  induction h with
  | empty => exact freeList_empty
  | next before transition ih =>
    rw [vacancies_concat]
    exact ih.transition transition

/-! ## No contradiction -/

omit [HandleKind α] in
/-- With a free list there is always a slot to fill. -/
theorem FreeList.create_total (h : FreeList t free) (value : α) :
    ∃ key t', t.create value = .ok (key, t') := by
  unfold create
  cases hhead : t.freeHead with
  | none => exact ⟨_, _, rfl⟩
  | some index =>
    have hchain := h.chain
    rw [hhead] at hchain
    obtain ⟨generation, next, rest, slot, -, -⟩ := hchain.of_some
    simp only [slot]
    exact ⟨_, _, rfl⟩

/-- **No operation runs into a contradiction.** -/
theorem FreeList.step_total (h : FreeList t free) (op : TableOp α β) : ∃ s, t.step op = .ok s := by
  cases op with
  | create value =>
    obtain ⟨key, t', hcreate⟩ := h.create_total value
    exact ⟨_, by rw [step, hcreate]⟩
  | read key =>
    cases hread : t.read key with
    | ok value => exact ⟨_, by rw [step, hread]⟩
    | error e => exact ⟨_, by rw [step, hread]⟩
  | mutate key operation =>
    cases hmutate : t.mutate key operation with
    | ok changed => exact ⟨_, by rw [step, hmutate]⟩
    | error e => exact ⟨_, by rw [step, hmutate]⟩
  | release key =>
    cases hrelease : t.release key with
    | ok removal => exact ⟨_, by rw [step, hrelease]⟩
    | error e =>
      obtain ⟨-, rfl⟩ := release_eq_error hrelease
      exact ⟨_, by rw [step, hrelease]⟩

/-- Any operations can be carried out, one outcome for each. -/
theorem FreeList.run_total (h : FreeList t free) (ops : List (TableOp α β)) :
    ∃ outcomes last, t.run ops = .ok (outcomes, last) ∧ outcomes.length = ops.length := by
  induction ops generalizing t free with
  | nil => exact ⟨[], t, rfl, rfl⟩
  | cons op rest ih =>
    obtain ⟨s, hstep⟩ := h.step_total op
    obtain ⟨outcomes, last, hrest, hlength⟩ := ih (h.transition (transition_of_step hstep))
    refine ⟨s.outcome :: outcomes, last, ?_, by simp [hlength]⟩
    rw [run, hstep]
    simp only [hrest]

/-- **Every sequence of operations on the empty table has its outcomes**, and the table that it ends
with is reached by them. -/
theorem run_total (ops : List (TableOp α β)) :
    ∃ outcomes last, (∅ : SlotTable α).run ops = .ok (outcomes, last) ∧
      outcomes.length = ops.length ∧ Reaches (ops.zip outcomes) last := by
  obtain ⟨outcomes, last, hrun, hlength⟩ := freeList_empty.run_total ops
  exact ⟨outcomes, last, hrun, hlength, reaches_of_run hrun⟩

end OwnedHandles.SlotTable
