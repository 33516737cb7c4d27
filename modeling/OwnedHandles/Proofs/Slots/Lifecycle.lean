import OwnedHandles.Proofs.Since
import OwnedHandles.Proofs.Slots.FreeList
import OwnedHandles.Proofs.Slots.Generations

/-!
# The life of a key

What a table says of a key is what has happened to the key.

- `Live history key`: the key was issued, and has not been released since.
- `Spent history key`: the key was issued and released after that.
- `state_iff_history`: in every run from the empty table, these two tell the verdict of the table.
  No key is issued twice, and a released key stays released whatever is done next.

The induction is over the history from its end: `since_concat` and `spent_concat` say what the last
occurrence adds, and `GenerationStep` what it does to the table.
-/

namespace OwnedHandles.SlotTable

variable {α β : Type}

/-- The key was issued, and has not been released since. -/
def Live (history : History α β) (key : Key) : Prop :=
  ∃ n, Since (Occurrence.issued? · = some key) (Occurrence.removed? · = some key) history n

/-- The key was issued and later released. -/
def Spent (history : History α β) (key : Key) : Prop :=
  ∃ (n m : Nat) (issue release : Occurrence α β), n < m ∧
    history[n]? = some issue ∧ Occurrence.issued? issue = some key ∧
    history[m]? = some release ∧ Occurrence.removed? release = some key

theorem live_concat {history : History α β} {e : Occurrence α β} {key : Key} :
    Live (history ++ [e]) key ↔
      Live history key ∧ Occurrence.removed? e ≠ some key ∨ Occurrence.issued? e = some key :=
  exists_since_concat

theorem spent_concat {history : History α β} {e : Occurrence α β} {key : Key} :
    Spent (history ++ [e]) key ↔
      Spent history key ∨ key ∈ issuedKeys history ∧ Occurrence.removed? e = some key := by
  constructor
  · rintro ⟨n, m, issue, release, hnm, hn, hissued, hm, hremoved⟩
    have hlt := (List.getElem?_eq_some_iff.mp hm).1
    rw [List.length_append, List.length_singleton] at hlt
    -- the issue lies before the release, so it is not the last occurrence
    have hold : history[n]? = some issue :=
      (getElem?_concat_iff.mp hn).resolve_right fun h => by omega
    rcases getElem?_concat_iff.mp hm with hm | ⟨rfl, rfl⟩
    · exact .inl ⟨n, m, issue, release, hnm, hold, hissued, hm, hremoved⟩
    · exact .inr ⟨List.mem_filterMap.mpr ⟨issue, List.mem_of_getElem? hold, hissued⟩, hremoved⟩
  · rintro (⟨n, m, issue, release, hnm, hn, hissued, hm, hremoved⟩ | ⟨hmem, hremoved⟩)
    · exact ⟨n, m, issue, release, hnm, getElem?_concat_iff.mpr (.inl hn), hissued,
        getElem?_concat_iff.mpr (.inl hm), hremoved⟩
    · obtain ⟨issue, hissue, hissued⟩ := List.mem_filterMap.mp hmem
      obtain ⟨n, hn⟩ := List.mem_iff_getElem?.mp hissue
      have hlt := (List.getElem?_eq_some_iff.mp hn).1
      exact ⟨n, history.length, issue, e, hlt, getElem?_concat_iff.mpr (.inl hn), hissued,
        getElem?_concat_iff.mpr (.inr ⟨rfl, rfl⟩), hremoved⟩

variable [HandleKind α] {t : SlotTable α} {history : History α β}

/-- The live keys of a slot are those between its two numbers. -/
theorem Reaches.live_iff (h : Reaches history t) (key : Key) :
    Live history key ↔
      t.releasedAt key.index ≤ key.generation.toNat ∧
        key.generation.toNat < t.issuedAt key.index := by
  induction h with
  | empty => simp [Live, not_since_nil]
  | @next history t t' op outcome before transition ih =>
    have hle := t.releasedAt_le_issuedAt key.index
    rw [live_concat, ih]
    cases transition.generationStep with
    | @issue issue issued removed fresh issuedAt releasedAt =>
      -- the first number moves past the new key
      rw [issued, removed, issuedAt, releasedAt, lt_ite_succ_iff key fresh]
      grind
    | @release release issued removed oldest live issuedAt releasedAt =>
      -- the second number moves past the oldest live key
      rw [issued, removed, issuedAt, releasedAt]
      have hnot := lt_ite_succ_iff key oldest
      grind
    | rest issued removed issuedAt releasedAt =>
      rw [issued, removed, issuedAt, releasedAt]
      simp

/-- The spent keys of a slot are those below its number of releases. -/
theorem Reaches.spent_iff (h : Reaches history t) (key : Key) :
    Spent history key ↔ key.generation.toNat < t.releasedAt key.index := by
  induction h with
  | empty => simp [Spent]
  | next before transition ih =>
    rw [spent_concat, ih, before.mem_issuedKeys_iff]
    cases transition.generationStep with
    | issue issued removed fresh issuedAt releasedAt =>
      rw [removed, releasedAt]
      simp
    | @release release issued removed oldest live issuedAt releasedAt =>
      rw [removed, releasedAt, lt_ite_succ_iff key oldest]
      grind
    | rest issued removed issuedAt releasedAt =>
      rw [removed, releasedAt]
      simp

/-- **A released key stays released**, whatever is done next. -/
theorem state_released_of_run {last : SlotTable α} {ops : List (TableOp α β)}
    {outcomes : List (TableOutcome α β)} {key : Key} (hrun : t.run ops = .ok (outcomes, last))
    (hreleased : t.state key = .released) : last.state key = .released := by
  induction ops generalizing t outcomes with
  | nil =>
    cases hrun
    exact hreleased
  | cons op rest ih =>
    obtain ⟨s, later, hstep, hrest, rfl⟩ := run_cons_eq_ok_iff.mp hrun
    refine ih hrest ?_
    rw [state_eq_released_iff] at hreleased ⊢
    exact Nat.lt_of_lt_of_le hreleased ((transition_of_step hstep).releasedAt_le key.index)

/-- **The life of a key is its history.** Every sequence of operations on the empty table has one
outcome each, and at its end the table calls a key valid iff it was issued and has not been released
since, released iff it was released after it was issued, and uninitialized iff it was never issued.
No key is issued twice, and a released key is never valid again. -/
theorem state_iff_history (ops : List (TableOp α β)) :
    ∃ outcomes t, (∅ : SlotTable α).run ops = .ok (outcomes, t) ∧ outcomes.length = ops.length ∧
      (∀ key, t.state key = .valid ↔ Live (ops.zip outcomes) key) ∧
      (∀ key, t.state key = .released ↔ Spent (ops.zip outcomes) key) ∧
      (∀ key, t.state key = .uninitialized ↔ key ∉ issuedKeys (ops.zip outcomes)) ∧
      (issuedKeys (ops.zip outcomes)).Nodup ∧
      ∀ (next : List (TableOp α β)) outcomes' last key, t.run next = .ok (outcomes', last) →
        t.state key = .released → last.state key = .released := by
  obtain ⟨outcomes, t, hrun, hlength, hreaches⟩ := run_total (α := α) ops
  refine ⟨outcomes, t, hrun, hlength, ?_, ?_, ?_, hreaches.nodup_issuedKeys, ?_⟩
  · intro key
    rw [state_eq_valid_iff, hreaches.live_iff]
  · intro key
    rw [state_eq_released_iff, hreaches.spent_iff]
  · intro key
    rw [state_eq_uninitialized_iff, hreaches.mem_issuedKeys_iff, Nat.not_lt]
  · intro next outcomes' last key hnext hreleased
    exact state_released_of_run hnext hreleased

end OwnedHandles.SlotTable
