import OwnedHandles.Proofs.Slots.Contents

/-!
# Lookups agree

A table decides in four places whether a key is valid: where its state is told, and where it is
read, mutated or released. All four come to the same verdict, and where it is against the key,
nothing has happened.

- `state_of_refusal`: the refusal of a key that is not valid tells its state.
- `releaseInPlace`, `mutateInPlace`: release and mutation as programs that work on the table step by
  step, so that a failure finds the table as the steps before it have left it.
  `run_releaseInPlace` and `run_mutateInPlace` say that they come to the same as `release` and
  `mutate`, which compute a new table.
- `lookups_agree`: verdict, refusal and failure for every table and every key.
-/

namespace OwnedHandles.SlotTable

variable {α β σ : Type}

/-! ## The verdict -/

theorem state_eq_valid_iff_isValid (t : SlotTable α) (key : Key) :
    t.state key = .valid ↔ (t.state key).isValid :=
  beq_iff_eq.symm

variable [HandleKind α] {t : SlotTable α} {key : Key}

/-- The verdict of a lookup is the state of the key. -/
theorem exists_read_iff (t : SlotTable α) (key : Key) :
    (∃ v, t.read key = .ok v) ↔ t.state key = .valid := by
  rw [state_eq_valid_iff_isValid, isValid_state_iff]
  exact exists_congr (read_eq_ok_iff t key)

/-- A refusal is of the key that was asked for. -/
theorem key_refusal (t : SlotTable α) (key : Key) : (t.refusal key).key = key := by
  unfold refusal
  split <;> rfl

/-- A refusal is of the kind of the table. -/
theorem kind_refusal (t : SlotTable α) (key : Key) : (t.refusal key).kind = kindName α := by
  unfold refusal
  split <;> rfl

/-- **A refusal tells the state of its key**, unless the key is valid. -/
theorem state_of_refusal (h : t.state key ≠ .valid) : (t.refusal key).state = t.state key := by
  unfold refusal
  cases hstate : t.state key with
  | uninitialized => rfl
  | valid => exact absurd hstate h
  | released => rfl

/-- There are two refusals of a key, told apart by the state. -/
theorem refusal_eq_released_iff (t : SlotTable α) (key : Key) :
    t.refusal key = .released (kindName α) key ↔ t.state key = .released := by
  unfold refusal
  cases t.state key <;> simp

theorem refusal_eq_unknown_iff (h : t.state key ≠ .valid) :
    t.refusal key = .unknown (kindName α) key ↔ t.state key = .uninitialized := by
  unfold refusal
  cases hstate : t.state key with
  | uninitialized => simp
  | valid => exact absurd hstate h
  | released => simp

/-! ## The refusal of each lookup -/

theorem read_of_invalid (h : t.state key ≠ .valid) : t.read key = .error (t.refusal key) := by
  rw [read_eq_error_iff]
  exact ⟨mt (state_eq_valid_iff_isValid t key).mpr h, rfl⟩

theorem release_of_invalid (h : t.state key ≠ .valid) :
    t.release key = .error (.refused (t.refusal key)) := by
  unfold release
  exact if_neg (mt (state_eq_valid_iff_isValid t key).mpr h)

theorem mutate_of_invalid (h : t.state key ≠ .valid) (operation : α → β × α) :
    t.mutate key operation = .error (t.refusal key) := by
  cases hmutate : t.mutate key operation with
  | error e =>
    obtain ⟨-, rfl⟩ := mutate_eq_error hmutate
    rfl
  | ok changed =>
    obtain ⟨v, hread, -⟩ := (mutate_eq_ok_iff t key operation changed.1).mp ⟨_, hmutate⟩
    exact absurd ((exists_read_iff t key).mp ⟨v, hread⟩) h

/-- An operation on a key that is not valid is refused, and changes and reports nothing. -/
theorem step_of_invalid (h : t.state key ≠ .valid) {op : TableOp α β} (about : op.key? = some key) :
    t.step op = .ok ⟨.refused (t.refusal key), t, []⟩ := by
  cases op with
  | create value => cases about
  | read k =>
    obtain rfl := Option.some.inj about
    rw [step, read_of_invalid h]
  | mutate k operation =>
    obtain rfl := Option.some.inj about
    rw [step, mutate_of_invalid h]
  | release k =>
    obtain rfl := Option.some.inj about
    rw [step, release_of_invalid h]

/-! ## Working in place -/

/-- Releases a key in place, and adds to a log. The slot has been replaced by the time that it shows
what it held, and list and count follow after that. -/
def releaseInPlace (key : Key) : EStateM ReleaseError (SlotTable α × List Event) α := do
  let t := (← get).1
  if !(t.state key).isValid then
    throw (.refused (t.refusal key))
  let next := nextGeneration key.generation
  let successor := next.elim .retired fun generation => .vacant generation t.freeHead
  modify fun s => ({ s.1 with slots := s.1.slots.setIfInBounds key.index successor }, s.2)
  match t.slots[key.index]? with
  | some (.occupied _ value) =>
    if next.isSome then
      modify fun s => ({ s.1 with freeHead := some key.index }, s.2)
    else
      modify fun s => (s.1, s.2 ++ [.slotRetired (kindName α) key.index])
    modify fun s => ({ s.1 with len := s.1.len - 1 }, s.2)
    return value
  | _ => throw (.defect .validSlotEmpty)

/-- Mutates a resource in place. The operation may do something to its surroundings besides changing
the resource. The refusal is made out beforehand. -/
def mutateInPlace (key : Key) (operation : α → σ → (β × α) × σ) :
    EStateM KeyError (SlotTable α × σ) β := do
  let t := (← get).1
  let e := t.refusal key
  match t.slots[key.index]? with
  | some (.occupied generation value) =>
    if generation = key.generation then
      let ((result, changed), surroundings) := operation value (← get).2
      let new := Slot.occupied generation changed
      set ({ t with slots := t.slots.setIfInBounds key.index new }, surroundings)
      return result
    else
      throw e
  | _ => throw e

/-- **A release in place comes to what a release computes.** When it fails, the table and the log
are as they were. -/
theorem run_releaseInPlace (t : SlotTable α) (key : Key) (log : List Event) :
    (releaseInPlace key).run (t, log) =
      match t.release key with
      | .ok removal => .ok removal.value (removal.table, log ++ removal.events)
      | .error e => .error e (t, log) := by
  by_cases hvalid : (t.state key).isValid
  · -- the slot of a valid key is occupied, so that the last branch is not taken
    obtain ⟨value, hslot⟩ := (isValid_state_iff t key).mp hvalid
    cases hnext : nextGeneration key.generation with
    | some generation =>
      simp only [releaseInPlace, release, EStateM.run_bind, EStateM.run_get, hvalid, hslot, hnext,
        if_true, List.append_nil]
      rfl
    | none =>
      simp only [releaseInPlace, release, EStateM.run_bind, EStateM.run_get, hvalid, hslot, hnext,
        if_true]
      rfl
  · rw [release, if_neg hvalid]
    simp only [releaseInPlace, EStateM.run_bind, EStateM.run_get, hvalid]
    rfl

/-- **A mutation in place comes to what a mutation computes.** When it fails, the table is as it
was, and so are the surroundings of the operation. -/
theorem run_mutateInPlace (t : SlotTable α) (key : Key) (operation : α → σ → (β × α) × σ)
    (surroundings : σ) :
    (mutateInPlace key operation).run (t, surroundings) =
      match t.mutate key fun value =>
        let ((result, changed), after) := operation value surroundings
        ((result, after), changed) with
      | .ok ((result, after), t') => .ok result (t', after)
      | .error e => .error e (t, surroundings) := by
  unfold mutate
  rcases hslot : t.slots[key.index]? with _ | ⟨generation, value⟩ | ⟨generation, next⟩ | _
  · simp only [mutateInPlace, EStateM.run_bind, EStateM.run_get, hslot]
    rfl
  · by_cases hg : generation = key.generation
    · simp only [mutateInPlace, EStateM.run_bind, EStateM.run_get, hslot, hg, if_true]
      rfl
    · simp only [mutateInPlace, EStateM.run_bind, EStateM.run_get, hslot, hg, if_false]
      rfl
  · simp only [mutateInPlace, EStateM.run_bind, EStateM.run_get, hslot]
    rfl
  · simp only [mutateInPlace, EStateM.run_bind, EStateM.run_get, hslot]
    rfl

/-! ## Agreement -/

/-- What can be released is what is valid. -/
theorem exists_release_iff (t : SlotTable α) (key : Key) :
    (∃ removal, t.release key = .ok removal) ↔ t.state key = .valid := by
  rw [← exists_read_iff]
  constructor
  · rintro ⟨removal, hrelease⟩
    exact ⟨_, (release_eq_ok_iff t key removal.value).mp ⟨removal, hrelease, rfl⟩⟩
  · rintro ⟨v, hread⟩
    obtain ⟨removal, hrelease, -⟩ := (release_eq_ok_iff t key v).mpr hread
    exact ⟨removal, hrelease⟩

/-- What can be mutated is what is valid, whatever the operation. -/
theorem exists_mutate_iff (t : SlotTable α) (key : Key) (operation : α → β × α) :
    (∃ changed, t.mutate key operation = .ok changed) ↔ t.state key = .valid := by
  rw [← exists_read_iff]
  constructor
  · rintro ⟨⟨result, t'⟩, hmutate⟩
    obtain ⟨v, hread, -⟩ := (mutate_eq_ok_iff t key operation result).mp ⟨t', hmutate⟩
    exact ⟨v, hread⟩
  · rintro ⟨v, hread⟩
    obtain ⟨t', hmutate⟩ := (mutate_eq_ok_iff t key operation _).mpr ⟨v, hread, rfl⟩
    exact ⟨(_, t'), hmutate⟩

/-- A release in place of a key that is not valid touches nothing. -/
theorem run_releaseInPlace_of_invalid (h : t.state key ≠ .valid) (log : List Event) :
    (releaseInPlace key).run (t, log) = .error (.refused (t.refusal key)) (t, log) := by
  rw [run_releaseInPlace, release_of_invalid h]

/-- A mutation in place of a key that is not valid touches nothing, and its operation is not run. -/
theorem run_mutateInPlace_of_invalid (h : t.state key ≠ .valid)
    (operation : α → σ → (β × α) × σ) (surroundings : σ) :
    (mutateInPlace key operation).run (t, surroundings) =
      .error (t.refusal key) (t, surroundings) := by
  rw [run_mutateInPlace, mutate_of_invalid h]

/-- **The lookups of a table agree**, for every table and every key:

- Reading, releasing and mutating succeed iff the key is valid.
- A key that is not valid is turned down with the same refusal by all three. The refusal is of the
  key and of the kind of the table, and its state is that of the key: the key has been released, or
  it is unknown.
- No operation that is about such a key moves the table or reports anything. A release in place
  leaves slots, free list and count as they are, and so does a mutation in place, whose operation
  does not get to act on its surroundings either. -/
theorem lookups_agree (t : SlotTable α) (key : Key) :
    ((∃ value, t.read key = .ok value) ↔ t.state key = .valid) ∧
      ((∃ removal, t.release key = .ok removal) ↔ t.state key = .valid) ∧
      (∀ operation : α → β × α,
        (∃ changed, t.mutate key operation = .ok changed) ↔ t.state key = .valid) ∧
      (t.state key ≠ .valid → ∃ e : KeyError,
        (t.read key = .error e ∧ t.release key = .error (.refused e) ∧
          ∀ operation : α → β × α, t.mutate key operation = .error e) ∧
        (e.key = key ∧ e.kind = kindName α ∧ e.state = t.state key ∧
          (e = .released (kindName α) key ↔ t.state key = .released) ∧
          (e = .unknown (kindName α) key ↔ t.state key = .uninitialized)) ∧
        (∀ op : TableOp α β, op.key? = some key → t.step op = .ok ⟨.refused e, t, []⟩) ∧
        (∀ log, (releaseInPlace key).run (t, log) = .error (.refused e) (t, log)) ∧
        ∀ (operation : α → σ → (β × α) × σ) (surroundings : σ),
          (mutateInPlace key operation).run (t, surroundings) = .error e (t, surroundings)) := by
  refine ⟨exists_read_iff t key, exists_release_iff t key, exists_mutate_iff t key, ?_⟩
  intro h
  refine ⟨t.refusal key, ?_, ?_, ?_, ?_, ?_⟩
  · exact ⟨read_of_invalid h, release_of_invalid h, mutate_of_invalid h⟩
  · exact ⟨key_refusal t key, kind_refusal t key, state_of_refusal h, refusal_eq_released_iff t key,
      refusal_eq_unknown_iff h⟩
  · exact fun op about => step_of_invalid h about
  · exact run_releaseInPlace_of_invalid h
  · exact run_mutateInPlace_of_invalid h

end OwnedHandles.SlotTable
