import Mathlib.Data.List.Basic
import OwnedHandles.Slots.History

/-!
# Transitions of a table

`SlotTable.step` computes; here is what it can do, as a relation to reason by.

- `Transition t op outcome t'`: one rule per way an operation can go. A table that contradicts
  itself has no rule: `transition_of_step` covers every step that is not a `TableDefect`.
- `Occurrence`, `History`: operations with their outcomes, the first one in front.
  `Occurrence.issued?` and `Occurrence.removed?` are the keys that come and go by one.
- `Reaches history t`: the table that a history on the empty table leads to. `reaches_of_run` is the
  way from `SlotTable.run` into the relation, so that an invariant of all runs takes one case per
  rule.
-/

namespace OwnedHandles

variable {α β : Type}

/-! ## Generations -/

@[simp] theorem toNat_lastGeneration : lastGeneration.toNat = 4294967295 := rfl

theorem nextGeneration_eq_none_iff {generation : UInt32} :
    nextGeneration generation = none ↔ generation = lastGeneration := by
  unfold nextGeneration
  split <;> simp_all

/-- The next generation is one more: it never wraps. -/
theorem toNat_of_nextGeneration {generation next : UInt32}
    (h : nextGeneration generation = some next) : next.toNat = generation.toNat + 1 := by
  unfold nextGeneration at h
  split at h
  · cases h
  · rename_i hlast
    have hne : generation.toNat ≠ 4294967295 := fun heq =>
      hlast (UInt32.toNat_inj.mp (heq.trans toNat_lastGeneration.symm))
    have hlt := generation.toNat_lt
    obtain rfl := Option.some.inj h
    rw [UInt32.toNat_add, UInt32.toNat_one]
    omega

/-! ## One operation -/

/-- The key that an operation is about; creating is about none. -/
def TableOp.key? : TableOp α β → Option Key
  | .create _ => none
  | .read key | .mutate key _ | .release key => some key

namespace SlotTable

/-- A slot that exists can be replaced; all others stay. -/
theorem getElem?_set {slots : Array (Slot α)} {index : Nat} {old : Slot α}
    (h : slots[index]? = some old) (new : Slot α) (i : Nat) :
    (slots.setIfInBounds index new)[i]? = if i = index then some new else slots[i]? := by
  have hlt : index < slots.size := (Array.getElem?_eq_some_iff.mp h).1
  rw [Array.getElem?_setIfInBounds, if_pos hlt]
  by_cases hi : i = index
  · rw [if_pos hi, if_pos hi.symm]
  · rw [if_neg hi, if_neg (Ne.symm hi)]

/-- `t'` is `t` with another slot at one index, which may be a new one at the end. -/
def Replaces (t t' : SlotTable α) (index : Nat) (new : Slot α) : Prop :=
  ∀ i, t'.slots[i]? = if i = index then some new else t.slots[i]?

theorem replaces_set {t : SlotTable α} {index : Nat} {old : Slot α}
    (h : t.slots[index]? = some old) (new : Slot α) (head : Option Nat) (len : Nat) :
    Replaces t ⟨t.slots.setIfInBounds index new, head, len⟩ index new :=
  getElem?_set h new

theorem replaces_push (t : SlotTable α) (new : Slot α) (head : Option Nat) (len : Nat) :
    Replaces t ⟨t.slots.push new, head, len⟩ t.slots.size new :=
  fun _ => Array.getElem?_push

/-- The ways an operation can go. -/
inductive Transition [HandleKind α] (t : SlotTable α) :
    TableOp α β → TableOutcome α β → SlotTable α → Prop
  /-- The first vacant slot is filled. -/
  | refilled {index : Nat} {generation : UInt32} {next : Option Nat} (value : α)
      (head : t.freeHead = some index)
      (slot : t.slots[index]? = some (.vacant generation next)) :
      Transition t (.create value) (.issued ⟨index, generation⟩)
        ⟨t.slots.setIfInBounds index (.occupied generation value), next, t.len + 1⟩
  /-- No slot is vacant, and the table grows. -/
  | appended (value : α) (head : t.freeHead = none) :
      Transition t (.create value) (.issued ⟨t.slots.size, 0⟩)
        ⟨t.slots.push (.occupied 0 value), none, t.len + 1⟩
  /-- The slot of the key is occupied under its generation, and looked at. -/
  | looked {key : Key} {value : α}
      (slot : t.slots[key.index]? = some (.occupied key.generation value)) :
      Transition t (.read key) (.value value) t
  /-- The resource is changed where it is. -/
  | changed {key : Key} {value : α} (operation : α → β × α)
      (slot : t.slots[key.index]? = some (.occupied key.generation value)) :
      Transition t (.mutate key operation) (.result (operation value).1)
        { t with slots :=
            t.slots.setIfInBounds key.index (.occupied key.generation (operation value).2) }
  /-- The slot falls vacant under the next generation and becomes the first one. -/
  | recycled {key : Key} {value : α} {next : UInt32}
      (slot : t.slots[key.index]? = some (.occupied key.generation value))
      (generation : nextGeneration key.generation = some next) :
      Transition t (.release key) (.removed value)
        ⟨t.slots.setIfInBounds key.index (.vacant next t.freeHead), some key.index, t.len - 1⟩
  /-- The slot has no generation left. -/
  | retired {key : Key} {value : α}
      (slot : t.slots[key.index]? = some (.occupied key.generation value))
      (generation : nextGeneration key.generation = none) :
      Transition t (.release key) (.removed value)
        ⟨t.slots.setIfInBounds key.index .retired, t.freeHead, t.len - 1⟩
  /-- The key is not valid, and nothing happens. -/
  | refused {op : TableOp α β} {key : Key} (about : op.key? = some key)
      (invalid : ¬(t.state key).isValid) : Transition t op (.refused (t.refusal key)) t

variable [HandleKind α] {t t' : SlotTable α} {key : Key}

theorem transition_of_create {value : α} (h : t.create value = .ok (key, t')) :
    Transition t (.create value : TableOp α β) (.issued key) t' := by
  unfold create at h
  split at h
  · rename_i index head
    split at h
    · rename_i generation next slot
      cases h
      exact .refilled value head slot
    · cases h
  · rename_i head
    cases h
    exact .appended value head

theorem read_eq_error_iff (e : KeyError) :
    t.read key = .error e ↔ ¬(t.state key).isValid ∧ e = t.refusal key := by
  rw [isValid_state_iff]
  unfold read
  rcases t.slots[key.index]? with _ | ⟨generation, value⟩ | ⟨generation, next⟩ | _
  · simp [eq_comm]
  · by_cases hg : generation = key.generation <;> simp [hg, eq_comm]
  · simp [eq_comm]
  · simp [eq_comm]

theorem transition_of_mutate {operation : α → β × α} {result : β}
    (h : t.mutate key operation = .ok (result, t')) :
    Transition t (.mutate key operation) (.result result) t' := by
  unfold mutate at h
  split at h
  · rename_i generation value slot
    split at h
    · rename_i hg
      subst hg
      cases h
      exact .changed operation slot
    · cases h
  · cases h

theorem mutate_eq_error {operation : α → β × α} {e : KeyError}
    (h : t.mutate key operation = .error e) :
    ¬(t.state key).isValid ∧ e = t.refusal key := by
  rw [isValid_state_iff]
  unfold mutate at h
  split at h
  · rename_i generation value slot
    split at h
    · cases h
    · rename_i hg
      cases h
      refine ⟨?_, rfl⟩
      rintro ⟨v, hv⟩
      rw [slot] at hv
      cases hv
      exact hg rfl
  · rename_i hslot
    cases h
    refine ⟨?_, rfl⟩
    rintro ⟨v, hv⟩
    exact hslot _ _ hv

theorem transition_of_release {removal : Removal α} (h : t.release key = .ok removal) :
    Transition t (.release key : TableOp α β) (.removed removal.value) removal.table := by
  unfold release at h
  split at h
  · rename_i hvalid
    -- the slot of a valid key is occupied, so the release goes one of two ways
    obtain ⟨v, hv⟩ := (isValid_state_iff t key).mp hvalid
    rw [hv] at h
    cases hnext : nextGeneration key.generation with
    | some next =>
      simp only [hnext] at h
      cases h
      exact .recycled hv hnext
    | none =>
      simp only [hnext] at h
      cases h
      exact .retired hv hnext
  · cases h

/-- A release is refused iff the key is not valid; a valid key is never found in an empty slot. -/
theorem release_eq_error {e : ReleaseError} (h : t.release key = .error e) :
    ¬(t.state key).isValid ∧ e = .refused (t.refusal key) := by
  unfold release at h
  split at h
  · rename_i hvalid
    obtain ⟨v, hv⟩ := (isValid_state_iff t key).mp hvalid
    rw [hv] at h
    cases hnext : nextGeneration key.generation <;> simp [hnext] at h
  · rename_i hvalid
    cases h
    exact ⟨hvalid, rfl⟩

/-- Every step is by one of the rules. -/
theorem transition_of_step {op : TableOp α β} {s : TableStep α β} (h : t.step op = .ok s) :
    Transition t op s.outcome s.table := by
  cases op with
  | create value =>
    simp only [step] at h
    split at h
    · rename_i key table hcreate
      cases h
      exact transition_of_create hcreate
    · cases h
  | read key =>
    simp only [step] at h
    split at h
    · rename_i value hread
      cases h
      exact .looked ((read_eq_ok_iff t key value).mp hread)
    · rename_i e hread
      cases h
      obtain ⟨hinvalid, rfl⟩ := (read_eq_error_iff e).mp hread
      exact .refused rfl hinvalid
  | mutate key operation =>
    simp only [step] at h
    split at h
    · rename_i result table hmutate
      cases h
      exact transition_of_mutate hmutate
    · rename_i e hmutate
      cases h
      obtain ⟨hinvalid, rfl⟩ := mutate_eq_error hmutate
      exact .refused rfl hinvalid
  | release key =>
    simp only [step] at h
    split at h
    · rename_i removal hrelease
      cases h
      exact transition_of_release hrelease
    · rename_i e hrelease
      cases h
      obtain ⟨hinvalid, he⟩ := release_eq_error hrelease
      cases he
      exact .refused rfl hinvalid
    · cases h

end SlotTable

/-! ## Histories -/

/-- An operation and its outcome. -/
abbrev Occurrence (α β : Type) := TableOp α β × TableOutcome α β

/-- What has happened to a table, the first operation in front. -/
abbrev History (α β : Type) := List (Occurrence α β)

namespace Occurrence

/-- The key that an occurrence hands out. -/
def issued? : Occurrence α β → Option Key
  | (.create _, .issued key) => some key
  | _ => none

/-- The key that an occurrence takes back: a release that is not refused. -/
def removed? : Occurrence α β → Option Key
  | (.release key, .removed _) => some key
  | _ => none

end Occurrence

/-- The keys that a history hands out, in order. -/
def issuedKeys (history : History α β) : List Key :=
  history.filterMap Occurrence.issued?

/-- The keys that a history takes back, in order. -/
def removedKeys (history : History α β) : List Key :=
  history.filterMap Occurrence.removed?

@[simp] theorem issuedKeys_concat (history : History α β) (e : Occurrence α β) :
    issuedKeys (history ++ [e]) = issuedKeys history ++ (Occurrence.issued? e).toList := by
  cases h : Occurrence.issued? e <;> simp [issuedKeys, h]

@[simp] theorem removedKeys_concat (history : History α β) (e : Occurrence α β) :
    removedKeys (history ++ [e]) = removedKeys history ++ (Occurrence.removed? e).toList := by
  cases h : Occurrence.removed? e <;> simp [removedKeys, h]

namespace SlotTable

variable [HandleKind α]

/-- The table that a history on the empty table leads to. -/
inductive Reaches : History α β → SlotTable α → Prop
  | empty : Reaches [] ∅
  | next {history : History α β} {t t' : SlotTable α} {op : TableOp α β}
      {outcome : TableOutcome α β} (before : Reaches history t)
      (transition : Transition t op outcome t') : Reaches (history ++ [(op, outcome)]) t'

/-- A run begins with one step, and goes on from there. -/
theorem run_cons_eq_ok_iff {t last : SlotTable α} {op : TableOp α β} {rest : List (TableOp α β)}
    {outcomes : List (TableOutcome α β)} :
    t.run (op :: rest) = .ok (outcomes, last) ↔
      ∃ s later, t.step op = .ok s ∧ s.table.run rest = .ok (later, last) ∧
        outcomes = s.outcome :: later := by
  rw [run]
  cases t.step op with
  | error d => simp
  | ok s =>
    cases hrest : s.table.run rest with
    | error d => simp [hrest]
    | ok result => simp [hrest, Prod.ext_iff, eq_comm, and_comm]

/-- Operations one after the other extend the history by themselves and their outcomes. -/
theorem reaches_append_of_run {history : History α β} {t last : SlotTable α}
    {ops : List (TableOp α β)} {outcomes : List (TableOutcome α β)}
    (hreaches : Reaches history t) (hrun : t.run ops = .ok (outcomes, last)) :
    Reaches (history ++ ops.zip outcomes) last := by
  -- a run begins at its first operation and a history grows at its end, so the past is general
  induction ops generalizing history t outcomes with
  | nil =>
    cases hrun
    simpa using hreaches
  | cons op rest ih =>
    obtain ⟨s, later, hstep, hrest, rfl⟩ := run_cons_eq_ok_iff.mp hrun
    have := ih (hreaches.next (transition_of_step hstep)) hrest
    rwa [List.append_assoc] at this

/-- A run from the empty table reaches its last table by its history. -/
theorem reaches_of_run {last : SlotTable α} {ops : List (TableOp α β)}
    {outcomes : List (TableOutcome α β)}
    (hrun : (∅ : SlotTable α).run ops = .ok (outcomes, last)) :
    Reaches (ops.zip outcomes) last :=
  reaches_append_of_run .empty hrun

end SlotTable

end OwnedHandles
