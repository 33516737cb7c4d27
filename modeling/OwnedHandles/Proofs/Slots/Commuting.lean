import Mathlib.Data.List.Forall2
import Mathlib.Data.List.Perm.Basic
import OwnedHandles.Proofs.Slots.Cycling
import OwnedHandles.Proofs.Slots.Lookup

/-!
# Operations on different keys commute

What is done to one key does not stand in the way of what is done to another. Mutations do not even
leave a trace of their order. Releases leave one: the slot released last is filled first, and the
links from slot to slot tell the whole order. Nothing else does.

- `Alike t t'`: no lookup tells the two tables apart.
- `unlinked t`: the table without its links. `alike_of_unlinked_eq`: what a lookup tells does not
  depend on them.
- `without t key`: a table without links after the release of a key. `unlinked_of_release`: this is
  what a release does up to links, and `without_comm` is why the order is lost.
- `FreeList.release_all`: keys released one after the other.
- `mutate_mutate_comm`, `mutate_release_comm`: the two orders of a mutation and another operation.
- `distinct_keys_commute`: all of it for every reachable table.
-/

namespace OwnedHandles

variable {α β γ : Type}

/-! ## Tables without links -/

/-- A slot without its link to the next vacant one. -/
def Slot.unlinked : Slot α → Slot α
  | .vacant generation _ => .vacant generation none
  | .occupied generation value => .occupied generation value
  | .retired => .retired

/-- What becomes of a slot when its occupant of the given generation is released, links aside. -/
def Slot.left (generation : UInt32) : Slot α :=
  (nextGeneration generation).elim .retired fun next => .vacant next none

namespace SlotTable

/-- The table without its links: which slots are vacant can be told from it, but not in which order
they are filled. -/
def unlinked (t : SlotTable α) : SlotTable α :=
  ⟨t.slots.map Slot.unlinked, none, t.len⟩

/-- A table without links after the release of a key. -/
def without (t : SlotTable α) (key : Key) : SlotTable α :=
  ⟨t.slots.setIfInBounds key.index (Slot.left key.generation), none, t.len - 1⟩

/-- Releases from different slots leave no trace of their order but the links. -/
theorem without_comm (t : SlotTable α) {a b : Key} (h : a.index ≠ b.index) :
    (t.without a).without b = (t.without b).without a := by
  unfold without
  rw [Array.setIfInBounds_comm _ _ h]

theorem getElem?_slots_unlinked (t : SlotTable α) (index : Nat) :
    t.unlinked.slots[index]? = (t.slots[index]?).map Slot.unlinked :=
  Array.getElem?_map

/-- A slot that is replaced keeps its content without links. -/
theorem unlinked_set (t : SlotTable α) (index : Nat) (new : Slot α) (head : Option Nat)
    (len : Nat) :
    (SlotTable.mk (t.slots.setIfInBounds index new) head len).unlinked =
      ⟨t.unlinked.slots.setIfInBounds index new.unlinked, none, len⟩ := by
  unfold unlinked
  rw [Array.map_setIfInBounds]

/-- The verdict on a key does not depend on links. -/
@[simp] theorem state_unlinked (t : SlotTable α) (key : Key) :
    t.unlinked.state key = t.state key := by
  unfold state
  rw [getElem?_slots_unlinked]
  rcases t.slots[key.index]? with _ | ⟨_ | _ | _⟩ <;> rfl

/-- The entries of a table do not depend on links. -/
@[simp] theorem entries_unlinked (t : SlotTable α) : t.unlinked.entries = t.entries := by
  unfold entries unlinked
  rw [Array.toList_map, List.zipIdx_map, List.filterMap_map]
  congr 1
  funext ⟨slot, index⟩
  cases slot <;> rfl

/-- A table has as many slots as it has without links. -/
@[simp] theorem size_unlinked (t : SlotTable α) : t.unlinked.slots.size = t.slots.size :=
  Array.size_map

variable [HandleKind α] {t t' : SlotTable α}

@[simp] theorem refusal_unlinked (t : SlotTable α) (key : Key) :
    t.unlinked.refusal key = t.refusal key := by
  unfold refusal
  rw [state_unlinked]

/-- What is read through a key does not depend on links, and neither does its refusal. -/
@[simp] theorem read_unlinked (t : SlotTable α) (key : Key) :
    t.unlinked.read key = t.read key := by
  unfold read
  rw [refusal_unlinked, getElem?_slots_unlinked]
  rcases t.slots[key.index]? with _ | ⟨_ | _ | _⟩ <;> rfl

/-- Two tables that no lookup tells apart. -/
structure Alike (t t' : SlotTable α) : Prop where
  state : ∀ key, t.state key = t'.state key
  read : ∀ key, t.read key = t'.read key
  refusal : ∀ key, t.refusal key = t'.refusal key
  entries : t.entries = t'.entries
  len : t.len = t'.len
  size : t.slots.size = t'.slots.size

/-- **Lookups do not see links.** -/
theorem alike_of_unlinked_eq (h : t.unlinked = t'.unlinked) : Alike t t' where
  state key := by rw [← state_unlinked t, h, state_unlinked]
  read key := by rw [← read_unlinked t, h, read_unlinked]
  refusal key := by rw [← refusal_unlinked t, h, refusal_unlinked]
  entries := by rw [← entries_unlinked t, h, entries_unlinked]
  len := show t.unlinked.len = t'.unlinked.len by rw [h]
  size := by rw [← size_unlinked t, h, size_unlinked]

/-! ## Releases one after the other -/

/-- Up to links, a release does what its key tells. -/
theorem unlinked_of_release {key : Key} {value : α} (h : t.read key = .ok value) :
    ∃ removal, t.release key = .ok removal ∧ removal.value = value ∧
      removal.table.unlinked = t.unlinked.without key := by
  refine ⟨_, release_eq h, ?_⟩
  unfold without Slot.left
  cases nextGeneration key.generation with
  | some next => exact ⟨rfl, t.unlinked_set key.index _ _ _⟩
  | none => exact ⟨rfl, t.unlinked_set key.index _ _ _⟩

/-- The slots that fall vacant when keys are released one after the other, the last one in front.
The slot of a last generation is not among them. -/
def vacated (keys : List Key) : List Nat :=
  ((keys.filter (·.generation ≠ lastGeneration)).map Key.index).reverse

/-- Another order of the keys is another order of their slots. -/
theorem vacated_perm {keys keys' : List Key} (h : keys.Perm keys') :
    (vacated keys).Perm (vacated keys') :=
  ((List.reverse_perm _).trans ((h.filter _).map _)).trans (List.reverse_perm _).symm

omit [HandleKind α] in
/-- The first key of a list is released first, so that its slot comes behind those of all others. -/
theorem vacated_cons_append (key : Key) (rest : List Key) (value : α) (free : List Nat) :
    vacated (key :: rest) ++ free =
      vacated rest ++ freeAfter free ((.release key, .removed value) : Occurrence α β) := by
  unfold vacated freeAfter
  by_cases hlast : key.generation = lastGeneration
  · simp [hlast]
  · simp [hlast]

/-- **Keys are released one after the other**: each yields its own resource, the table at the end
does not depend on the order but for its links, and these lead through the slots in reverse. -/
theorem FreeList.release_all {free : List Nat} (h : FreeList t free) {entries : List (Key × α)}
    (hnodup : (entries.map Prod.fst).Nodup) (hread : ∀ e ∈ entries, t.read e.1 = .ok e.2) :
    ∃ last, t.run (entries.map fun e => (.release e.1 : TableOp α β)) =
        .ok (entries.map fun e => .removed e.2, last) ∧
      last.unlinked = (entries.map Prod.fst).foldl without t.unlinked ∧
      FreeList last (vacated (entries.map Prod.fst) ++ free) := by
  induction entries generalizing t free with
  | nil => exact ⟨t, rfl, rfl, h⟩
  | cons entry rest ih =>
    obtain ⟨key, value⟩ := entry
    obtain ⟨hnew, hdistinct⟩ := List.nodup_cons.mp hnodup
    obtain ⟨removal, hrelease, rfl, hunlinked⟩ :=
      unlinked_of_release (hread (key, value) List.mem_cons_self)
    have htransition := transition_of_release (β := β) hrelease
    -- the other keys can still be read, since none of them is the one that is released
    have hrest : ∀ e ∈ rest, removal.table.read e.1 = .ok e.2 := by
      intro e he
      have hne : e.1 ≠ key := fun heq => hnew (List.mem_map.mpr ⟨e, he, heq⟩)
      exact (htransition.read_of_release.2 e.1 e.2).mpr ⟨hne, hread e (List.mem_cons_of_mem _ he)⟩
    obtain ⟨last, hrun, hlast, hfree⟩ := ih (h.transition htransition) hdistinct hrest
    refine ⟨last, ?_, ?_, ?_⟩
    · have hstep : t.step (.release key : TableOp α β) =
          .ok ⟨.removed removal.value, removal.table, removal.events⟩ := by
        rw [step, hrelease]
      exact run_cons_eq_ok_iff.mpr ⟨_, _, hstep, hrun, rfl⟩
    · rw [hlast, hunlinked]
      rfl
    · rw [List.map_cons, vacated_cons_append (β := β) key _ removal.value]
      exact hfree

/-! ## Two keys -/

/-- Two keys that can be read are in different slots. -/
theorem index_ne_of_read {a b : Key} {v w : α} (ha : t.read a = .ok v) (hb : t.read b = .ok w)
    (hne : a ≠ b) : a.index ≠ b.index := by
  intro hindex
  rw [read_eq_ok_iff] at ha hb
  rw [hindex, hb] at ha
  cases a
  cases b
  simp_all

/-- **The order of releases is lost** in a table without links. -/
theorem foldl_without_perm {keys keys' : List Key} (h : keys.Perm keys')
    (hread : ∀ key ∈ keys, ∃ value, t.read key = .ok value) (u : SlotTable α) :
    keys.foldl without u = keys'.foldl without u := by
  refine h.foldl_eq' (fun a ha b hb u => ?_) u
  by_cases hab : a = b
  · rw [hab]
  · obtain ⟨v, hv⟩ := hread a ha
    obtain ⟨w, hw⟩ := hread b hb
    exact u.without_comm (index_ne_of_read hv hw hab)

/-- A mutation fills the slot of its key anew. -/
theorem mutate_eq {key : Key} {value : α} (h : t.read key = .ok value) (operation : α → β × α) :
    t.mutate key operation = .ok ((operation value).1, t.refill key (operation value).2) := by
  unfold mutate
  rw [(read_eq_ok_iff t key value).mp h]
  exact if_pos rfl

omit [HandleKind α] in
/-- Fillings of different slots leave no trace of their order. -/
theorem refill_comm (t : SlotTable α) {a b : Key} (h : a.index ≠ b.index) (v w : α) :
    (t.refill a v).refill b w = (t.refill b w).refill a v := by
  unfold refill
  rw [Array.setIfInBounds_comm _ _ h]

/-- A filling is not felt in other slots. -/
theorem read_refill_of_ne {a b : Key} {v w : α} (ha : t.read a = .ok v) (hb : t.read b = .ok w)
    (hne : a ≠ b) (changed : α) : (t.refill a changed).read b = .ok w := by
  have hreplaces := replaces_set ((read_eq_ok_iff t a v).mp ha)
    (.occupied a.generation changed) t.freeHead t.len
  exact (hreplaces.read_iff b w).mpr (.inr ⟨(index_ne_of_read ha hb hne).symm, hb⟩)

/-- A release goes the same way whatever fills another slot. -/
theorem release_refill {a b : Key} {v w : α} (ha : t.read a = .ok v) (hb : t.read b = .ok w)
    (hne : a ≠ b) (changed : α) :
    ∃ removal, t.release b = .ok removal ∧ removal.value = w ∧
      removal.table.read a = .ok v ∧
      (t.refill a changed).release b =
        .ok ⟨w, removal.table.refill a changed, removal.events⟩ := by
  have hindex := index_ne_of_read ha hb hne
  have hrelease := release_eq hb
  have hread := (transition_of_release (β := Unit) hrelease).read_of_release.2 a v
  refine ⟨_, hrelease, ?_, hread.mpr ⟨hne, ha⟩, ?_⟩
  · cases nextGeneration b.generation <;> rfl
  · rw [release_eq (read_refill_of_ne ha hb hne changed)]
    unfold refill
    cases nextGeneration b.generation with
    | some next => simp only [Array.setIfInBounds_comm _ _ hindex]
    | none => simp only [Array.setIfInBounds_comm _ _ hindex]

/-- Two mutations come to the same in either order. -/
theorem mutate_mutate_comm {a b : Key} {v w : α} (ha : t.read a = .ok v) (hb : t.read b = .ok w)
    (hne : a ≠ b) (f : α → β × α) (g : α → γ × α) :
    ∃ first second last, t.mutate a f = .ok ((f v).1, first) ∧
      first.mutate b g = .ok ((g w).1, last) ∧ t.mutate b g = .ok ((g w).1, second) ∧
      second.mutate a f = .ok ((f v).1, last) := by
  refine ⟨_, _, _, mutate_eq ha f, mutate_eq (read_refill_of_ne ha hb hne _) g, mutate_eq hb g, ?_⟩
  rw [t.refill_comm (index_ne_of_read ha hb hne)]
  exact mutate_eq (read_refill_of_ne hb ha hne.symm _) f

/-- A mutation and a release come to the same in either order, and report the same. -/
theorem mutate_release_comm {a b : Key} {v w : α} (ha : t.read a = .ok v) (hb : t.read b = .ok w)
    (hne : a ≠ b) (f : α → β × α) :
    ∃ first second last events, t.mutate a f = .ok ((f v).1, first) ∧
      first.release b = .ok ⟨w, last, events⟩ ∧ t.release b = .ok ⟨w, second, events⟩ ∧
      second.mutate a f = .ok ((f v).1, last) := by
  obtain ⟨removal, hrelease, rfl, hread, hafter⟩ := release_refill ha hb hne (f v).2
  exact ⟨_, _, _, _, mutate_eq ha f, hafter, hrelease, mutate_eq hread f⟩

/-! ## Every reachable table -/

/-- Live keys come with their resources. -/
theorem exists_entries {keys : List Key} (h : ∀ key ∈ keys, t.state key = .valid) :
    ∃ entries : List (Key × α), entries.map Prod.fst = keys ∧
      ∀ e ∈ entries, t.read e.1 = .ok e.2 := by
  induction keys with
  | nil => exact ⟨[], rfl, by simp⟩
  | cons key rest ih =>
    obtain ⟨value, hvalue⟩ := (exists_read_iff t key).mpr (h key List.mem_cons_self)
    obtain ⟨entries, hkeys, hentries⟩ := ih fun k hk => h k (List.mem_cons_of_mem _ hk)
    exact ⟨(key, value) :: entries, by rw [List.map_cons, hkeys],
      List.forall_mem_cons.mpr ⟨hvalue, hentries⟩⟩

/-- Live keys are released one after the other, each with its own resource. -/
theorem FreeList.release_live {free : List Nat} (h : FreeList t free) {keys : List Key}
    (hnodup : keys.Nodup) (hlive : ∀ key ∈ keys, t.state key = .valid) :
    ∃ values last, t.run (keys.map fun key => (.release key : TableOp α β)) =
        .ok (values.map .removed, last) ∧
      List.Forall₂ (fun key value => t.read key = .ok value) keys values ∧
      last.unlinked = keys.foldl without t.unlinked ∧ FreeList last (vacated keys ++ free) := by
  obtain ⟨entries, rfl, hread⟩ := exists_entries hlive
  obtain ⟨last, hrun, hunlinked, hfree⟩ := h.release_all (β := β) hnodup hread
  refine ⟨entries.map Prod.snd, last, ?_, ?_, hunlinked, hfree⟩
  · rw [List.map_map, List.map_map]
    exact hrun
  · rw [List.forall₂_map_left_iff, List.forall₂_map_right_iff, List.forall₂_same]
    exact hread

/-- **Operations on different keys commute.** After every sequence of operations on the empty table:

- Live keys, no two of them the same, can be released one after the other in any order. Each release
  yields the resource of its own key. The tables at the end are alike: each key has the same state,
  reads the same resource or is refused in the same way, and entries, count and number of slots are
  the same.
- The tables are even the same but for their links. In front of the slots that were vacant before,
  the links lead through the same slots in either table, in another order.
- Of two different live keys, one can be mutated and the other mutated or released. The two orders
  have the same results, and lead to the same table. -/
theorem distinct_keys_commute (ops : List (TableOp α β)) :
    ∃ outcomes t, (∅ : SlotTable α).run ops = .ok (outcomes, t) ∧ outcomes.length = ops.length ∧
      (∀ keys keys' : List Key, keys.Nodup → (∀ key ∈ keys, t.state key = .valid) →
        keys.Perm keys' → ∃ values values' last last',
          t.run (keys.map fun key => (.release key : TableOp α β)) =
            .ok (values.map .removed, last) ∧
          t.run (keys'.map fun key => (.release key : TableOp α β)) =
            .ok (values'.map .removed, last') ∧
          List.Forall₂ (fun key value => t.read key = .ok value) keys values ∧
          List.Forall₂ (fun key value => t.read key = .ok value) keys' values' ∧
          Alike last last' ∧ last.unlinked = last'.unlinked ∧
          ∃ free, FreeList t free ∧ FreeList last (vacated keys ++ free) ∧
            FreeList last' (vacated keys' ++ free) ∧ (vacated keys).Perm (vacated keys')) ∧
      ∀ a b v w, a ≠ b → t.read a = .ok v → t.read b = .ok w → ∀ f : α → β × α,
        (∀ g : α → γ × α, ∃ first second last, t.mutate a f = .ok ((f v).1, first) ∧
          first.mutate b g = .ok ((g w).1, last) ∧ t.mutate b g = .ok ((g w).1, second) ∧
          second.mutate a f = .ok ((f v).1, last)) ∧
        ∃ first second last events, t.mutate a f = .ok ((f v).1, first) ∧
          first.release b = .ok ⟨w, last, events⟩ ∧ t.release b = .ok ⟨w, second, events⟩ ∧
          second.mutate a f = .ok ((f v).1, last) := by
  obtain ⟨outcomes, t, hrun, hlength, hreaches⟩ := run_total (α := α) ops
  have hfree := hreaches.freeList
  refine ⟨outcomes, t, hrun, hlength, ?_, ?_⟩
  · intro keys keys' hnodup hlive hperm
    have hlive' : ∀ key ∈ keys', t.state key = .valid := fun key hkey =>
      hlive key (hperm.mem_iff.mpr hkey)
    obtain ⟨values, last, hkeys, hvalues, hlast, hfree₁⟩ :=
      hfree.release_live (β := β) hnodup hlive
    obtain ⟨values', last', hkeys', hvalues', hlast', hfree₂⟩ :=
      hfree.release_live (β := β) (hperm.nodup_iff.mp hnodup) hlive'
    have hsame : last.unlinked = last'.unlinked := by
      rw [hlast, hlast']
      exact foldl_without_perm hperm (fun key hkey => (exists_read_iff t key).mpr (hlive key hkey)) _
    exact ⟨values, values', last, last', hkeys, hkeys', hvalues, hvalues',
      alike_of_unlinked_eq hsame, hsame, _, hfree, hfree₁, hfree₂, vacated_perm hperm⟩
  · intro a b v w hne ha hb f
    exact ⟨mutate_mutate_comm ha hb hne f, mutate_release_comm ha hb hne f⟩

/-- The slot that is filled next does tell which key was released last. -/
example (value : α) :
    let refilled (first second : Key) : Option (Option (TableOutcome α Unit)) :=
      ((∅ : SlotTable α).run
        [.create value, .create value, .release first, .release second, .create value]).toOption.map
          (·.1.getLast?)
    refilled ⟨0, 0⟩ ⟨1, 0⟩ = some (some (.issued ⟨1, 1⟩)) ∧
      refilled ⟨1, 0⟩ ⟨0, 0⟩ = some (some (.issued ⟨0, 1⟩)) :=
  ⟨rfl, rfl⟩

end SlotTable

end OwnedHandles
