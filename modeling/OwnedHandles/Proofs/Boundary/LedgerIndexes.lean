import OwnedHandles.Proofs.Boundary.LedgerMap
import OwnedHandles.Proofs.Slots.Contents

/-!
# Addresses and keys in bijection

A ledger writes its two indexes one after the other. Entering a handle at an address that still
counts as live even leaves the table with two entries for the address, until the old one is
released. After every call there is again one entry for each address and one address for each entry.

- `Ledger.Counted`: the table of the ledger counts its entries. No call spoils that, not even one
  that fails.
- `Ledger.Sound.live_perm_entries`: the address map lists the entries of the table, each with its
  own address, so that the two have the same size.
- `Ledger.indexes_in_bijection`: all of it for every sequence of calls, and what it leaves
  unreachable.
-/

namespace OwnedHandles.Ledger

variable {l after : Ledger} {kind : String} {address : Address} {events : List Event}

/-! ## The number of entries -/

/-- The table of the ledger is a finite map, and counts its entries. -/
def Counted (l : Ledger) : Prop :=
  ∃ contents, l.handles.Holds contents

theorem counted_empty : Counted Ledger.empty :=
  ⟨_, SlotTable.holds_empty (β := Unit)⟩

theorem Counted.track (h : l.Counted) (htrack : l.track kind address = .ok (after, events)) :
    after.Counted := by
  obtain ⟨contents, hholds⟩ := h
  unfold Ledger.track at htrack
  split at htrack
  · cases htrack
  · rename_i key handles hcreate
    have hcreated := hholds.create (SlotTable.transition_of_create (β := Unit) hcreate)
    -- the old entry, if there is one, is released from the table with the new one
    simp only at htrack
    split at htrack
    · cases htrack
      exact ⟨_, hcreated⟩
    · split at htrack
      · rename_i removal hrelease
        cases htrack
        exact ⟨_, hcreated.release (SlotTable.transition_of_release (β := Unit) hrelease)⟩
      · cases htrack
        exact ⟨_, hcreated⟩
      · cases htrack

theorem Counted.retire (h : l.Counted) (hretire : l.retire kind address = .ok (after, events)) :
    after.Counted := by
  obtain ⟨contents, hholds⟩ := h
  unfold Ledger.retire at hretire
  split at hretire
  · cases hretire
  · split at hretire
    · cases hretire
    · split at hretire
      · rename_i removal hrelease
        cases hretire
        exact ⟨_, hholds.release (SlotTable.transition_of_release (β := Unit) hrelease)⟩
      · cases hretire
      · cases hretire

/-- A retirement that fails leaves the table alone, even where it strikes out the address. -/
theorem handles_leftBehind (l : Ledger) (address : Address) (fault : LedgerFault) :
    (l.leftBehind address fault).handles = l.handles := by
  unfold leftBehind
  split <;> rfl

/-- **No call spoils the count**, whether it fails or not. -/
theorem Counted.step (h : l.Counted) (op : LedgerOp) : (l.step op).after.Counted := by
  cases op with
  | track kind address =>
    cases htrack : l.track kind address with
    | ok result =>
      rw [Ledger.step, htrack]
      exact h.track htrack
    | error d =>
      rw [Ledger.step, htrack]
      exact h
  | check kind address =>
    rw [Ledger.step]
    split <;> exact h
  | retire kind address =>
    cases hretire : l.retire kind address with
    | ok result =>
      rw [Ledger.step, hretire]
      exact h.retire hretire
    | error fault =>
      rw [Ledger.step, hretire]
      show ∃ contents, (l.leftBehind address fault).handles.Holds contents
      rw [handles_leftBehind]
      exact h

theorem Counted.run (h : l.Counted) (ops : List LedgerOp) : (l.run ops).2.Counted := by
  induction ops generalizing l with
  | nil => exact h
  | cons op rest ih => exact ih (h.step op)

/-! ## The bijection -/

/-- An address leads to a key iff the key has an entry with just this address. -/
theorem Sound.live_eq_some_iff (h : l.Sound) (key : Key) :
    l.live[address]? = some key ↔ ∃ kind, l.handles.read key = .ok ⟨kind, address⟩ := by
  constructor
  · intro hkey
    exact h.named address key hkey
  · rintro ⟨kind, hread⟩
    exact h.entered key _ hread

/-- **The address map lists the entries of the table**, each with its own address. -/
theorem Sound.live_perm_entries (h : l.Sound) :
    l.live.toList.Perm (l.handles.entries.map fun entry => (entry.2.address, entry.1)) := by
  have hkeys : (l.handles.entries.map fun entry => (entry.2.address, entry.1)).Nodup := by
    apply List.Nodup.of_map Prod.snd
    rw [List.map_map]
    exact l.handles.nodup_keys_entries
  refine (List.perm_ext_iff_of_nodup (nodup_toList l.live) hkeys).mpr ?_
  rintro ⟨address, key⟩
  rw [Std.ExtTreeMap.mem_toList_iff_getElem?_eq_some, h.live_eq_some_iff, List.mem_map]
  constructor
  · rintro ⟨kind, hread⟩
    refine ⟨(key, ⟨kind, address⟩), ?_, rfl⟩
    rwa [SlotTable.mem_entries_iff, ← SlotTable.read_eq_ok_iff]
  · rintro ⟨⟨key', tracked⟩, hmem, hentry⟩
    cases hentry
    rw [SlotTable.mem_entries_iff, ← SlotTable.read_eq_ok_iff] at hmem
    exact ⟨tracked.kind, hmem⟩

/-- The two indexes have the same size. -/
theorem Sound.size_live (h : l.Sound) (hcounted : l.Counted) : l.live.size = l.handles.len := by
  obtain ⟨contents, hholds⟩ := hcounted
  calc l.live.size
      = l.live.toList.length := Std.ExtTreeMap.length_toList.symm
    _ = (l.handles.entries.map fun entry => (entry.2.address, entry.1)).length :=
        h.live_perm_entries.length_eq
    _ = l.handles.entries.length := List.length_map _
    _ = l.handles.len := hholds.length_entries

/-! ## Every run -/

/-- **Addresses and keys are in bijection.** After every sequence of calls on the empty ledger,
whatever kinds and addresses are used and whichever calls fail:

- Every address of the map leads to the key of a live entry, which has recorded this address.
- Every live entry is led to by one address, its own, and by no other.
- The map has as many addresses as the table has live entries.
- Where a new handle is entered at an address that still counts as live, the old entry is still
  there after the new one has been created, and its release succeeds.
- Where a handle has passed the check, its address leads to a key, and the release of that key
  succeeds. -/
theorem indexes_in_bijection (ops : List LedgerOp) :
    ∃ outcomes l, Ledger.empty.run ops = (outcomes, l) ∧ outcomes.length = ops.length ∧
      (∀ address key, l.live[address]? = some key →
        l.handles.state key = .valid ∧ ∃ kind, (key, ⟨kind, address⟩) ∈ l.handles.entries) ∧
      (∀ key tracked, (key, tracked) ∈ l.handles.entries →
        ∀ address, l.live[address]? = some key ↔ address = tracked.address) ∧
      l.live.size = l.handles.entries.length ∧ l.live.size = l.handles.len ∧
      (∀ kind address, ∃ key created, l.handles.create ⟨kind, address⟩ = .ok (key, created) ∧
        ∀ previous, l.live[address]? = some previous →
          ∃ removal, created.release previous = .ok removal ∧ removal.value.address = address ∧
            l.track kind address = .ok (⟨removal.table, l.live.insert address key⟩,
              removal.events ++ [.displaced removal.value.kind address])) ∧
      ∀ kind address, l.check kind address = .ok () →
        ∃ key removal, l.live[address]? = some key ∧ l.handles.release key = .ok removal ∧
          l.retire kind address = .ok (⟨removal.table, l.live.erase address⟩, removal.events) := by
  have hsound := (represents_empty.run ops).sound
  have hcounted := counted_empty.run ops
  have hsize := hsound.size_live hcounted
  obtain ⟨contents, hholds⟩ := hcounted
  refine ⟨_, _, rfl, length_run _ _, ?_, ?_, hsize.trans hholds.length_entries.symm, hsize, ?_, ?_⟩
  · intro address key hkey
    obtain ⟨kind, hread⟩ := hsound.named address key hkey
    rw [SlotTable.read_eq_ok_iff] at hread
    refine ⟨?_, kind, (SlotTable.mem_entries_iff _ _ _).mpr hread⟩
    exact eq_of_beq ((SlotTable.isValid_state_iff _ key).mpr ⟨_, hread⟩)
  · intro key tracked hmem address
    rw [SlotTable.mem_entries_iff, ← SlotTable.read_eq_ok_iff] at hmem
    constructor
    · intro hkey
      exact (hsound.address_eq hkey hmem).symm
    · rintro rfl
      exact hsound.entered key tracked hmem
  · intro kind address
    obtain ⟨free, hfree⟩ := hsound.vacant
    obtain ⟨key, created, hcreate⟩ := hfree.create_total ⟨kind, address⟩
    refine ⟨key, created, hcreate, fun previous hprevious => ?_⟩
    obtain ⟨found, removal, -, hrelease, hvalue, -⟩ := hsound.release_displaced hcreate hprevious
    refine ⟨removal, hrelease, congrArg Tracked.address hvalue, ?_⟩
    rw [track, hcreate]
    simp only [hprevious, hrelease, hvalue]
  · intro kind address hcheck
    obtain ⟨key, removal, hkey, hrelease, -, hretire⟩ :=
      hsound.release_live ((check_eq_ok_iff _ _ _).mp hcheck)
    exact ⟨key, removal, hkey, hrelease, hretire⟩

end OwnedHandles.Ledger
