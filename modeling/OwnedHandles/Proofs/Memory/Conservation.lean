import Mathlib.Data.List.Induction
import Mathlib.Data.List.Lattice
import Mathlib.Data.List.Nodup
import Mathlib.Data.List.Pairwise
import Mathlib.Data.List.Perm.Basic
import OwnedHandles.Memory.Custody
import OwnedHandles.Payload.Counter
import OwnedHandles.Proofs.Memory.AddressMap

/-!
# Payloads are conserved

A payload that has been handed out is with the holder of its handle, or with the library that took
it out, or it has been dropped. It is in one of these places and in one only, wherever operations
have moved it.

- `valueBehind history handle`: the value that was given to the payload of a handle last. Only the
  operations on this handle count.
- `Departures`: how many payloads have left their handles, and what has become of them.
- `Proper history`: handles are live when they are used, and new when they are handed out. Like the
  two above, this is told by the operations alone.
- `Custody.serialsOf`: the payloads of an owner, by number.
- `Custody.Move`: the ways an operation can go.
- `Custody.Accounts`: a custody has what a history says. `Accounts.step` is the step and
  `Custody.accounts_run` the induction over a history.
- `Custody.payloads_are_conserved`: what all this says of every proper history.
-/

namespace OwnedHandles

variable {α : Type}

/-! ## What the operations alone tell -/

namespace CustodyOp

/-- The handle that an operation is about. Null is none. -/
def handle? : CustodyOp α → Option Address
  | .handOut address _ => some address
  | .look handle | .set handle _ | .takeBack handle | .release handle =>
    if handle = nullAddress then none else some handle
  | .dropOne _ | .dropTaken => none

/-- The value behind a handle after an operation on it, if there still is one. -/
def leaves : CustodyOp α → Option α → Option α
  | .handOut _ value, _ | .set _ value, _ => some value
  | .takeBack _, _ | .release _, _ => none
  | .look _, held | .dropOne _, held | .dropTaken, held => held

/-- An operation gives a value to the payload of a handle: as it is handed out, or later. -/
def Gives (op : CustodyOp α) (handle : Address) (value : α) : Prop :=
  op = .handOut handle value ∨ op = .set handle value

/-- A value is behind a handle after an operation on it only if it has been given there or was there
before. -/
theorem gives_or_look {op : CustodyOp α} {handle : Address} {held : Option α} {value : α}
    (habout : op.handle? = some handle) (h : op.leaves held = some value) :
    op.Gives handle value ∨ op = .look handle ∧ held = some value := by
  cases op with
  | handOut address given =>
    obtain rfl := Option.some.inj habout
    obtain rfl := Option.some.inj h
    exact .inl (.inl rfl)
  | look other =>
    obtain ⟨-, hsame⟩ := Option.ite_none_left_eq_some.mp habout
    obtain rfl := Option.some.inj hsame
    exact .inr ⟨rfl, h⟩
  | set other given =>
    obtain ⟨-, hsame⟩ := Option.ite_none_left_eq_some.mp habout
    obtain rfl := Option.some.inj hsame
    obtain rfl := Option.some.inj h
    exact .inl (.inr rfl)
  | takeBack other => nomatch h
  | release other => nomatch h
  | dropOne place => nomatch habout
  | dropTaken => nomatch habout

/-- Tells whether an operation hands out a payload. -/
def isHandOut : CustodyOp α → Bool
  | .handOut _ _ => true
  | _ => false

end CustodyOp

/-- The value behind a handle after a history, told by the operations on this handle alone. There is
one iff the handle is live. -/
def valueBehind (history : List (CustodyOp α)) (handle : Address) : Option α :=
  (history.filter (·.handle? = some handle)).foldl (fun held op => op.leaves held) none

theorem valueBehind_concat (history : List (CustodyOp α)) (op : CustodyOp α) (handle : Address) :
    valueBehind (history ++ [op]) handle =
      if op.handle? = some handle then op.leaves (valueBehind history handle)
      else valueBehind history handle := by
  unfold valueBehind
  rw [List.filter_append, List.foldl_append]
  by_cases h : op.handle? = some handle
  · simp [h]
  · simp [h]

/-- **The value behind a handle is the one that was given to it last**, whatever has been done with
other handles since. -/
theorem exists_last_given {history : List (CustodyOp α)} {handle : Address} {value : α}
    (h : valueBehind history handle = some value) :
    ∃ before given later, history = before ++ given :: later ∧ given.Gives handle value ∧
      ∀ op ∈ later, op.handle? = some handle → op = .look handle := by
  induction history using List.reverseRecOn with
  | nil => nomatch h
  | append_singleton history op ih =>
    rw [valueBehind_concat] at h
    by_cases habout : op.handle? = some handle
    · rw [if_pos habout] at h
      obtain hgives | ⟨hlook, hheld⟩ := CustodyOp.gives_or_look habout h
      · exact ⟨history, op, [], rfl, hgives, fun o ho => nomatch ho⟩
      · obtain ⟨before, given, later, rfl, hgives, hlater⟩ := ih hheld
        refine ⟨before, given, later ++ [op], by simp, hgives, ?_⟩
        simp only [List.forall_mem_append, List.forall_mem_singleton]
        exact ⟨hlater, fun _ => hlook⟩
    · rw [if_neg habout] at h
      obtain ⟨before, given, later, rfl, hgives, hlater⟩ := ih h
      refine ⟨before, given, later ++ [op], by simp, hgives, ?_⟩
      simp only [List.forall_mem_append, List.forall_mem_singleton]
      exact ⟨hlater, fun hsame => absurd hsame habout⟩

/-- How many payloads have left their handles: released, taken out and still held by the library,
and dropped after they had been taken out. -/
structure Departures where
  released : Nat
  held : Nat
  discarded : Nat
  deriving DecidableEq, Repr

/-- The departures after an operation. Operations with the null handle do not count. -/
def Departures.record (d : Departures) : CustodyOp α → Departures
  | .release handle => if handle = nullAddress then d else { d with released := d.released + 1 }
  | .takeBack handle => if handle = nullAddress then d else { d with held := d.held + 1 }
  | .dropOne _ => { d with held := d.held - 1, discarded := d.discarded + 1 }
  | .dropTaken => { d with held := 0, discarded := d.discarded + d.held }
  | .handOut _ _ | .look _ | .set _ _ => d

/-- The departures of a history. -/
def departures (history : List (CustodyOp α)) : Departures :=
  history.foldl Departures.record ⟨0, 0, 0⟩

@[simp] theorem departures_concat (history : List (CustodyOp α)) (op : CustodyOp α) :
    departures (history ++ [op]) = (departures history).record op := by
  simp [departures]

/-- An operation is in order after a history: an address that is handed out is not null and not in
use, a handle that is used is live or null, and what is dropped has been taken out and is held. -/
def CustodyOp.InOrder (history : List (CustodyOp α)) : CustodyOp α → Prop
  | .handOut address _ => address ≠ nullAddress ∧ (valueBehind history address).isNone
  | .look handle | .set handle _ | .takeBack handle | .release handle =>
    handle = nullAddress ∨ (valueBehind history handle).isSome
  | .dropOne place => place < (departures history).held
  | .dropTaken => True

instance (history : List (CustodyOp α)) (op : CustodyOp α) : Decidable (op.InOrder history) :=
  match op with
  | .handOut _ _ => inferInstanceAs (Decidable (_ ∧ _))
  | .look _ | .set _ _ | .takeBack _ | .release _ => inferInstanceAs (Decidable (_ ∨ _))
  | .dropOne _ => inferInstanceAs (Decidable (_ < _))
  | .dropTaken => inferInstanceAs (Decidable True)

/-- Every operation is in order after those before it. -/
inductive Proper : List (CustodyOp α) → Prop
  | nil : Proper []
  | concat {history : List (CustodyOp α)} {op : CustodyOp α} (before : Proper history)
      (next : op.InOrder history) : Proper (history ++ [op])

/-- No operation that is in order is about null, since null is not handed out. -/
theorem CustodyOp.InOrder.handle?_ne_null {history : List (CustodyOp α)} {op : CustodyOp α}
    (h : op.InOrder history) : op.handle? ≠ some nullAddress := by
  cases op with
  | handOut address value => exact fun hnull => h.1 (Option.some.inj hnull)
  | look handle | set handle value | takeBack handle | release handle =>
    simp [CustodyOp.handle?]
  | dropOne place | dropTaken => nofun

/-- Null is never live. -/
theorem Proper.valueBehind_null {history : List (CustodyOp α)} (h : Proper history) :
    valueBehind history nullAddress = none := by
  induction h with
  | nil => rfl
  | concat before next ih => rw [valueBehind_concat, if_neg next.handle?_ne_null, ih]

/-! ## Who has a payload -/

/-- Who has a payload: the holder of its handle, the library that took it out, or nobody, since it
has been dropped. -/
inductive Owner where
  | holder
  | library
  | nobody
  deriving DecidableEq, Repr

/-- All owners. -/
def Owner.all : List Owner := [.holder, .library, .nobody]

theorem Owner.mem_all (owner : Owner) : owner ∈ all := by
  cases owner <;> decide

namespace Custody

/-- The payloads of an owner, by number. -/
def serialsOf (c : Custody α) : Owner → List Nat
  | .holder => c.live.toList.map fun entry => entry.2.serial
  | .library => c.taken.map Owned.serial
  | .nobody => c.dropped.map Owned.serial

/-- All payloads, owner by owner. -/
def serials (c : Custody α) : List Nat :=
  Owner.all.flatMap c.serialsOf

/-- The value of the payload of a handle, if the handle is live. -/
def valueAt (c : Custody α) (handle : Address) : Option α :=
  c.live[handle]?.map Owned.value

variable {c : Custody α} {handle : Address} {payload : Owned α}

/-! ## The ways of an operation -/

/-- The ways an operation that is in order can go. -/
inductive Move (c : Custody α) : CustodyOp α → Custody α → Prop
  /-- The null handle is used. -/
  | null {op : CustodyOp α} (hands : op.isHandOut = false) (about : op.handle? = none)
      (counts : ∀ d : Departures, d.record op = d) : Move c op c
  /-- A payload moves to an address of its own. -/
  | handOut {address : Address} (nonnull : address ≠ nullAddress)
      (free : c.live[address]? = none) (value : α) :
      Move c (.handOut address value)
        { c with live := c.live.insert address ⟨c.issued, value⟩, issued := c.issued + 1 }
  /-- The payload of a handle is looked at. -/
  | look {handle : Address} (nonnull : handle ≠ nullAddress) : Move c (.look handle) c
  /-- The payload of a handle changes where it is. -/
  | set {handle : Address} {payload : Owned α} (nonnull : handle ≠ nullAddress)
      (live : c.live[handle]? = some payload) (value : α) :
      Move c (.set handle value)
        { c with live := c.live.insert handle { payload with value } }
  /-- The library takes a payload out. -/
  | takeBack {handle : Address} {payload : Owned α} (nonnull : handle ≠ nullAddress)
      (live : c.live[handle]? = some payload) :
      Move c (.takeBack handle)
        { c with live := c.live.erase handle, taken := c.taken ++ [payload] }
  /-- A payload is dropped with its handle. -/
  | release {handle : Address} {payload : Owned α} (nonnull : handle ≠ nullAddress)
      (live : c.live[handle]? = some payload) :
      Move c (.release handle)
        { c with live := c.live.erase handle, dropped := c.dropped ++ [payload] }
  /-- The library drops one of the payloads that it holds. -/
  | dropOne {place : Nat} {payload : Owned α} (held : c.taken[place]? = some payload) :
      Move c (.dropOne place)
        { c with taken := c.taken.eraseIdx place, dropped := c.dropped ++ [payload] }
  /-- The library drops all payloads that it holds. -/
  | dropTaken : Move c .dropTaken { c with taken := [], dropped := c.dropped ++ c.taken }

/-- The payload of a handle, and those of all others. -/
theorem holder_perm (h : c.live[handle]? = some payload) :
    (c.serialsOf .holder).Perm
      (payload.serial :: ({ c with live := c.live.erase handle }.serialsOf .holder)) :=
  (toList_perm h).map _

theorem count_serials (c : Custody α) (n : Nat) :
    c.serials.count n = (c.serialsOf .holder).count n + (c.taken.map Owned.serial).count n +
      (c.dropped.map Owned.serial).count n := by
  simp [serials, Owner.all, serialsOf, List.flatMap_cons, Nat.add_assoc]

/-- **Payloads stay accounted for**, whichever way an operation goes. -/
theorem Move.everywhere {op : CustodyOp α} {c' : Custody α} (h : Move c op c')
    (heverywhere : c.serials.Perm (List.range c.issued)) :
    c'.serials.Perm (List.range c'.issued) := by
  cases h with
  | null hands about counts => exact heverywhere
  | @handOut address nonnull free value =>
    have hholder := (toList_insertAt_perm_of_none free ⟨c.issued, value⟩).map (·.2.serial)
    rw [List.range_succ]
    exact ((hholder.append_right _).trans (heverywhere.cons c.issued)).trans
      (List.perm_append_singleton _ _).symm
  | look nonnull => exact heverywhere
  | @set handle payload nonnull live value =>
    -- The entry that takes the place of the old one has its number.
    have hholder := (toList_insertAt_perm c.live handle { payload with value }).map (·.2.serial)
    have hsame := hholder.trans (holder_perm live).symm
    exact (hsame.append_right _).trans heverywhere
  | takeBack nonnull live | release nonnull live =>
    refine .trans (List.perm_iff_count.mpr fun n => ?_) heverywhere
    have hcount := (holder_perm live).count_eq n
    simp only [count_serials, serialsOf, List.map_append, List.count_append, List.count_cons,
      List.map_cons, List.map_nil, List.count_nil] at hcount ⊢
    omega
  | @dropOne place payload held =>
    refine .trans (List.perm_iff_count.mpr fun n => ?_) heverywhere
    obtain ⟨hplace, hpayload⟩ := List.getElem?_eq_some_iff.mp held
    have hcount := ((List.getElem_cons_eraseIdx_perm hplace).map Owned.serial).count_eq n
    rw [hpayload] at hcount
    simp only [count_serials, serialsOf, List.map_append, List.count_append, List.count_cons,
      List.map_cons, List.map_nil, List.count_nil] at hcount ⊢
    omega
  | dropTaken =>
    refine .trans (List.perm_iff_count.mpr fun n => ?_) heverywhere
    simp only [count_serials, serialsOf, List.map_append, List.count_append, List.map_nil,
      List.count_nil]
    omega

/-- **Only the handle that an operation is about is affected by it.** -/
theorem Move.valueAt {op : CustodyOp α} {c' : Custody α} (h : Move c op c') (a : Address) :
    c'.valueAt a = if op.handle? = some a then op.leaves (c.valueAt a) else c.valueAt a := by
  cases h with
  | null hands about counts => simp [about]
  | @handOut address nonnull free value =>
    simp only [Custody.valueAt, getElem?_insertAt, CustodyOp.handle?, CustodyOp.leaves]
    by_cases ha : a = address
    · simp [ha]
    · simp [ha, Ne.symm ha]
  | look nonnull => simp [CustodyOp.leaves]
  | @set handle payload nonnull live value =>
    simp only [Custody.valueAt, getElem?_insertAt, CustodyOp.handle?, CustodyOp.leaves, nonnull]
    by_cases ha : a = handle
    · simp [ha]
    · simp [ha, Ne.symm ha]
  | @takeBack handle payload nonnull live | @release handle payload nonnull live =>
    simp only [Custody.valueAt, getElem?_eraseAt, CustodyOp.handle?, CustodyOp.leaves, nonnull]
    by_cases ha : a = handle
    · simp [ha]
    · simp [ha, Ne.symm ha]
  | dropOne held => rfl
  | dropTaken => rfl

theorem Move.issued {op : CustodyOp α} {c' : Custody α} (h : Move c op c') :
    c'.issued = c.issued + if op.isHandOut then 1 else 0 := by
  cases h with
  | null hands about counts => simp [hands]
  | _ => rfl

/-- The payloads that are not with holders are as many as departures tell. -/
structure Tallies (c : Custody α) (d : Departures) : Prop where
  held : c.taken.length = d.held
  drops : c.drops = d.released + d.discarded

/-- **Every payload that leaves its handle is counted**, where it goes to. -/
theorem Move.tallies {op : CustodyOp α} {c' : Custody α} {d : Departures} (h : Move c op c')
    (htallies : c.Tallies d) : c'.Tallies (d.record op) := by
  obtain ⟨hheld, hdrops⟩ := htallies
  unfold Custody.drops at hdrops
  cases h with
  | null hands about counts => exact (counts d).symm ▸ ⟨hheld, hdrops⟩
  | handOut nonnull free value => exact ⟨hheld, hdrops⟩
  | look nonnull => exact ⟨hheld, hdrops⟩
  | set nonnull live value => exact ⟨hheld, hdrops⟩
  | takeBack nonnull live =>
    constructor
    · simp [Departures.record, nonnull, hheld]
    · simp [Departures.record, nonnull, drops, hdrops]
  | release nonnull live =>
    constructor
    · simp [Departures.record, nonnull, hheld]
    · simp only [Departures.record, if_neg nonnull, drops, List.length_append,
        List.length_singleton, hdrops]
      omega
  | dropOne held =>
    obtain ⟨hplace, -⟩ := List.getElem?_eq_some_iff.mp held
    constructor
    · simp [Departures.record, List.length_eraseIdx_of_lt hplace, hheld]
    · simp only [Departures.record, drops, List.length_append, List.length_singleton, hdrops]
      omega
  | dropTaken =>
    constructor
    · rfl
    · simp only [Departures.record, drops, List.length_append, hdrops, hheld]
      omega

/-! ## Accounts -/

/-- A custody has what a history says. -/
structure Accounts (c : Custody α) (history : List (CustodyOp α)) : Prop where
  issued : c.issued = history.countP CustodyOp.isHandOut
  everywhere : c.serials.Perm (List.range c.issued)
  values : ∀ handle, c.valueAt handle = valueBehind history handle
  tallies : c.Tallies (departures history)

theorem accounts_empty : (empty : Custody α).Accounts [] where
  issued := rfl
  everywhere := .refl _
  values _ := rfl
  tallies := ⟨rfl, rfl⟩

variable {history : List (CustodyOp α)}

/-- A handle that is used in order is null or has a payload. -/
theorem Accounts.null_or_live (h : c.Accounts history)
    (hused : handle = nullAddress ∨ (valueBehind history handle).isSome) :
    handle = nullAddress ∨ handle ≠ nullAddress ∧ ∃ payload, c.live[handle]? = some payload := by
  by_cases hnull : handle = nullAddress
  · exact .inl hnull
  · have hlive := hused.resolve_left hnull
    rw [← h.values handle, valueAt, Option.isSome_map] at hlive
    exact .inr ⟨hnull, Option.isSome_iff_exists.mp hlive⟩

/-- No payload is counted twice, with the same owner or with two. -/
theorem Accounts.nodup_serials (h : c.Accounts history) : c.serials.Nodup :=
  h.everywhere.nodup_iff.mpr List.nodup_range

/-- **A payload has one owner** iff it has been handed out, and is there once. -/
theorem Accounts.owners (h : c.Accounts history) :
    (∀ n, n < c.issued → ∃! owner, n ∈ c.serialsOf owner) ∧
      ∀ owner, (c.serialsOf owner).Nodup ∧ ∀ n ∈ c.serialsOf owner, n < c.issued := by
  have hissued : ∀ n, n < c.issued ↔ ∃ owner ∈ Owner.all, n ∈ c.serialsOf owner := fun n =>
    List.mem_range.symm.trans (h.everywhere.mem_iff.symm.trans List.mem_flatMap)
  obtain ⟨hnodup, hdisjoint⟩ := List.nodup_flatMap.mp h.nodup_serials
  constructor
  · intro n hn
    obtain ⟨owner, -, hmem⟩ := (hissued n).mp hn
    refine ⟨owner, hmem, fun other hother => ?_⟩
    have : Std.Symm (Function.onFun List.Disjoint c.serialsOf) :=
      ⟨fun _ _ h => List.Disjoint.symm h⟩
    by_contra hne
    exact hdisjoint.forall (Owner.mem_all other) (Owner.mem_all owner) hne hother hmem
  · intro owner
    exact ⟨hnodup owner (Owner.mem_all owner),
      fun n hn => (hissued n).mpr ⟨owner, Owner.mem_all owner, hn⟩⟩

/-! ## From step to step -/

variable [HandleKind α]

/-- **Null changes nothing**, reports nothing, and is a fault unless it is released. -/
theorem step_null (c : Custody α) :
    c.step (.look nullAddress) = c.fault .nullPointer ∧
      (∀ value, c.step (.set nullAddress value) = c.fault .nullPointer) ∧
      c.step (.takeBack nullAddress) = c.fault .nullPointer ∧
      c.step (.release nullAddress) = ⟨.ok none, c, []⟩ := by
  refine ⟨?_, fun value => ?_, ?_, ?_⟩
  · simp only [step, Heap.load_null]
  · simp only [step, Heap.modify, Heap.load_null]
  · simp only [step, Heap.take, Heap.load_null]
  · simp only [step, Heap.free_null]

theorem step_look (hnull : handle ≠ nullAddress) (h : c.live[handle]? = some payload) :
    c.step (.look handle) = ⟨.ok (some payload.value), c, []⟩ := by
  have hload := (Heap.load_eq_ok_iff c.live handle payload).mpr ⟨hnull, h⟩
  simp only [step, hload]

theorem step_set (hnull : handle ≠ nullAddress) (h : c.live[handle]? = some payload) (value : α) :
    c.step (.set handle value) =
      ⟨.ok (some value), { c with live := c.live.insert handle { payload with value } }, []⟩ := by
  have hload := (Heap.load_eq_ok_iff c.live handle payload).mpr ⟨hnull, h⟩
  simp only [step, Heap.modify, hload]

theorem step_takeBack (hnull : handle ≠ nullAddress) (h : c.live[handle]? = some payload) :
    c.step (.takeBack handle) =
      ⟨.ok (some payload.value),
        { c with live := c.live.erase handle, taken := c.taken ++ [payload] },
        [.consumed (kindName α) handle]⟩ := by
  have hload := (Heap.load_eq_ok_iff c.live handle payload).mpr ⟨hnull, h⟩
  simp only [step, Heap.take, hload]

theorem step_release (hnull : handle ≠ nullAddress) (h : c.live[handle]? = some payload) :
    c.step (.release handle) =
      ⟨.ok none, { c with live := c.live.erase handle, dropped := c.dropped ++ [payload] },
        [.released (kindName α) handle]⟩ := by
  have hload := (Heap.load_eq_ok_iff c.live handle payload).mpr ⟨hnull, h⟩
  simp only [step, Heap.free, Heap.take, hload, if_neg hnull]

theorem step_dropOne {place : Nat} (h : c.taken[place]? = some payload) :
    c.step (.dropOne place) =
      ⟨.ok none, { c with taken := c.taken.eraseIdx place, dropped := c.dropped ++ [payload] },
        []⟩ := by
  simp only [step, h]

/-- **An operation that is in order goes one of the ways.** -/
theorem Accounts.move (h : c.Accounts history) {op : CustodyOp α} (hnext : op.InOrder history) :
    Move c op (c.step op).after := by
  obtain ⟨hlook, hset, htakeBack, hrelease⟩ := step_null c
  cases op with
  | handOut address value =>
    obtain ⟨hnonnull, hnone⟩ := hnext
    rw [← h.values address, valueAt, Option.isNone_map, Option.isNone_iff_eq_none] at hnone
    exact .handOut hnonnull hnone value
  | look handle =>
    obtain rfl | ⟨hnonnull, payload, hlive⟩ := h.null_or_live hnext
    · rw [hlook]
      exact .null rfl rfl fun d => rfl
    · rw [step_look hnonnull hlive]
      exact .look hnonnull
  | set handle value =>
    obtain rfl | ⟨hnonnull, payload, hlive⟩ := h.null_or_live hnext
    · rw [hset]
      exact .null rfl rfl fun d => rfl
    · rw [step_set hnonnull hlive]
      exact .set hnonnull hlive value
  | takeBack handle =>
    obtain rfl | ⟨hnonnull, payload, hlive⟩ := h.null_or_live hnext
    · rw [htakeBack]
      exact .null rfl rfl fun d => rfl
    · rw [step_takeBack hnonnull hlive]
      exact .takeBack hnonnull hlive
  | release handle =>
    obtain rfl | ⟨hnonnull, payload, hlive⟩ := h.null_or_live hnext
    · rw [hrelease]
      exact .null rfl rfl fun d => rfl
    · rw [step_release hnonnull hlive]
      exact .release hnonnull hlive
  | dropOne place =>
    have hplace : place < c.taken.length := h.tallies.held.symm ▸ hnext
    rw [step_dropOne (List.getElem?_eq_getElem hplace)]
    exact .dropOne (List.getElem?_eq_getElem hplace)
  | dropTaken => exact .dropTaken

/-- The step: what a custody has stays as the history says. -/
theorem Accounts.step (h : c.Accounts history) {op : CustodyOp α} (hnext : op.InOrder history) :
    (c.step op).after.Accounts (history ++ [op]) := by
  have hmove := h.move hnext
  constructor
  · rw [hmove.issued, h.issued, List.countP_append, List.countP_singleton]
  · exact hmove.everywhere h.everywhere
  · intro a
    rw [hmove.valueAt, valueBehind_concat, h.values]
  · exact departures_concat history op ▸ hmove.tallies h.tallies

theorem run_concat (c : Custody α) (history : List (CustodyOp α)) (op : CustodyOp α) :
    c.run (history ++ [op]) = ((c.run history).step op).after := by
  induction history generalizing c with
  | nil => rfl
  | cons first history ih => exact ih (c.step first).after

/-- The run: a custody has what a proper history of it says. -/
theorem accounts_run (h : Proper history) :
    ((empty : Custody α).run history).Accounts history := by
  induction h with
  | nil => exact accounts_empty
  | concat before next ih =>
    rw [run_concat]
    exact ih.step next

/-! ## Every proper history -/

/-- **Payloads are conserved.** After every history in which handles are live when they are used and
new when they are handed out:

- each payload that has been handed out has one owner and is counted once there;
- as many have been dropped as have been released and as have been dropped after they had been taken
  out;
- handles are live as the history tells. The payload of a live handle has the value that was given to
  it last: it was given through this very handle, and all operations on the handle since then have
  only looked. It is seen and taken out with this value. Taken out, it is with the library; released,
  it is dropped;
- null leaves everything as it is and reports nothing, whether it is a fault or not. -/
theorem payloads_are_conserved {ops : List (CustodyOp α)} (h : Proper ops) :
    let c := (empty : Custody α).run ops
    c.issued = ops.countP CustodyOp.isHandOut ∧
      (∀ n, n < c.issued → ∃! owner, n ∈ c.serialsOf owner) ∧
      (∀ owner, (c.serialsOf owner).Nodup ∧ ∀ n ∈ c.serialsOf owner, n < c.issued) ∧
      c.drops = (departures ops).released + (departures ops).discarded ∧
      c.taken.length = (departures ops).held ∧
      (∀ handle, c.valueAt handle = valueBehind ops handle) ∧
      (∀ handle payload, c.live[handle]? = some payload →
        (∃ before given later, ops = before ++ given :: later ∧
          given.Gives handle payload.value ∧
          ∀ op ∈ later, op.handle? = some handle → op = .look handle) ∧
        (c.step (.look handle)).outcome = .ok (some payload.value) ∧
        (c.step (.takeBack handle)).outcome = .ok (some payload.value) ∧
        (c.step (.takeBack handle)).after.taken = c.taken ++ [payload] ∧
        (c.step (.release handle)).after.dropped = c.dropped ++ [payload]) ∧
      c.step (.look nullAddress) = ⟨.error .nullPointer, c, []⟩ ∧
      (∀ value, c.step (.set nullAddress value) = ⟨.error .nullPointer, c, []⟩) ∧
      c.step (.takeBack nullAddress) = ⟨.error .nullPointer, c, []⟩ ∧
      c.step (.release nullAddress) = ⟨.ok none, c, []⟩ := by
  intro c
  have haccounts : c.Accounts ops := accounts_run h
  obtain ⟨howner, hcounted⟩ := haccounts.owners
  refine ⟨haccounts.issued, howner, hcounted, haccounts.tallies.drops, haccounts.tallies.held,
    haccounts.values, fun handle payload hlive => ?_, step_null c⟩
  have hvalue : valueBehind ops handle = some payload.value := by
    rw [← haccounts.values handle, valueAt, hlive]
    rfl
  have hnonnull : handle ≠ nullAddress := by
    rintro rfl
    exact nomatch h.valueBehind_null.symm.trans hvalue
  refine ⟨exists_last_given hvalue, ?_⟩
  rw [step_look hnonnull hlive, step_takeBack hnonnull hlive, step_release hnonnull hlive]
  exact ⟨rfl, rfl, rfl, rfl⟩

/-- Four payloads and all that can become of them: the address of the second is used again for the
third, and the first changes between two uses of null. -/
theorem payloads_are_conserved_reused_address :
    let five : Counter .int64 := ⟨⟨5, by decide, by decide⟩⟩
    let ops : List (CustodyOp (Counter .int64)) :=
      [.handOut 16 .zero, .handOut 32 .zero, .look nullAddress, .set 16 five, .takeBack 32,
        .handOut 32 .zero, .release 32, .release nullAddress, .dropOne 0, .handOut 48 .zero,
        .takeBack 48]
    let c := Custody.empty.run ops
    Proper ops ∧ c.issued = 4 ∧ c.drops = 2 ∧ c.serialsOf .holder = [0] ∧
      c.serialsOf .library = [3] ∧ c.serialsOf .nobody = [2, 1] ∧
      (c.step (.look 16)).outcome = .ok (some five) := by
  intro five ops c
  have first : Proper [.handOut 16 .zero, .handOut 32 .zero, .look nullAddress, .set 16 five] :=
    (((Proper.nil.concat (by decide)).concat (by decide)).concat (by decide)).concat (by decide)
  have second : Proper (ops.take 8) :=
    (((first.concat (by decide)).concat (by decide)).concat (by decide)).concat (by decide)
  have proper : Proper ops :=
    ((second.concat (by decide)).concat (by decide)).concat (by decide)
  obtain ⟨hissued, -, -, hdrops, -, -, hlive, -⟩ := payloads_are_conserved proper
  exact ⟨proper, hissued, hdrops, rfl, rfl, rfl, (hlive 16 ⟨0, five⟩ rfl).2.1⟩

end Custody

end OwnedHandles
