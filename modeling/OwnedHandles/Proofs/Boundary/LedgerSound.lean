import OwnedHandles.Boundary.Ledger
import OwnedHandles.Proofs.Memory.AddressMap
import OwnedHandles.Proofs.Slots.FreeList
import OwnedHandles.Proofs.Slots.Frame

/-!
# The two indexes of a ledger

A ledger finds a handle in two steps: a map leads from its address to a key, and the slot table from
the key to the entry. `Ledger.Sound` says that the two agree: they lead back to each other, so that
what is live at an address can be told from the table alone.

- `Ledger.kindAt l address`: the kind under which an address is live.
- `Ledger.Sound.track`, `Ledger.Sound.retire`: what entering and striking out do to it, for every
  sound ledger. Neither finds a contradiction.
- `Ledger.check_eq`: the verdict of the ledger is a matter of `kindAt`.
-/

namespace OwnedHandles

namespace Ledger

/-- The kind under which an address is live. -/
def kindAt (l : Ledger) (address : Address) : Option String :=
  (l.find? address).map Tracked.kind

/-! ## The verdict -/

/-- **The verdict is a matter of the kind at the address.** -/
theorem check_eq (l : Ledger) (kind : String) (address : Address) :
    l.check kind address =
      match l.kindAt address with
      | some found => if found = kind then .ok () else .error (.wrongKind found kind)
      | none => .error (.notLive kind address) := by
  unfold check kindAt
  cases l.find? address <;> rfl

theorem check_eq_ok_iff (l : Ledger) (kind : String) (address : Address) :
    l.check kind address = .ok () ↔ l.kindAt address = some kind := by
  rw [check_eq]
  cases l.kindAt address with
  | none => simp
  | some found => by_cases hkind : found = kind <;> simp [hkind]

/-- A handle is turned down for one of two reasons, which the kind at the address tells apart. -/
theorem check_eq_error_iff (l : Ledger) (kind : String) (address : Address) (fault : LedgerFault) :
    l.check kind address = .error fault ↔
      (∃ found, l.kindAt address = some found ∧ found ≠ kind ∧ fault = .wrongKind found kind) ∨
      l.kindAt address = none ∧ fault = .notLive kind address := by
  rw [check_eq]
  cases l.kindAt address with
  | none => simp [eq_comm]
  | some found =>
    by_cases hkind : found = kind
    · simp [hkind]
    · simp [hkind, eq_comm (a := fault)]

/-- A handle that is turned down is not struck out either. -/
theorem retire_of_check_eq_error {l : Ledger} {kind : String} {address : Address}
    {fault : LedgerFault} (h : l.check kind address = .error fault) :
    l.retire kind address = .error fault := by
  rw [retire, h]

/-! ## The invariant -/

/-- The two indexes lead back to each other, and the table does not contradict itself. -/
structure Sound (l : Ledger) : Prop where
  vacant : ∃ free, l.handles.FreeList free
  named : ∀ address key, l.live[address]? = some key →
    ∃ kind, l.handles.read key = .ok ⟨kind, address⟩
  entered : ∀ key tracked, l.handles.read key = .ok tracked →
    l.live[tracked.address]? = some key

theorem sound_empty : Sound Ledger.empty where
  vacant := ⟨[], SlotTable.freeList_empty⟩
  named address key h := by
    change (∅ : Std.ExtTreeMap Address Key)[address]? = some key at h
    simp at h
  entered key tracked h := absurd h (SlotTable.read_empty_ne key tracked)

variable {l : Ledger} {kind : String} {address : Address}

/-- What is live at an address can be told from the table. -/
theorem Sound.kindAt_eq_some_iff (h : l.Sound) :
    l.kindAt address = some kind ↔ ∃ key, l.handles.read key = .ok ⟨kind, address⟩ := by
  unfold kindAt find?
  constructor
  · intro hkind
    split at hkind
    · rename_i key hkey
      obtain ⟨found, hread⟩ := h.named address key hkey
      rw [hread] at hkind
      obtain rfl : found = kind := Option.some.inj hkind
      exact ⟨key, hread⟩
    · cases hkind
  · rintro ⟨key, hread⟩
    have hkey : l.live[address]? = some key := h.entered key _ hread
    simp only [hkey, hread]
    rfl

/-- An address that leads to no key is not live, and conversely. -/
theorem Sound.kindAt_eq_none_iff (h : l.Sound) :
    l.kindAt address = none ↔ l.live[address]? = none := by
  unfold kindAt find?
  cases hkey : l.live[address]? with
  | none => simp
  | some key =>
    obtain ⟨found, hread⟩ := h.named address key hkey
    simp [hread, Except.toOption]

/-- What is found at an address has recorded it. -/
theorem Sound.find?_eq (h : l.Sound) (address : Address) :
    l.find? address = (l.kindAt address).map (⟨·, address⟩) := by
  unfold kindAt find?
  cases hkey : l.live[address]? with
  | none => rfl
  | some key =>
    obtain ⟨found, hread⟩ := h.named address key hkey
    simp [hread, Except.toOption]

/-- An address is in the map iff a handle is live there. -/
theorem Sound.mem_live_iff (h : l.Sound) (address : Address) :
    address ∈ l.live ↔ ∃ kind, l.kindAt address = some kind := by
  rw [← Option.ne_none_iff_exists', Ne, h.kindAt_eq_none_iff]
  simp

/-! ## Entering and striking out -/

/-- The table holds one entry more, under a key of its own, in place of the one at the address. -/
structure Enters (l : Ledger) (handles : SlotTable Tracked) (key : Key) (kind : String)
    (address : Address) : Prop where
  vacant : ∃ free, handles.FreeList free
  reads : ∀ k v, handles.read k = .ok v ↔
    k = key ∧ v = ⟨kind, address⟩ ∨ l.live[address]? ≠ some k ∧ l.handles.read k = .ok v

/-- The table holds one entry less, the one at the address. -/
structure Strikes (l : Ledger) (handles : SlotTable Tracked) (key : Key) (address : Address) :
    Prop where
  vacant : ∃ free, handles.FreeList free
  live : l.live[address]? = some key
  reads : ∀ k v, handles.read k = .ok v ↔ k ≠ key ∧ l.handles.read k = .ok v

variable {handles : SlotTable Tracked} {key : Key}

/-- Entries at different addresses have different keys. -/
theorem Sound.address_eq (h : l.Sound) {a : Address} (hkey : l.live[address]? = some key)
    (hread : l.handles.read key = .ok ⟨kind, a⟩) : a = address := by
  obtain ⟨found, hfound⟩ := h.named address key hkey
  exact congrArg Tracked.address (Except.ok.inj (hread.symm.trans hfound))

theorem Enters.sound (hl : l.Sound) (h : l.Enters handles key kind address) :
    Sound ⟨handles, l.live.insert address key⟩ := by
  refine ⟨h.vacant, ?_, ?_⟩
  · intro a k hk
    change (l.live.insert address key)[a]? = some k at hk
    rw [getElem?_insertAt] at hk
    split at hk
    · rename_i ha
      obtain rfl := Option.some.inj hk
      exact ⟨kind, (h.reads _ _).mpr (.inl ⟨rfl, by rw [ha]⟩)⟩
    · rename_i ha
      -- an entry at another address is not the one that is displaced
      obtain ⟨found, hread⟩ := hl.named a k hk
      exact ⟨found, (h.reads _ _).mpr (.inr ⟨fun hkey => ha (hl.address_eq hkey hread), hread⟩)⟩
  · intro k v hv
    show (l.live.insert address key)[v.address]? = some k
    rw [getElem?_insertAt]
    rcases (h.reads k v).mp hv with ⟨rfl, rfl⟩ | ⟨hother, hread⟩
    · exact if_pos rfl
    · have hk := hl.entered k v hread
      have hne : v.address ≠ address := fun ha => hother (ha ▸ hk)
      rw [if_neg hne]
      exact hk

theorem Strikes.sound (hl : l.Sound) (h : l.Strikes handles key address) :
    Sound ⟨handles, l.live.erase address⟩ := by
  refine ⟨h.vacant, ?_, ?_⟩
  · intro a k hk
    change (l.live.erase address)[a]? = some k at hk
    rw [getElem?_eraseAt] at hk
    split at hk
    · cases hk
    · rename_i ha
      obtain ⟨found, hread⟩ := hl.named a k hk
      have hne : k ≠ key := fun hkey => ha (hl.address_eq (hkey ▸ h.live) hread)
      exact ⟨found, (h.reads _ _).mpr ⟨hne, hread⟩⟩
  · intro k v hv
    show (l.live.erase address)[v.address]? = some k
    rw [getElem?_eraseAt]
    obtain ⟨hne, hread⟩ := (h.reads k v).mp hv
    have hk := hl.entered k v hread
    have haddress : v.address ≠ address := fun ha =>
      hne (Option.some.inj (hk.symm.trans (ha ▸ h.live)))
    rw [if_neg haddress]
    exact hk

/-- An entry changes what is live at its address, and nowhere else. -/
theorem Enters.kindAt (hl : l.Sound) (h : l.Enters handles key kind address) (a : Address) :
    Ledger.kindAt ⟨handles, l.live.insert address key⟩ a =
      if a = address then some kind else l.kindAt a := by
  apply Option.ext
  intro found
  rw [(h.sound hl).kindAt_eq_some_iff]
  by_cases ha : a = address
  · rw [if_pos ha]
    constructor
    · rintro ⟨k, hk⟩
      rcases (h.reads _ _).mp hk with ⟨-, heq⟩ | ⟨hother, hread⟩
      · exact congrArg some (congrArg Tracked.kind heq).symm
      · exact absurd (ha ▸ hl.entered k _ hread) hother
    · intro hfound
      obtain rfl := Option.some.inj hfound
      exact ⟨key, (h.reads _ _).mpr (.inl ⟨rfl, by rw [ha]⟩)⟩
  · rw [if_neg ha, hl.kindAt_eq_some_iff]
    refine exists_congr fun k => (h.reads _ _).trans ?_
    constructor
    · rintro (⟨-, heq⟩ | ⟨-, hread⟩)
      · exact absurd (congrArg Tracked.address heq) ha
      · exact hread
    · intro hread
      exact .inr ⟨fun hkey => ha (hl.address_eq hkey hread), hread⟩

/-- Striking out an entry changes what is live at its address, and nowhere else. -/
theorem Strikes.kindAt (hl : l.Sound) (h : l.Strikes handles key address) (a : Address) :
    Ledger.kindAt ⟨handles, l.live.erase address⟩ a =
      if a = address then none else l.kindAt a := by
  by_cases ha : a = address
  · rw [if_pos ha, (h.sound hl).kindAt_eq_none_iff]
    show (l.live.erase address)[a]? = none
    rw [getElem?_eraseAt, if_pos ha]
  · rw [if_neg ha]
    apply Option.ext
    intro found
    rw [(h.sound hl).kindAt_eq_some_iff, hl.kindAt_eq_some_iff]
    refine exists_congr fun k => (h.reads _ _).trans ?_
    constructor
    · rintro ⟨-, hread⟩
      exact hread
    · intro hread
      exact ⟨fun hkey => ha (hl.address_eq (hkey ▸ h.live) hread), hread⟩

/-! ## The operations -/

/-- What a ledger reports of its own table: slots that are used up. -/
def Notices (events : List Event) : Prop :=
  ∀ e ∈ events, ∃ index, e = .slotRetired (kindName Tracked) index

/-- **The old entry at an address can be released** after the new one has been created: it is still
there, and under another key. -/
theorem Sound.release_displaced (h : l.Sound) {created : SlotTable Tracked} {previous : Key}
    (hcreate : l.handles.create ⟨kind, address⟩ = .ok (key, created))
    (hprevious : l.live[address]? = some previous) :
    ∃ found removal, l.kindAt address = some found ∧ created.release previous = .ok removal ∧
      removal.value = ⟨found, address⟩ ∧ Notices removal.events ∧ key ≠ previous := by
  obtain ⟨found, hold⟩ := h.named address previous hprevious
  have htransition := SlotTable.transition_of_create (β := Unit) hcreate
  obtain ⟨hfresh, hreads⟩ := htransition.read_of_create
  obtain ⟨removal, hrelease, hvalue, hnotices⟩ :=
    SlotTable.release_of_read ((hreads _ _).mpr (.inr hold))
  exact ⟨found, removal, h.kindAt_eq_some_iff.mpr ⟨previous, hold⟩, hrelease, hvalue, hnotices,
    fun heq => hfresh _ (heq ▸ hold)⟩

/-- **The entry of a live handle can be released.** -/
theorem Sound.release_live (h : l.Sound) (hkind : l.kindAt address = some kind) :
    ∃ key removal, l.live[address]? = some key ∧ l.handles.release key = .ok removal ∧
      Notices removal.events ∧
      l.retire kind address = .ok (⟨removal.table, l.live.erase address⟩, removal.events) := by
  obtain ⟨key, hread⟩ := h.kindAt_eq_some_iff.mp hkind
  have hkey : l.live[address]? = some key := h.entered key _ hread
  obtain ⟨removal, hrelease, -, hnotices⟩ := SlotTable.release_of_read hread
  refine ⟨key, removal, hkey, hrelease, hnotices, ?_⟩
  rw [retire, (check_eq_ok_iff l kind address).mpr hkind]
  simp only [hkey, hrelease]

/-- An old entry at the address, if there is one, is found, released and reported. -/
theorem Sound.track_eq (h : l.Sound) (kind : String) (address : Address) :
    ∃ handles key notices, l.Enters handles key kind address ∧ Notices notices ∧
      l.track kind address = .ok (⟨handles, l.live.insert address key⟩,
        notices ++ (l.kindAt address).toList.map (.displaced · address)) := by
  obtain ⟨free, hfree⟩ := h.vacant
  obtain ⟨key, created, hcreate⟩ := hfree.create_total ⟨kind, address⟩
  have htransition := SlotTable.transition_of_create (β := Unit) hcreate
  obtain ⟨-, hreads⟩ := htransition.read_of_create
  have hfree' := hfree.transition htransition
  cases hprevious : l.live[address]? with
  | none =>
    refine ⟨created, key, [], ⟨⟨_, hfree'⟩, ?_⟩, by simp [Notices], ?_⟩
    · simpa [hprevious] using hreads
    · rw [track, hcreate, h.kindAt_eq_none_iff.mpr hprevious]
      simp only [hprevious]
      rfl
  | some previous =>
    obtain ⟨found, removal, hkind, hrelease, hvalue, hnotices, hne⟩ :=
      h.release_displaced hcreate hprevious
    have htransition' := SlotTable.transition_of_release (β := Unit) hrelease
    obtain ⟨-, hreads'⟩ := htransition'.read_of_release
    refine ⟨removal.table, key, removal.events, ⟨⟨_, hfree'.transition htransition'⟩, ?_⟩,
      hnotices, ?_⟩
    · intro k v
      -- the new key is another one than the old, so that its entry survives the release
      rw [hreads', hreads, hprevious]
      grind
    · rw [track, hcreate, hkind]
      simp only [hprevious, hrelease, hvalue]
      rfl

/-- A handle of the expected kind is struck out. -/
theorem Sound.retire_eq (h : l.Sound) (hkind : l.kindAt address = some kind) :
    ∃ handles key notices, l.Strikes handles key address ∧ Notices notices ∧
      l.retire kind address = .ok (⟨handles, l.live.erase address⟩, notices) := by
  obtain ⟨free, hfree⟩ := h.vacant
  obtain ⟨key, removal, hkey, hrelease, hnotices, hretire⟩ := h.release_live hkind
  have htransition := SlotTable.transition_of_release (β := Unit) hrelease
  obtain ⟨-, hreads⟩ := htransition.read_of_release
  exact ⟨removal.table, key, removal.events, ⟨⟨_, hfree.transition htransition⟩, hkey, hreads⟩,
    hnotices, hretire⟩

/-- **Entering a handle** always succeeds. The old entry at its address, if there is one, is
reported. -/
theorem Sound.track (h : l.Sound) (kind : String) (address : Address) :
    ∃ l' notices, l.track kind address =
        .ok (l', notices ++ (l.kindAt address).toList.map (.displaced · address)) ∧
      Notices notices ∧ l'.Sound ∧
      ∀ a, l'.kindAt a = if a = address then some kind else l.kindAt a := by
  obtain ⟨handles, key, notices, henters, hnotices, htrack⟩ := h.track_eq kind address
  exact ⟨_, notices, htrack, hnotices, henters.sound h, henters.kindAt h⟩

/-- **Striking out a handle** succeeds if it is live under the expected kind. -/
theorem Sound.retire (h : l.Sound) (hkind : l.kindAt address = some kind) :
    ∃ l' notices, l.retire kind address = .ok (l', notices) ∧ Notices notices ∧ l'.Sound ∧
      ∀ a, l'.kindAt a = if a = address then none else l.kindAt a := by
  obtain ⟨handles, key, notices, hstrikes, hnotices, hretire⟩ := h.retire_eq hkind
  exact ⟨_, notices, hretire, hnotices, hstrikes.sound h, hstrikes.kindAt h⟩

end Ledger

end OwnedHandles
