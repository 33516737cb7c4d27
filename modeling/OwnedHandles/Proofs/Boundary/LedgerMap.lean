import Mathlib.Data.List.Induction
import OwnedHandles.Proofs.Boundary.LedgerSound
import OwnedHandles.Proofs.Since

/-!
# The ledger as a map

To its users a ledger is a map from addresses to kinds, however often an address is handed out.

- `Ledger.step`, `Ledger.run`: calls to a ledger, those that fail included.
- `kindsAfter log`: the plain map. Tracking sets an address, a successful retirement removes it.
- `Ledger.Moves`: what a call can do to a sound ledger, one rule per way it can go.
- `Ledger.run_refines_map`: after every sequence of calls, the ledger answers as the map does.
-/

namespace OwnedHandles

/-- A call to a ledger. -/
inductive LedgerOp where
  | track (kind : String) (address : Address)
  | check (kind : String) (address : Address)
  | retire (kind : String) (address : Address)
  deriving DecidableEq, Repr

/-- What a call reports, or why it fails. -/
abbrev LedgerOutcome := Except LedgerFault (List Event)

/-- An outcome, and the ledger after it. -/
structure LedgerStep where
  outcome : LedgerOutcome
  after : Ledger

namespace Ledger

/-- What a failed retirement leaves behind. The address is struck out before its entry is released,
so that a failure of the release comes too late to leave everything as it was. -/
def leftBehind (l : Ledger) (address : Address) : LedgerFault → Ledger
  | .defect (.table _) | .defect (.releaseRefused _) => { l with live := l.live.erase address }
  | _ => l

/-- Carries out one call. -/
def step (l : Ledger) : LedgerOp → LedgerStep
  | .track kind address =>
    match l.track kind address with
    | .ok (after, events) => ⟨.ok events, after⟩
    | .error d => ⟨.error (.defect d), l⟩
  | .check kind address =>
    match l.check kind address with
    | .ok () => ⟨.ok [], l⟩
    | .error fault => ⟨.error fault, l⟩
  | .retire kind address =>
    match l.retire kind address with
    | .ok (after, events) => ⟨.ok events, after⟩
    | .error fault => ⟨.error fault, l.leftBehind address fault⟩

/-- Carries out calls one after the other, failures included. -/
def run (l : Ledger) : List LedgerOp → List LedgerOutcome × Ledger
  | [] => ([], l)
  | op :: rest =>
    let first := l.step op
    let (outcomes, last) := first.after.run rest
    (first.outcome :: outcomes, last)

end Ledger

/-! ## The map -/

/-- Calls with their outcomes, the first one in front. -/
abbrev LedgerLog := List (LedgerOp × LedgerOutcome)

/-- The kinds of live handles by address. -/
abbrev KindMap := Address → Option String

namespace KindMap

/-- The map after a call. -/
def record (m : KindMap) : LedgerOp × LedgerOutcome → KindMap
  | (.track kind address, _) => fun a => if a = address then some kind else m a
  | (.retire _ address, .ok _) => fun a => if a = address then none else m a
  | _ => m

/-- The words with which a call ends that expects a kind where the map has another one, or none. -/
def complaint (m : KindMap) (showAddress : Address → String) (call kind : String)
    (address : Address) : String :=
  match m address with
  | some found =>
    s!"contract violation: called `{call}` with a {found} handle " ++
      s!"where a {kind} handle was expected"
  | none =>
    s!"contract violation: called `{call}` with a released or unknown {kind} handle " ++
      s!"({showAddress address})"

end KindMap

/-- The map that calls on an empty ledger lead to. -/
def kindsAfter (log : LedgerLog) : KindMap :=
  log.foldl KindMap.record fun _ => none

@[simp] theorem kindsAfter_concat (log : LedgerLog) (e : LedgerOp × LedgerOutcome) :
    kindsAfter (log ++ [e]) = (kindsAfter log).record e := by
  simp [kindsAfter]

/-- The call tracks a handle of the kind at the address. -/
def Tracks (kind : String) (address : Address) (e : LedgerOp × LedgerOutcome) : Prop :=
  e.1 = .track kind address

/-- After the call, no earlier handle at the address is live: another one has been tracked there, or
the handle there has been retired. -/
def Supersedes (address : Address) (e : LedgerOp × LedgerOutcome) : Prop :=
  (∃ kind, e.1 = .track kind address) ∨ ∃ kind events, e = (.retire kind address, .ok events)

/-- **The map tells the latest handle at an address**, as long as it is live. -/
theorem kindsAfter_eq_some_iff (log : LedgerLog) (kind : String) (address : Address) :
    kindsAfter log address = some kind ↔
      ∃ n, Since (Tracks kind address) (Supersedes address) log n := by
  -- from the end of the log: the last call decides, unless it leaves the address alone
  induction log using List.reverseRecOn with
  | nil =>
    refine iff_of_false (by simp [kindsAfter]) ?_
    rintro ⟨n, hn⟩
    exact not_since_nil hn
  | append_singleton log e ih =>
    rw [kindsAfter_concat, exists_since_concat, ← ih]
    obtain ⟨op, outcome⟩ := e
    cases op with
    | track kind' address' =>
      simp only [KindMap.record, Tracks, Supersedes]
      by_cases ha : address = address'
      · simp [ha, eq_comm]
      · simp [ha, Ne.symm ha]
    | check kind' address' => simp [KindMap.record, Tracks, Supersedes]
    | retire kind' address' =>
      cases outcome with
      | error fault => simp [KindMap.record, Tracks, Supersedes]
      | ok events =>
        simp only [KindMap.record, Tracks, Supersedes]
        by_cases ha : address = address'
        · simp [ha]
        · simp [ha, Ne.symm ha]

/-! ## One call -/

namespace Ledger

/-- What a call can do to a sound ledger. -/
inductive Moves (l : Ledger) : LedgerOp → LedgerStep → Prop
  /-- A handle is entered, and the old one at its address is reported. -/
  | tracked {kind : String} {address : Address} {notices : List Event} {after : Ledger}
      (own : Notices notices) (sound : after.Sound)
      (kinds : ∀ a, after.kindAt a = if a = address then some kind else l.kindAt a) :
      Moves l (.track kind address)
        ⟨.ok (notices ++ (l.kindAt address).toList.map (.displaced · address)), after⟩
  /-- The handle is live and of the expected kind. -/
  | approved {kind : String} {address : Address} (live : l.kindAt address = some kind) :
      Moves l (.check kind address) ⟨.ok [], l⟩
  /-- The handle is struck out. -/
  | retired {kind : String} {address : Address} {notices : List Event} {after : Ledger}
      (live : l.kindAt address = some kind) (own : Notices notices) (sound : after.Sound)
      (kinds : ∀ a, after.kindAt a = if a = address then none else l.kindAt a) :
      Moves l (.retire kind address) ⟨.ok notices, after⟩
  /-- The handle is turned down, and nothing happens. -/
  | refused {op : LedgerOp} {kind : String} {address : Address} {fault : LedgerFault}
      (about : op = .check kind address ∨ op = .retire kind address)
      (verdict : l.check kind address = .error fault) : Moves l op ⟨.error fault, l⟩

variable {l : Ledger}

/-- **Every call goes by one of the rules.** -/
theorem Sound.moves (h : l.Sound) (op : LedgerOp) : l.Moves op (l.step op) := by
  cases op with
  | track kind address =>
    obtain ⟨after, notices, htrack, hown, hsound, hkinds⟩ := h.track kind address
    rw [step, htrack]
    exact .tracked hown hsound hkinds
  | check kind address =>
    rw [step]
    cases hcheck : l.check kind address with
    | ok _ => exact .approved ((check_eq_ok_iff l kind address).mp hcheck)
    | error fault => exact .refused (.inl rfl) hcheck
  | retire kind address =>
    rw [step]
    cases hcheck : l.check kind address with
    | ok _ =>
      have hlive := (check_eq_ok_iff l kind address).mp hcheck
      obtain ⟨after, notices, hretire, hown, hsound, hkinds⟩ := h.retire hlive
      rw [hretire]
      exact .retired hlive hown hsound hkinds
    | error fault =>
      -- a verdict comes before the address is struck out
      have hleft : l.leftBehind address fault = l := by
        rcases (check_eq_error_iff l kind address fault).mp hcheck with ⟨_, -, -, rfl⟩ | ⟨-, rfl⟩
        · rfl
        · rfl
      rw [retire_of_check_eq_error hcheck]
      simp only [hleft]
      exact .refused (.inr rfl) hcheck

/-- The ledger is sound and has the kinds of the map. -/
structure Represents (l : Ledger) (m : KindMap) : Prop where
  sound : l.Sound
  kinds : ∀ address, l.kindAt address = m address

theorem represents_empty : Represents Ledger.empty (kindsAfter []) where
  sound := sound_empty
  kinds _ := sound_empty.kindAt_eq_none_iff.mpr (by simp [Ledger.empty])

/-- A call moves ledger and map alike. -/
theorem Represents.step {m : KindMap} (h : l.Represents m) (op : LedgerOp) :
    (l.step op).after.Represents (m.record (op, (l.step op).outcome)) := by
  have hmoves := h.sound.moves op
  generalize l.step op = s at hmoves
  cases hmoves with
  | tracked own sound kinds =>
    refine ⟨sound, fun a => ?_⟩
    rw [kinds, h.kinds]
    rfl
  | approved live => exact h
  | retired live own sound kinds =>
    refine ⟨sound, fun a => ?_⟩
    rw [kinds, h.kinds]
    rfl
  | refused about verdict =>
    rcases about with rfl | rfl
    · exact h
    · exact h

/-- Calls one after the other move ledger and map alike. -/
theorem Represents.run {log : LedgerLog} (h : l.Represents (kindsAfter log))
    (ops : List LedgerOp) :
    (l.run ops).2.Represents (kindsAfter (log ++ ops.zip (l.run ops).1)) := by
  -- the calls are taken from the front, while the log grows at its end
  induction ops generalizing l log with
  | nil => rwa [List.zip_nil_left, List.append_nil]
  | cons op rest ih =>
    have hfirst := h.step op
    rw [← kindsAfter_concat] at hfirst
    have hrest := ih hfirst
    rwa [List.append_assoc] at hrest

theorem length_run (l : Ledger) (ops : List LedgerOp) : (l.run ops).1.length = ops.length := by
  induction ops generalizing l with
  | nil => rfl
  | cons op rest ih => exact congrArg Nat.succ (ih _)

/-- A retirement is turned down as a check is. -/
theorem Sound.retire_map (h : l.Sound) (kind : String) (address : Address) :
    (l.retire kind address).map (fun _ => ()) = l.check kind address := by
  cases hcheck : l.check kind address with
  | ok _ =>
    obtain ⟨after, notices, hretire, -⟩ := h.retire ((check_eq_ok_iff l kind address).mp hcheck)
    rw [hretire]
    rfl
  | error fault =>
    rw [retire_of_check_eq_error hcheck]
    rfl

/-- **The ledger is a map from addresses to kinds.** After every sequence of calls on the empty
ledger, whatever addresses are used and used again:

- A handle is approved or retired iff the map has the expected kind at its address, that is, iff the
  latest handle tracked there is of that kind and still live.
- It is turned down for its kind iff the map has another one there, and as unknown iff the map has
  none. There is no other reason, and the words follow the map.
- A new handle is always entered. It displaces an old one, under the kind of the old one, iff the
  map has the address.
- A call that fails leaves the ledger as it is. -/
theorem run_refines_map (ops : List LedgerOp) :
    ∃ outcomes l, Ledger.empty.run ops = (outcomes, l) ∧ outcomes.length = ops.length ∧
      (∀ kind address,
        (l.check kind address = .ok () ↔ kindsAfter (ops.zip outcomes) address = some kind) ∧
        (l.check kind address = .ok () ↔
          ∃ n, Since (Tracks kind address) (Supersedes address) (ops.zip outcomes) n) ∧
        (∀ found, l.check kind address = .error (.wrongKind found kind) ↔
          kindsAfter (ops.zip outcomes) address = some found ∧ found ≠ kind) ∧
        (l.check kind address = .error (.notLive kind address) ↔
          kindsAfter (ops.zip outcomes) address = none) ∧
        (∀ fault showAddress call, l.check kind address = .error fault →
          fault.message showAddress call =
            (kindsAfter (ops.zip outcomes)).complaint showAddress call kind address) ∧
        (l.retire kind address).map (fun _ => ()) = l.check kind address ∧
        ∃ after notices, Notices notices ∧ l.track kind address = .ok (after, notices ++
          (kindsAfter (ops.zip outcomes) address).toList.map (.displaced · address))) ∧
      ∀ op fault, (l.step op).outcome = .error fault →
        (l.step op).after = l ∧ ∀ d, fault ≠ .defect d := by
  have hrun := represents_empty.run ops
  rw [List.nil_append] at hrun
  obtain ⟨hsound, hkinds⟩ := hrun
  refine ⟨_, _, rfl, length_run _ _, ?_, ?_⟩
  · intro kind address
    have hchecked := (check_eq_ok_iff _ kind address).trans (iff_of_eq (by rw [hkinds address]))
    refine ⟨hchecked, hchecked.trans (kindsAfter_eq_some_iff _ kind address), ?_, ?_, ?_,
      hsound.retire_map kind address, ?_⟩
    · intro found
      rw [check_eq_error_iff, hkinds]
      simp
    · rw [check_eq_error_iff, hkinds]
      simp
    · intro fault showAddress call hfault
      rw [check_eq_error_iff, hkinds] at hfault
      rcases hfault with ⟨found, hfound, -, rfl⟩ | ⟨hnone, rfl⟩
      · rw [KindMap.complaint, hfound]
        rfl
      · rw [KindMap.complaint, hnone]
        rfl
    · obtain ⟨after, notices, htrack, hown, -, -⟩ := hsound.track kind address
      rw [hkinds] at htrack
      exact ⟨after, notices, hown, htrack⟩
  · intro op fault hfault
    have hmoves := hsound.moves op
    generalize Ledger.step _ op = s at hmoves hfault
    cases hmoves with
    | refused about verdict =>
      cases hfault
      rcases (check_eq_error_iff _ _ _ _).mp verdict with ⟨_, -, -, rfl⟩ | ⟨-, rfl⟩
      · exact ⟨rfl, by simp⟩
      · exact ⟨rfl, by simp⟩
    | _ => cases hfault

end Ledger

end OwnedHandles
