import OwnedHandles.Proofs.Boundary.Store

/-!
# Calls under other addresses

What a call makes of a payload does not depend on the address that the payload lies at. So one store
may lie within another one, each payload at an address of its own there, and a call goes the same
way in both.

- `Call.mapHandle`: the same call on another handle.
- `Call.creates`, `Call.givesBack`: what a call will do to the handles, as is plain from the call.
- `Reply.handles`, `Reply.apparent`, `Reply.flag?`: the parts of a reply that depend on the rest of
  the program, and the reply without them.
- `Store.PlacedIn`: one store lies within another one.
- `Store.Parallel`: the four ways that a call can go in both.
- `Store.PlacedIn.step`: a call that comes to its end in the one does so in the other, in one of
  these ways.
- `Store.flag_step`: the event filter, of which there is one for all.
-/

namespace OwnedHandles

namespace Call

/-- The same call on another handle. -/
def mapHandle (place : Address → Address) : Call → Call
  | .add a b => .add a b
  | .counterNew initial => .counterNew initial
  | .counterCount h delta => .counterCount (place h) delta
  | .counterGetCount h => .counterGetCount (place h)
  | .counterDrop h => .counterDrop (place h)
  | .textNew text => .textNew text
  | .textBytes h => .textBytes (place h)
  | .textLength h => .textLength (place h)
  | .textDrop h => .textDrop (place h)
  | .personNew given family => .personNew given family
  | .personFullName h => .personFullName (place h)
  | .personGivenName h => .personGivenName (place h)
  | .personFamilyName h => .personFamilyName (place h)
  | .personDrop h => .personDrop (place h)
  | .now => .now
  | .elapsed h => .elapsed (place h)
  | .instantDrop h => .instantDrop (place h)
  | .printDuration h => .printDuration (place h)
  | .durationNanos h => .durationNanos (place h)
  | .durationSeconds h => .durationSeconds (place h)
  | .durationRender h => .durationRender (place h)
  | .durationRenderWith h unit places => .durationRenderWith (place h) unit places
  | .durationDrop h => .durationDrop (place h)
  | .logInit filter => .logInit filter

/-- The kind of the handle that a call hands out. -/
def creates : Call → Option Kind
  | .counterNew _ => some .counter
  | .textNew _ | .personFullName _ | .durationRender _ | .durationRenderWith _ _ _ => some .text
  | .personNew _ _ => some .person
  | .now => some .instant
  | .elapsed _ => some .duration
  | _ => none

/-- The handle that a call gives back. -/
def givesBack (call : Call) : Option Address :=
  if call.isDrop then call.subject.map Prod.snd else none

/-- A call that gives nothing back gives back null at most. -/
theorem kept_of_none {call : Call} (h : call.givesBack = none) (n : Address)
    (hn : call.givesBack = some n) : n = nullAddress := by
  rw [h] at hn
  cases hn

/-- Tells whether the call asks for an event filter to be installed. -/
def isInstall : Call → Bool
  | .logInit _ => true
  | _ => false

theorem isInstall_eq_true_iff {call : Call} :
    call.isInstall = true ↔ ∃ filter, call = .logInit filter := by
  cases call <;> simp [isInstall]

@[simp] theorem isInstall_mapHandle (place : Address → Address) (call : Call) :
    (call.mapHandle place).isInstall = call.isInstall := by
  cases call <;> rfl

end Call

namespace Reply

/-- The addresses that a reply hands out, one or none. -/
def handles : Reply → List Address
  | .handle _ address => [address]
  | _ => []

/-- A reply without what depends on the rest of the program: the address of a new handle is the
allocator's choice, and a flag tells of the event filter that all share. -/
def apparent : Reply → Reply
  | .handle kind _ => .handle kind nullAddress
  | .flag _ => .nothing
  | reply => reply

/-- The flag that a reply consists of. -/
def flag? : Reply → Option Bool
  | .flag b => some b
  | _ => none

end Reply

namespace Store

/-- The payloads of a store lie in another one, each at a place of its own. -/
structure PlacedIn (own shared : Store) (place : Address → Address) : Prop where
  null : place nullAddress = nullAddress
  found : ∀ n cell, own.cells n = some cell →
    place n ≠ nullAddress ∧ shared.cells (place n) = some cell

/-- The ways that a call can go, in a store and in the one that it lies in: both keep their
payloads, or both create, change or drop one. -/
inductive Parallel (own shared : Store) (place : Address → Address) (number fresh : Address)
    (call : Call) : Answer → Answer → Prop
  | keeps {reply reply' : Reply} {printed printed' : String} {filter filter' : Option Filter}
      {output output' : LineOutput} (same : reply'.apparent = reply.apparent)
      (plain : reply.handles = []) (plain' : reply'.handles = []) (unmade : call.creates = none)
      (kept : ∀ n, call.givesBack = some n → n = nullAddress) :
      Parallel own shared place number fresh call ⟨reply, printed, ⟨own.cells, filter, output⟩⟩
        ⟨reply', printed', ⟨shared.cells, filter', output'⟩⟩
  | creates (cell : Cell) (made : call.creates = some cell.kind) :
      Parallel own shared place number fresh call (own.handOut number cell)
        (shared.handOut fresh cell)
  | changes {n : Address} {old new : Cell} (found : own.cells n = some old)
      (sort : new.kind = old.kind) (unmade : call.creates = none)
      (kept : call.givesBack = none) :
      Parallel own shared place number fresh call ⟨.nothing, "", own.put n new⟩
        ⟨.nothing, "", shared.put (place n) new⟩
  | drops {n : Address} {old : Cell} (found : own.cells n = some old)
      (unmade : call.creates = none) (given : call.givesBack = some n) :
      Parallel own shared place number fresh call ⟨.nothing, "", own.remove n⟩
        ⟨.nothing, "", shared.remove (place n)⟩

namespace PlacedIn

variable {own shared : Store} {place : Address → Address} {number fresh n : Address} {kind : Kind}
  {call : Call} {answer : Answer}

/-- A store lies within itself. -/
theorem refl (h : ∀ cell, own.cells nullAddress ≠ some cell) : own.PlacedIn own id where
  null := rfl
  found _ cell hcell := ⟨fun hnull => h cell (hnull ▸ hcell), hcell⟩

/-- A payload is found in both stores. -/
theorem demand (h : own.PlacedIn shared place) {payload : kind.Payload}
    (hfound : own.demand kind n = .ok payload) : shared.demand kind (place n) = .ok payload :=
  (demand_eq_ok_iff payload).mpr (h.found n _ ((demand_eq_ok_iff payload).mp hfound).2)

/-- A use goes the same way in both if its results do. -/
theorem use (h : own.PlacedIn shared place) {result result' : kind.Payload → Answer}
    (hown : own.use kind n result = .ok answer)
    (hgoes : ∀ payload, own.cells n = some ⟨kind, payload⟩ →
      own.Parallel shared place number fresh call (result payload) (result' payload)) :
    ∃ answer', shared.use kind (place n) result' = .ok answer' ∧
      own.Parallel shared place number fresh call answer answer' := by
  obtain ⟨payload, hfound, rfl⟩ := use_eq_ok_iff.mp hown
  refine ⟨_, use_eq_ok_iff.mpr ⟨payload, h.demand hfound, rfl⟩, hgoes payload ?_⟩
  exact ((demand_eq_ok_iff payload).mp hfound).2

/-- A handle is given back in both. -/
theorem discard (h : own.PlacedIn shared place) (hown : own.discard kind n = .ok answer)
    (unmade : call.creates = none) (given : call.givesBack = some n) :
    ∃ answer', shared.discard kind (place n) = .ok answer' ∧
      own.Parallel shared place number fresh call answer answer' := by
  unfold Store.discard at hown ⊢
  by_cases hnull : n = nullAddress
  · rw [if_pos hnull] at hown
    rw [hnull, h.null, if_pos rfl]
    cases hown
    refine ⟨_, rfl, .keeps rfl rfl rfl unmade fun m hm => ?_⟩
    exact (Option.some.inj (given.symm.trans hm)).symm.trans hnull
  · rw [if_neg hnull] at hown
    obtain ⟨payload, hfound, -⟩ := use_eq_ok_iff.mp hown
    have hplace := ((demand_eq_ok_iff payload).mp (h.demand hfound)).1
    rw [if_neg hplace]
    exact h.use hown fun payload hcell => .drops hcell unmade given

/-- **A call goes the same way in both stores.** -/
theorem step (h : own.PlacedIn shared place) {world : Surroundings}
    (hown : own.step { world with freshAddress := number } call = .ok answer) :
    ∃ answer', shared.step world (call.mapHandle place) = .ok answer' ∧
      own.Parallel shared place number world.freshAddress call answer answer' := by
  cases call with
  | add =>
    cases hown
    exact ⟨_, rfl, .keeps rfl rfl rfl rfl (Call.kept_of_none rfl)⟩
  | counterNew | now =>
    cases hown
    exact ⟨_, rfl, .creates _ rfl⟩
  | textNew text =>
    cases text with
    | none => cases hown
    | some memory =>
      cases hown
      exact ⟨_, rfl, .creates _ rfl⟩
  | personNew given family =>
    cases given <;> cases family <;> cases hown
    exact ⟨_, rfl, .creates _ rfl⟩
  | counterCount => exact h.use hown fun c hcell => .changes hcell rfl rfl rfl
  | counterGetCount | textBytes | textLength | personGivenName | personFamilyName | printDuration
  | durationNanos | durationSeconds =>
    exact h.use hown fun payload _ => .keeps rfl rfl rfl rfl (Call.kept_of_none rfl)
  | personFullName | elapsed | durationRender | durationRenderWith =>
    exact h.use hown fun payload _ => .creates _ rfl
  | counterDrop | textDrop | personDrop | instantDrop | durationDrop =>
    exact h.discard hown rfl rfl
  | logInit filter =>
    -- each store has a filter of its own, and the flags may differ
    rw [Store.step] at hown
    rw [Call.mapHandle, Store.step]
    cases hchosen : Filter.choose world.filterVariable (Call.filterText filter) with
    | error straddle => simp [hchosen] at hown
    | ok chosen =>
      simp only [hchosen] at hown
      cases hown
      refine ⟨_, rfl, ?_⟩
      unfold install
      cases own.filter <;> cases shared.filter <;> exact .keeps rfl rfl rfl rfl (Call.kept_of_none rfl)

end PlacedIn

/-! ## The event filter -/

variable {s : Store} {world : Surroundings} {call : Call} {result : Answer}

/-- The first installation stays, and it is the only one that succeeds. -/
theorem install_first {filter : TextArg} (h : s.step world (.logInit filter) = .ok result) :
    result.reply = .flag s.filter.isNone ∧ result.after.filter.isSome = true := by
  rw [step] at h
  split at h
  · cases h
  · cases h
    unfold install
    split
    · rename_i hnone
      rw [hnone]
      exact ⟨rfl, rfl⟩
    · rename_i installed hsome
      rw [answer, hsome]
      exact ⟨rfl, rfl⟩

theorem filter_discard {kind : Kind} {handle : Address}
    (h : s.discard kind handle = .ok result) :
    result.after.filter = s.filter ∧ result.reply.flag? = none := by
  unfold discard at h
  split at h
  · cases h
    exact ⟨rfl, rfl⟩
  · obtain ⟨payload, -, rfl⟩ := use_eq_ok_iff.mp h
    exact ⟨rfl, rfl⟩

/-- No other call touches the filter or answers with a flag. -/
theorem filter_of_not_install (h : s.step world call = .ok result)
    (hcall : call.isInstall = false) :
    result.after.filter = s.filter ∧ result.reply.flag? = none := by
  cases call with
  | add | counterNew | now =>
    cases h
    exact ⟨rfl, rfl⟩
  | textNew text =>
    cases text <;> cases h
    exact ⟨rfl, rfl⟩
  | personNew given family =>
    cases given <;> cases family <;> cases h
    exact ⟨rfl, rfl⟩
  | counterCount | counterGetCount | textBytes | textLength | personGivenName | personFamilyName
  | printDuration | durationNanos | durationSeconds | personFullName | elapsed | durationRender
  | durationRenderWith =>
    obtain ⟨payload, -, rfl⟩ := use_eq_ok_iff.mp h
    exact ⟨rfl, rfl⟩
  | counterDrop | textDrop | personDrop | instantDrop | durationDrop =>
    exact filter_discard h
  | logInit => cases hcall

/-- A call answers with a flag iff it asks for a filter, and a filter that is there stays there. -/
theorem flag_step (h : s.step world call = .ok result) :
    result.reply.flag? = (if call.isInstall then some (!s.filter.isSome) else none) ∧
      result.after.filter.isSome = (s.filter.isSome || call.isInstall) := by
  cases hcall : call.isInstall with
  | false =>
    obtain ⟨hfilter, hflag⟩ := filter_of_not_install h hcall
    rw [hfilter, hflag, Bool.or_false]
    exact ⟨rfl, rfl⟩
  | true =>
    obtain ⟨filter, rfl⟩ := Call.isInstall_eq_true_iff.mp hcall
    obtain ⟨hreply, hfilter⟩ := install_first h
    rw [hreply, hfilter, Bool.or_true, Option.not_isSome]
    exact ⟨rfl, rfl⟩

end Store

end OwnedHandles
