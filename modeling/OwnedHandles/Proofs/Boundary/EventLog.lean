import OwnedHandles.Proofs.Boundary.LedgerMap
import OwnedHandles.Proofs.Boundary.Refinement

/-!
# The event log

The machine reports what it does to memory, and the ledger reports the entries that are displaced.
While the program runs, nobody compares these reports with the ledger. Read back in order, they lead
to just the handles that are live in it.

- `replayed log`: the plain map. A creation sets its address, a release removes it.
- `Placed`: where an event may stand in a log, one rule per kind of report. `Faithful`: all events
  of a log stand where they may.
- `Boundary.Logged`: ledger, payloads and log belong together.
- `Boundary.Logged.step`: one call, at whatever address the allocator has ready.
- `Boundary.events_reproduce_ledger`: every run from the empty boundary.

The allocator is not trusted: an address may be handed out again while it still counts as live.
-/

namespace OwnedHandles

/-! ## Reading a log back -/

/-- The address of the handle that an event is about. -/
def Event.address? : Event → Option Address
  | .created _ address | .released _ address | .consumed _ address | .displaced _ address =>
    some address
  | .slotRetired .. | .fullNameDerived .. | .durationDerived .. | .printFailed .. => none

/-- The events are about no handle. -/
def Quiet (events : List Event) : Prop :=
  ∀ e ∈ events, e.address? = none

theorem quiet_nil : Quiet [] := by
  intro e he
  cases he

theorem quiet_singleton {e : Event} (silent : e.address? = none) : Quiet [e] := by
  intro e' he
  rwa [List.mem_singleton.mp he]

/-- The map after an event. -/
def KindMap.replay (m : KindMap) : Event → KindMap
  | .created kind address => fun a => if a = address then some kind else m a
  | .released _ address => fun a => if a = address then none else m a
  | _ => m

/-- The map that a log leads to. -/
def replayed (log : List Event) : KindMap :=
  log.foldl KindMap.replay fun _ => none

variable {log events before after heads notices : List Event} {e : Event} {kind found : String}
  {address : Address}

/-- What a ledger reports of its own table is about no handle. -/
theorem Ledger.Notices.quiet (h : Ledger.Notices events) : Quiet events := by
  intro e he
  obtain ⟨index, rfl⟩ := h e he
  rfl

/-- An event that is about no handle leaves the map alone. -/
theorem KindMap.replay_of_quiet (m : KindMap) (h : e.address? = none) : m.replay e = m := by
  cases e with
  | created | released | consumed | displaced => cases h
  | slotRetired | fullNameDerived | durationDerived | printFailed => rfl

theorem KindMap.foldl_replay_of_quiet (h : Quiet events) (m : KindMap) :
    events.foldl KindMap.replay m = m := by
  induction events with
  | nil => rfl
  | cons e rest ih =>
    rw [List.foldl_cons, m.replay_of_quiet (h e List.mem_cons_self)]
    exact ih fun e' he' => h e' (List.mem_cons_of_mem e he')

theorem replayed_append (log events : List Event) :
    replayed (log ++ events) = events.foldl KindMap.replay (replayed log) :=
  List.foldl_append

theorem replayed_append_quiet (log : List Event) (h : Quiet events) :
    replayed (log ++ events) = replayed log := by
  rw [replayed_append, KindMap.foldl_replay_of_quiet h]

/-! ## The place of an event -/

/-- Where an event may stand in a log, between the events before and after it. -/
inductive Placed (before after : List Event) : Event → Prop
  /-- The event is about no handle. -/
  | quiet {e : Event} (silent : e.address? = none) : Placed before after e
  /-- A handle is created at an address that is not in use. -/
  | created {kind : String} {address : Address} (free : replayed before address = none) :
      Placed before after (.created kind address)
  /-- A handle is created at an address that is in use, and the handle that was there is reported
  next, save for notices of the ledger. -/
  | reused {kind found : String} {address : Address} {notices rest : List Event}
      (used : replayed before address = some found) (own : Ledger.Notices notices)
      (next : after = notices ++ .displaced found address :: rest) :
      Placed before after (.created kind address)
  /-- A handle has just been created at an address that was in use, under the kind reported. -/
  | displaced {kind found : String} {address : Address} {earlier notices : List Event}
      (used : replayed earlier address = some found) (own : Ledger.Notices notices)
      (previous : before = earlier ++ .created kind address :: notices) :
      Placed before after (.displaced found address)
  /-- A handle is released under the kind that it has. -/
  | released {kind : String} {address : Address} (live : replayed before address = some kind) :
      Placed before after (.released kind address)

/-- Every event stands where it may. -/
def Faithful (log : List Event) : Prop :=
  ∀ before e after, log = before ++ e :: after → Placed before after e

/-- An event keeps its place when the log goes on. -/
theorem Placed.append (h : Placed before after e) (more : List Event) :
    Placed before (after ++ more) e := by
  cases h with
  | quiet silent => exact .quiet silent
  | created free => exact .created free
  | reused used own next => exact .reused used own (by rw [next, List.append_assoc]; rfl)
  | displaced used own previous => exact .displaced used own previous
  | released live => exact .released live

theorem faithful_nil : Faithful [] := by
  intro before e after hlog
  simp at hlog

/-- An event of a log that has gone on is an old one or a new one. -/
theorem append_eq_append_cons (h : log ++ events = before ++ e :: after) :
    (∃ rest, log = before ++ e :: rest ∧ after = rest ++ events) ∨
      ∃ within, before = log ++ within ∧ events = within ++ e :: after := by
  rcases List.append_eq_append_iff.mp h with ⟨within, hbefore, hevents⟩ | ⟨rest, hlog, hrest⟩
  · exact .inr ⟨within, hbefore, hevents⟩
  · cases rest with
    | nil => exact .inr ⟨[], by simpa using hlog.symm, by simpa using hrest.symm⟩
    | cons first rest =>
      obtain ⟨rfl, rfl⟩ := List.cons.inj hrest
      exact .inl ⟨rest, hlog, rfl⟩

/-- A log may go on with events that stand where they may. -/
theorem Faithful.append (h : Faithful log)
    (hnew : ∀ within e after, events = within ++ e :: after → Placed (log ++ within) after e) :
    Faithful (log ++ events) := by
  intro before e after hlog
  rcases append_eq_append_cons hlog with ⟨rest, hold, rfl⟩ | ⟨within, rfl, hevents⟩
  · exact (h before e rest hold).append events
  · exact hnew within e after hevents

theorem Faithful.append_quiet (h : Faithful log) (hquiet : Quiet events) :
    Faithful (log ++ events) := by
  refine h.append fun within e after hevents => .quiet (hquiet e ?_)
  rw [hevents]
  exact List.mem_append_right within List.mem_cons_self

theorem Faithful.concat (h : Faithful log) (hlast : Placed log [] e) : Faithful (log ++ [e]) := by
  refine h.append fun within e' after hevents => ?_
  cases within with
  | nil =>
    cases hevents
    rwa [List.append_nil]
  | cons first within => simp at hevents

/-- A handle may be created at an address that is in use. -/
theorem Faithful.append_reused (h : Faithful log) (used : replayed log address = some found)
    (own : Ledger.Notices notices) :
    Faithful (log ++ .created kind address :: (notices ++ [.displaced found address])) := by
  refine h.append fun within e after hevents => ?_
  cases within with
  | nil =>
    cases hevents
    refine .reused ?_ own rfl
    rwa [List.append_nil]
  | cons first within =>
    -- past the creation, there are notices up to the report at the end
    obtain ⟨rfl, hrest⟩ := List.cons.inj hevents
    rcases append_eq_append_cons hrest with ⟨rest, rfl, -⟩ | ⟨past, rfl, hlast⟩
    · exact .quiet (own.quiet e (List.mem_append_right within List.mem_cons_self))
    · cases past with
      | nil =>
        cases hlast
        rw [List.append_nil]
        exact .displaced used own rfl
      | cons => simp at hlast

/-! ## Logs that go on -/

/-- What is reported of a new handle, and of the one that it displaces. -/
def creation (kind : String) (address : Address) (notices : List Event) (old : Option String) :
    List Event :=
  .created kind address :: (notices ++ old.toList.map (.displaced · address))

/-- A handle may be created at any address, if the handle that it displaces is reported. -/
theorem Faithful.append_creation (h : Faithful log) (own : Ledger.Notices notices) :
    Faithful (log ++ creation kind address notices (replayed log address)) := by
  unfold creation
  cases hold : replayed log address with
  | none =>
    have hcreated : Faithful (log ++ [.created kind address] ++ notices) :=
      (h.concat (.created hold)).append_quiet own.quiet
    simpa using hcreated
  | some found => exact h.append_reused hold own

theorem replayed_append_creation (log : List Event) (own : Ledger.Notices notices)
    (old : Option String) (a : Address) :
    replayed (log ++ creation kind address notices old) a =
      if a = address then some kind else replayed log a := by
  rw [replayed_append, creation, List.foldl_cons, List.foldl_append,
    KindMap.foldl_replay_of_quiet own.quiet]
  cases old <;> rfl

theorem replayed_append_released (log : List Event) (kind : String) (address a : Address) :
    replayed (log ++ [.released kind address]) a =
      if a = address then none else replayed log a := by
  rw [replayed_append]
  rfl

/-! ## The events of a call -/

/-- What an effect reports by itself. -/
def Effect.reports {kind : Kind} : Effect kind → List Event
  | .derive _ events => events
  | _ => []

theorem Call.quiet_rendered (text : String) : Quiet (rendered text).reports := by
  unfold rendered
  split <;> exact quiet_nil

/-- What a call reports of a payload is about no handle. -/
theorem Call.quiet_reports (world : Surroundings) (call : Call) {kind : Kind} {handle : Address}
    {effect : kind.Payload → Effect kind} (h : call.action world = .use kind handle effect)
    (payload : kind.Payload) : Quiet (effect payload).reports := by
  cases call with
  | add | counterNew | counterDrop | textDrop | personDrop | now | instantDrop | durationDrop
  | logInit => cases h
  | textNew text => cases text <;> cases h
  | personNew given family => cases given <;> cases family <;> cases h
  | counterCount | counterGetCount | textBytes | textLength | personGivenName | personFamilyName
  | printDuration | durationNanos | durationSeconds =>
    cases h
    exact quiet_nil
  | personFullName =>
    cases h
    unfold fullName
    split
    · exact quiet_singleton rfl
    · exact quiet_nil
  | elapsed =>
    cases h
    exact quiet_singleton rfl
  | durationRender | durationRenderWith =>
    cases h
    exact quiet_rendered _

/-- The payload of a cell is of its kind. -/
theorem Cell.kind_of_as? {cell : Cell} {kind : Kind} {payload : kind.Payload}
    (h : cell.as? kind = some payload) : cell.kind = kind := by
  unfold as? at h
  split at h
  · assumption
  · cases h

namespace Boundary

/-- Ledger, payloads and log belong together. -/
structure Logged (b : Boundary) (log : List Event) : Prop where
  sound : b.ledger.Sound
  payloads : ∀ a, b.ledger.kindAt a = (b.heap[a]?).map fun cell => cell.kind.name
  kinds : ∀ a, b.ledger.kindAt a = replayed log a
  faithful : Faithful log

theorem logged_empty : Logged Boundary.empty [] where
  sound := coherent_empty.ledger
  payloads := coherent_empty.kinds
  kinds a := by
    rw [coherent_empty.kinds]
    simp [Boundary.empty, replayed]
  faithful := faithful_nil

end Boundary

/-- A step adds its events to a log. A call that ends the program adds none about a handle. -/
structure BoundaryStep.Adds (s : BoundaryStep) (log : List Event) : Prop where
  logged : s.after.Logged (log ++ s.events)
  aborted : ∀ abort, s.outcome = .error abort → Quiet s.events

namespace Boundary

variable {b : Boundary} {call : String} {kind : Kind} {handle : Address}

/-- A payload that is borrowed lies in the heap under its kind. -/
theorem kind_of_borrow {payload : kind.Payload} (h : b.borrow kind handle = .ok payload) :
    (b.heap[handle]?).map (fun cell => cell.kind.name) = some kind.name := by
  unfold borrow at h
  simp only at h
  split at h
  · cases h
  · split at h
    · cases h
    · rename_i cell hload
      split at h
      · rename_i found hfound
        rw [((b.heap.load_eq_ok_iff handle cell).mp hload).2, ← Cell.kind_of_as? hfound]
        rfl
      · cases h

namespace Logged

/-! ## One call -/

/-- Ledger, heap and log may change at one address, as long as they change alike. -/
theorem replace (h : b.Logged log) {heap : Heap Cell} {ledger : Ledger} {address : Address}
    {new : Option Cell} {log' : List Event} (sound : ledger.Sound)
    (kinds : ∀ a, ledger.kindAt a =
      if a = address then new.map fun cell => cell.kind.name else b.ledger.kindAt a)
    (heaps : ∀ a, heap[a]? = if a = address then new else b.heap[a]?)
    (logs : ∀ a, replayed log' a =
      if a = address then new.map fun cell => cell.kind.name else replayed log a)
    (faithful : Faithful log') : Logged { b with heap, ledger } log' := by
  refine ⟨sound, kindAt_eq_of_replaced h.payloads kinds heaps, fun a => ?_, faithful⟩
  show ledger.kindAt a = _
  rw [kinds, logs, h.kinds]

/-- The log may go on with events that are about no handle. -/
theorem append_quiet (h : b.Logged log) (hquiet : Quiet events) : b.Logged (log ++ events) where
  sound := h.sound
  payloads := h.payloads
  kinds a := by rw [replayed_append_quiet log hquiet, h.kinds]
  faithful := h.faithful.append_quiet hquiet

/-- Filter and output do not matter. -/
theorem of_eq (h : b.Logged log) {b' : Boundary} (heap : b'.heap = b.heap)
    (ledger : b'.ledger = b.ledger) : b'.Logged log where
  sound := ledger ▸ h.sound
  payloads a := by rw [heap, ledger, h.payloads]
  kinds a := by rw [ledger, h.kinds]
  faithful := h.faithful

theorem abort (h : b.Logged log) (violation : Violation) :
    (b.abort call violation).Adds log where
  logged := h.append_quiet quiet_nil
  aborted _ _ := quiet_nil

theorem answer (h : b.Logged log) (reply : Reply) :
    BoundaryStep.Adds ⟨.ok reply, b, [], ""⟩ log where
  logged := h.append_quiet quiet_nil
  aborted _ _ := quiet_nil

theorem print (h : b.Logged log) (line : String) (fault : Option String) :
    (b.print line fault).Adds log := by
  have hquiet : Quiet (fault.map Event.printFailed).toList := by
    cases fault with
    | none => exact quiet_nil
    | some reason => exact quiet_singleton rfl
  exact ⟨(h.append_quiet hquiet).of_eq rfl rfl, fun _ _ => hquiet⟩

/-- **A new handle** is entered and reported, and with it the one that it displaces. -/
theorem handOut (h : b.Logged log) (call : String) (fresh : Address) (cell : Cell)
    (hheads : Quiet heads) : (b.handOut call fresh cell heads).Adds log := by
  have hlog := h.append_quiet hheads
  obtain ⟨ledger, notices, htrack, hown, hsound, hkinds⟩ := h.sound.track cell.kind.name fresh
  rw [hlog.kinds] at htrack
  rw [Boundary.handOut, htrack]
  refine ⟨?_, fun abort houtcome => by cases houtcome⟩
  -- what is reported beforehand is about no handle, so that it may count as part of the old log
  have hevents : ∀ old : Option String,
      log ++ (heads ++ [.created cell.kind.name fresh] ++
        (notices ++ old.toList.map (.displaced · fresh))) =
      log ++ heads ++ creation cell.kind.name fresh notices old := by simp [creation]
  simp only [hevents]
  exact hlog.replace hsound hkinds (getElem?_insertAt b.heap fresh cell)
    (replayed_append_creation _ hown _) (hlog.faithful.append_creation hown)

/-- **A handle that is given back** is struck out and reported under its kind. -/
theorem release (h : b.Logged log) (call : String) (kind : Kind) (handle : Address) :
    (b.release call kind handle).Adds log := by
  unfold Boundary.release
  by_cases hnull : handle = nullAddress
  · rw [if_pos hnull]
    exact h.answer .nothing
  · rw [if_neg hnull]
    cases hcheck : b.ledger.check kind.name handle with
    | error fault =>
      rw [Ledger.retire_of_check_eq_error hcheck]
      exact h.abort _
    | ok _ =>
      have hlive := (Ledger.check_eq_ok_iff _ _ _).mp hcheck
      obtain ⟨ledger, notices, hretire, hown, hsound, hkinds⟩ := h.sound.retire hlive
      have hlog := h.append_quiet hown.quiet
      obtain ⟨cell, hcell, -⟩ := Option.map_eq_some_iff.mp ((h.payloads handle).symm.trans hlive)
      have hfree : b.heap.free handle = .ok (some cell, b.heap.erase handle) := by
        rw [Heap.free, if_neg hnull, Heap.take, (b.heap.load_eq_ok_iff _ _).mpr ⟨hnull, hcell⟩]
      rw [hretire]
      simp only [hfree]
      refine ⟨?_, fun abort houtcome => by cases houtcome⟩
      show Logged _ (log ++ (notices ++ [.released kind.name handle]))
      rw [← List.append_assoc]
      refine hlog.replace hsound hkinds (getElem?_eraseAt b.heap handle)
        (replayed_append_released _ _ _) (hlog.faithful.concat (.released ?_))
      rw [← hlog.kinds]
      exact hlive

/-- What a use comes to is reported. A payload that is changed keeps its kind. -/
theorem carryOut (h : b.Logged log) (call : String) (fresh : Address) {payload : kind.Payload}
    (hborrow : b.borrow kind handle = .ok payload) {effect : Effect kind}
    (hquiet : Quiet effect.reports) : (b.carryOut call fresh handle effect).Adds log := by
  cases effect with
  | answer reply => exact h.answer reply
  | print line fault => exact h.print line fault
  | update changed =>
    refine ⟨?_, fun _ _ => quiet_nil⟩
    have hkinds : ∀ a, b.ledger.kindAt a = if a = handle then some kind.name
        else b.ledger.kindAt a := by
      intro a
      split
      · rename_i ha
        rw [ha, h.payloads, kind_of_borrow hborrow]
      · rfl
    show Logged _ (log ++ [])
    rw [List.append_nil]
    refine h.replace h.sound hkinds (getElem?_insertAt b.heap handle ⟨kind, changed⟩) ?_ h.faithful
    intro a
    rw [← h.kinds]
    exact hkinds a
  | derive cell events => exact h.handOut call fresh cell hquiet
  | fail d => exact h.abort _

/-- **One call** adds its events to the log, at whatever address the allocator has ready. -/
theorem step (h : b.Logged log) (world : Surroundings) (call : Call) :
    (b.step world call).Adds log := by
  unfold Boundary.step
  cases haction : call.action world with
  | answer reply => exact h.answer reply
  | create cell => exact h.handOut call.name world.freshAddress cell quiet_nil
  | refuse argument => exact h.abort _
  | use kind handle effect =>
    rw [perform_use]
    cases hborrow : b.borrow kind handle with
    | error violation => exact h.abort violation
    | ok payload =>
      have hquiet := call.quiet_reports world haction payload
      exact h.carryOut call.name world.freshAddress hborrow hquiet
  | drop kind handle => exact h.release call.name kind handle
  | install filter =>
    cases filter with
    | error straddle => exact h.abort _
    | ok chosen =>
      unfold perform
      cases hfilter : b.filter with
      | none => exact ⟨(h.append_quiet quiet_nil).of_eq rfl rfl, fun _ _ => quiet_nil⟩
      | some installed => exact h.answer (.flag false)

end Logged

/-! ## Every run -/

/-- The events of a run, in order. -/
def eventLog (steps : List BoundaryStep) : List Event :=
  steps.flatMap BoundaryStep.events

/-- A run begins with its first call, and goes on if the call comes to its end. -/
theorem run_cons (b : Boundary) (world : Surroundings) (call : Call)
    (rest : List (Surroundings × Call)) :
    b.run ((world, call) :: rest) = b.step world call ::
      match (b.step world call).outcome with
      | .ok _ => (b.step world call).after.run rest
      | .error _ => [] := by
  rw [Boundary.run]
  cases (b.step world call).outcome <;> rfl

/-- Every call of a run adds its events to the log of the calls before it. -/
theorem Logged.run (h : b.Logged log) (calls : List (Surroundings × Call))
    {earlier later : List BoundaryStep} {s : BoundaryStep}
    (hsteps : b.run calls = earlier ++ s :: later) : s.Adds (log ++ eventLog earlier) := by
  induction calls generalizing b log earlier with
  | nil => simp [Boundary.run] at hsteps
  | cons first rest ih =>
    obtain ⟨world, call⟩ := first
    have hadds := h.step world call
    rw [run_cons] at hsteps
    cases earlier with
    | nil =>
      obtain ⟨rfl, -⟩ := List.cons.inj hsteps
      rwa [eventLog, List.flatMap_nil, List.append_nil]
    | cons head earlier =>
      obtain ⟨rfl, hrest⟩ := List.cons.inj hsteps
      split at hrest
      · have hs := ih hadds.logged hrest
        rwa [List.append_assoc] at hs
      · simp at hrest

/-- All events of a run stand where they may. -/
theorem Logged.faithful_run (h : b.Logged log) (calls : List (Surroundings × Call)) :
    Faithful (log ++ eventLog (b.run calls)) := by
  rcases List.eq_nil_or_concat' (b.run calls) with hnil | ⟨earlier, last, hlast⟩
  · rw [hnil, eventLog, List.flatMap_nil, List.append_nil]
    exact h.faithful
  · have hadds := h.run calls hlast
    rw [hlast, eventLog, List.flatMap_append, List.flatMap_singleton, ← List.append_assoc]
    exact hadds.logged.faithful

/-- **The event log reproduces the ledger.** In every run of calls from the empty boundary, on
whatever handles and with whatever addresses the allocator comes up with, used ones included:

- After every call, the ledger has the addresses of the map that the log so far leads to, and the
  kinds that it has there.
- A call that ends the program reports neither a creation nor a release.
- A handle is released under the kind that the map has at its address.
- A creation at an address of the map is followed by the report of the displaced handle, under the
  kind that the map had there. Only a slot that the ledger has used up may be reported in between.
- A displaced handle is never reported otherwise. -/
theorem events_reproduce_ledger (calls : List (Surroundings × Call)) :
    (∀ (earlier later : List BoundaryStep) (s : BoundaryStep),
      Boundary.empty.run calls = earlier ++ s :: later →
      (∀ a : Address, (a ∈ s.after.ledger.live ↔
          ∃ kind, replayed (eventLog (earlier ++ [s])) a = some kind) ∧
        s.after.ledger.find? a = (replayed (eventLog (earlier ++ [s])) a).map (⟨·, a⟩)) ∧
      ∀ abort, s.outcome = .error abort → ∀ (kind : String) (a : Address),
        .created kind a ∉ s.events ∧ .released kind a ∉ s.events) ∧
    (∀ (before after : List Event) (kind : String) (a : Address),
      eventLog (Boundary.empty.run calls) = before ++ .released kind a :: after →
        replayed before a = some kind) ∧
    (∀ (before after : List Event) (kind old : String) (a : Address),
      eventLog (Boundary.empty.run calls) = before ++ .created kind a :: after →
        replayed before a = some old →
          ∃ notices rest, Ledger.Notices notices ∧ after = notices ++ .displaced old a :: rest) ∧
    ∀ (before after : List Event) (old : String) (a : Address),
      eventLog (Boundary.empty.run calls) = before ++ .displaced old a :: after →
        ∃ earlier kind notices, before = earlier ++ .created kind a :: notices ∧
          Ledger.Notices notices ∧ replayed earlier a = some old := by
  have hfaithful := logged_empty.faithful_run calls
  rw [List.nil_append] at hfaithful
  refine ⟨?_, ?_, ?_, ?_⟩
  · intro earlier later s hsteps
    have hadds := logged_empty.run calls hsteps
    have hlog : [] ++ eventLog earlier ++ s.events = eventLog (earlier ++ [s]) := by
      simp [eventLog]
    have hlogged := hadds.logged
    rw [hlog] at hlogged
    refine ⟨fun a => ?_, fun abort houtcome kind a => ?_⟩
    · rw [← hlogged.kinds]
      exact ⟨hlogged.sound.mem_live_iff a, hlogged.sound.find?_eq a⟩
    · have hquiet := hadds.aborted abort houtcome
      constructor
      · intro he
        cases hquiet _ he
      · intro he
        cases hquiet _ he
  · intro before after kind a hlog
    cases hfaithful before _ after hlog with
    | quiet silent => cases silent
    | released live => exact live
  · intro before after kind old a hlog hused
    cases hfaithful before _ after hlog with
    | quiet silent => cases silent
    | created free => cases free.symm.trans hused
    | reused used own next =>
      obtain rfl := Option.some.inj (used.symm.trans hused)
      exact ⟨_, _, own, next⟩
  · intro before after old a hlog
    cases hfaithful before _ after hlog with
    | quiet silent => cases silent
    | displaced used own previous => exact ⟨_, _, _, previous, own, used⟩

/-- An instant at the address of a counter that still counts as live. -/
example (world : Surroundings) (initial : IntType.int64.Value) :
    let used := { world with freshAddress := 16 }
    eventLog (Boundary.empty.run
      [(used, .counterNew initial), (used, .now), (used, .instantDrop 16)]) =
      [.created "Counter" 16, .created "Instant" 16, .displaced "Counter" 16,
        .released "Instant" 16] := by
  cbv

end Boundary

end OwnedHandles
