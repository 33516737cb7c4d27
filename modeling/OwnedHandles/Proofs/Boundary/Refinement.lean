import OwnedHandles.Proofs.Boundary.LedgerSound
import OwnedHandles.Proofs.Boundary.Store
import OwnedHandles.Proofs.Text.NulFree

/-!
# The boundary refines the object store

The machine looks a handle up in its ledger before it looks at the payload. Both agree at all times,
so that the store is all there is to see.

- `Boundary.view`: the store behind a boundary.
- `Boundary.Coherent`: the ledger has the kinds of the payloads, no payload lies at null, and no
  text has a zero byte.
- `Honest`: the allocator offers addresses that are not null and not in use.
- `Coherent.step`: one call. It keeps the invariant, and shows what the store makes of it.
- `Boundary.run_refines_store`: every run from the empty boundary.
-/

namespace OwnedHandles

/-- No text in the payload has a zero byte. -/
def Cell.NulFree : Cell → Prop
  | ⟨.text, t⟩ => t.NulFree
  | ⟨.person, p⟩ => p.givenName.NulFree ∧ p.familyName.NulFree
  | ⟨.counter, _⟩ | ⟨.instant, _⟩ | ⟨.duration, _⟩ => True

namespace Boundary

/-- The store behind a boundary. -/
def view (b : Boundary) : Store :=
  ⟨fun a => b.heap[a]?, b.filter, b.output⟩

/-- A stored payload is seen at its address. -/
theorem view_store (b : Boundary) (ledger : Ledger) (address : Address) (cell : Cell) :
    view { b with heap := b.heap.store address cell, ledger } = b.view.put address cell :=
  congrArg (Store.mk · b.filter b.output) (funext fun a => getElem?_insertAt b.heap address cell a)

/-- A dropped payload is not seen any more. -/
theorem view_erase (b : Boundary) (ledger : Ledger) (address : Address) :
    view { b with heap := b.heap.erase address, ledger } = b.view.remove address :=
  congrArg (Store.mk · b.filter b.output) (funext fun a => getElem?_eraseAt b.heap address a)

/-- The ledger and the payloads belong together. -/
structure Coherent (b : Boundary) : Prop where
  ledger : b.ledger.Sound
  kinds : ∀ a, b.ledger.kindAt a = (b.heap[a]?).map fun cell => cell.kind.name
  null : b.heap[nullAddress]? = none
  nulFree : ∀ (a : Address) (cell : Cell), b.heap[a]? = some cell → cell.NulFree

theorem coherent_empty : Coherent Boundary.empty where
  ledger := Ledger.sound_empty
  kinds a := by
    show Ledger.kindAt Ledger.empty a = Option.map _ (∅ : Heap Cell)[a]?
    rw [Ledger.sound_empty.kindAt_eq_none_iff.mpr (by simp [Ledger.empty])]
    simp
  null := by simp [Boundary.empty]
  nulFree a cell h := by simp [Boundary.empty] at h

/-- Ledger and heap belong together after they have changed alike at one address. -/
theorem kindAt_eq_of_replaced {b : Boundary}
    (before : ∀ a, b.ledger.kindAt a = (b.heap[a]?).map fun cell => cell.kind.name)
    {heap : Heap Cell} {ledger : Ledger} {address : Address} {new : Option Cell}
    (kinds : ∀ a, ledger.kindAt a =
      if a = address then new.map fun cell => cell.kind.name else b.ledger.kindAt a)
    (heaps : ∀ a, heap[a]? = if a = address then new else b.heap[a]?) (a : Address) :
    ledger.kindAt a = (heap[a]?).map fun cell => cell.kind.name := by
  rw [kinds, heaps, before]
  by_cases ha : a = address
  · rw [if_pos ha, if_pos ha]
  · rw [if_neg ha, if_neg ha]

/-- What the effect of a use comes to. -/
def carryOut (b : Boundary) (call : String) (fresh handle : Address) {kind : Kind} :
    Effect kind → BoundaryStep
  | .answer reply => ⟨.ok reply, b, [], ""⟩
  | .print line fault => b.print line fault
  | .update changed =>
    ⟨.ok .nothing, { b with heap := b.heap.store handle ⟨kind, changed⟩ }, [], ""⟩
  | .derive cell events => b.handOut call fresh cell events
  | .fail d => b.abort call (.derivation d)

/-- A use borrows the payload and carries out what it comes to. -/
theorem perform_use (b : Boundary) (call : String) (fresh : Address) (kind : Kind)
    (handle : Address) (effect : kind.Payload → Effect kind) :
    b.perform call fresh (.use kind handle effect) =
      match b.borrow kind handle with
      | .error violation => b.abort call violation
      | .ok payload => b.carryOut call fresh handle (effect payload) := by
  unfold perform
  simp only
  cases b.borrow kind handle with
  | error violation => rfl
  | ok payload => cases effect payload <;> rfl

/-- The allocator has an address ready that is not null and not in use. -/
def Offers (b : Boundary) (address : Address) : Prop :=
  address ≠ nullAddress ∧ b.heap[address]? = none

/-- The allocator offers such an address at every call of a run. -/
def Honest (b : Boundary) : List (Surroundings × Call) → Prop
  | [] => True
  | (world, call) :: rest =>
    b.Offers world.freshAddress ∧
      ∀ reply, (b.step world call).outcome = .ok reply → (b.step world call).after.Honest rest

end Boundary

/-- What is seen of a step: what the call gives back and prints and the store after it, or how the
program ends. -/
def BoundaryStep.seen (s : BoundaryStep) : Except Abort Answer :=
  s.outcome.map fun reply => ⟨reply, s.printed, s.after.view⟩

/-- A step shows a result of the store, and leaves a coherent boundary. -/
structure BoundaryStep.Shows (s : BoundaryStep) (call : String)
    (result : Except Violation Answer) : Prop where
  seen : s.seen = result.mapError (Abort.mk call)
  coherent : s.after.Coherent

/-- A step that shows an answer gives it back. -/
theorem BoundaryStep.Shows.outcome_eq {s : BoundaryStep} {call : String} {answer : Answer}
    (h : s.Shows call (.ok answer)) :
    s.outcome = .ok answer.reply ∧ s.after.view = answer.after := by
  have hseen := h.seen
  rw [BoundaryStep.seen] at hseen
  cases houtcome : s.outcome with
  | error abort =>
    rw [houtcome] at hseen
    cases hseen
  | ok reply =>
    rw [houtcome] at hseen
    obtain rfl := Except.ok.inj hseen
    exact ⟨rfl, rfl⟩

/-- A step with a reply shows what it gives back and prints. -/
theorem BoundaryStep.Shows.of_ok {s : BoundaryStep} {call : String}
    {result : Except Violation Answer} {reply : Reply} (h : s.Shows call result)
    (houtcome : s.outcome = .ok reply) : result = .ok ⟨reply, s.printed, s.after.view⟩ := by
  have hseen := h.seen
  rw [BoundaryStep.seen, houtcome] at hseen
  cases result with
  | ok answer => exact congrArg Except.ok (Except.ok.inj hseen).symm
  | error violation => cases hseen

/-- A step that ends the program shows why. -/
theorem BoundaryStep.Shows.of_error {s : BoundaryStep} {call : String}
    {result : Except Violation Answer} {abort : Abort} (h : s.Shows call result)
    (houtcome : s.outcome = .error abort) :
    ∃ violation, result = .error violation ∧ abort = ⟨call, violation⟩ := by
  have hseen := h.seen
  rw [BoundaryStep.seen, houtcome] at hseen
  cases result with
  | ok answer => cases hseen
  | error violation => exact ⟨violation, rfl, Except.error.inj hseen⟩

theorem BoundaryStep.shows_ok {b : Boundary} {reply : Reply} {printed : String} {after : Store}
    {events : List Event} {call : String} (seen : b.view = after) (coherent : b.Coherent) :
    BoundaryStep.Shows ⟨.ok reply, b, events, printed⟩ call (.ok ⟨reply, printed, after⟩) := by
  subst seen
  exact ⟨rfl, coherent⟩

namespace Boundary.Coherent

variable {b : Boundary} {call : String} {kind : Kind} {handle : Address}

/-! ## Looking up a handle -/

/-- A payload that is found lies in the heap. -/
theorem heap_eq_of_demand {payload : kind.Payload}
    (hfound : b.view.demand kind handle = .ok payload) :
    handle ≠ nullAddress ∧ b.heap[handle]? = some ⟨kind, payload⟩ :=
  (Store.demand_eq_ok_iff payload).mp hfound

/-- The ledger approves of a handle whose payload is found. -/
theorem kindAt_of_demand (h : b.Coherent) {payload : kind.Payload}
    (hfound : b.view.demand kind handle = .ok payload) :
    b.ledger.kindAt handle = some kind.name := by
  rw [h.kinds, (heap_eq_of_demand hfound).2]
  rfl

/-- The ledger turns all other handles down, but for null. -/
theorem check_of_demand_error (h : b.Coherent) {violation : Violation}
    (hnull : handle ≠ nullAddress) (hfound : b.view.demand kind handle = .error violation) :
    ∃ fault, violation = .ledger fault ∧ b.ledger.check kind.name handle = .error fault := by
  rcases Store.demand_eq_error_iff.mp hfound with
    ⟨hnull', -⟩ | ⟨-, hnone, rfl⟩ | ⟨cell, -, hcell, hkind, rfl⟩
  · exact absurd hnull' hnull
  · refine ⟨_, rfl, (Ledger.check_eq_error_iff _ _ _ _).mpr (.inr ⟨?_, rfl⟩)⟩
    show _ = none
    rw [h.kinds]
    exact congrArg (Option.map _) hnone
  · refine ⟨_, rfl, (Ledger.check_eq_error_iff _ _ _ _).mpr (.inl ⟨cell.kind.name, ?_, ?_, rfl⟩)⟩
    · rw [h.kinds]
      exact congrArg (Option.map _) hcell
    · exact fun hname => hkind (Kind.name_injective hname)

/-- **The payload of a handle is found where the store has it.** The ledger approves of a handle
only if its payload is there and of the expected kind. -/
theorem borrow_eq (h : b.Coherent) (kind : Kind) (handle : Address) :
    b.borrow kind handle = b.view.demand kind handle := by
  unfold borrow
  by_cases hnull : handle = nullAddress
  · rw [if_pos hnull, hnull, Heap.load_null, Store.demand, if_pos rfl]
  · rw [if_neg hnull]
    cases hfound : b.view.demand kind handle with
    | error violation =>
      -- the ledger already turns the handle down, and the heap is not looked at
      obtain ⟨fault, rfl, hcheck⟩ := h.check_of_demand_error hnull hfound
      rw [hcheck]
    | ok payload =>
      -- the ledger approves, and neither the heap nor the kind of the payload can object
      have hcheck := (Ledger.check_eq_ok_iff _ _ _).mpr (h.kindAt_of_demand hfound)
      have hload := (b.heap.load_eq_ok_iff _ _).mpr (heap_eq_of_demand hfound)
      simp only [hcheck, hload, Cell.as?_self]

/-! ## What an action shows -/

theorem shows_abort (h : b.Coherent) (violation : Violation) :
    (b.abort call violation).Shows call (.error violation) :=
  ⟨rfl, h⟩

theorem shows_answer (h : b.Coherent) (reply : Reply) :
    BoundaryStep.Shows ⟨.ok reply, b, [], ""⟩ call (.ok (b.view.answer reply)) :=
  ⟨rfl, h⟩

theorem shows_print (h : b.Coherent) (line : String) (fault : Option String) :
    (b.print line fault).Shows call (.ok (b.view.print line fault)) :=
  ⟨rfl, h.ledger, h.kinds, h.null, h.nulFree⟩

theorem shows_install (h : b.Coherent) (chosen : Filter) (fresh : Address) :
    (b.perform call fresh (.install (.ok chosen))).Shows call (.ok (b.view.install chosen)) := by
  have hview : b.view.filter = b.filter := rfl
  unfold perform Store.install
  rw [hview]
  cases b.filter with
  | none => exact ⟨rfl, h.ledger, h.kinds, h.null, h.nulFree⟩
  | some installed => exact h.shows_answer (.flag false)

/-- Ledger and heap may change at one address, as long as they change alike. -/
theorem replace (h : b.Coherent) {heap : Heap Cell} {ledger : Ledger} {address : Address}
    {new : Option Cell} (sound : ledger.Sound)
    (kinds : ∀ a, ledger.kindAt a =
      if a = address then new.map fun cell => cell.kind.name else b.ledger.kindAt a)
    (heaps : ∀ a, heap[a]? = if a = address then new else b.heap[a]?)
    (null : address = nullAddress → new = none) (nulFree : ∀ cell, new = some cell → cell.NulFree) :
    Coherent { b with heap, ledger } := by
  refine ⟨sound, kindAt_eq_of_replaced h.kinds kinds heaps, ?_, ?_⟩
  · show heap[nullAddress]? = none
    rw [heaps, h.null]
    split
    · rename_i hnull
      exact null hnull.symm
    · rfl
  · intro a other hother
    change heap[a]? = some other at hother
    rw [heaps] at hother
    split at hother
    · exact nulFree other hother
    · exact h.nulFree a other hother

/-- A payload may be stored at an address that is not null. -/
theorem store (h : b.Coherent) {ledger : Ledger} {address : Address} {cell : Cell}
    (nonNull : address ≠ nullAddress) (nulFree : cell.NulFree) (sound : ledger.Sound)
    (kinds : ∀ a, ledger.kindAt a =
      if a = address then some cell.kind.name else b.ledger.kindAt a) :
    Coherent { b with heap := b.heap.store address cell, ledger } := by
  refine h.replace sound kinds (getElem?_insertAt b.heap address cell) ?_ ?_
  · intro hnull
    exact absurd hnull nonNull
  · intro other hother
    exact Option.some.inj hother ▸ nulFree

/-- A payload may be dropped together with its entry. -/
theorem erase (h : b.Coherent) {ledger : Ledger} {address : Address} (sound : ledger.Sound)
    (kinds : ∀ a, ledger.kindAt a = if a = address then none else b.ledger.kindAt a) :
    Coherent { b with heap := b.heap.erase address, ledger } := by
  refine h.replace sound kinds (getElem?_eraseAt b.heap address) (fun _ => rfl) ?_
  intro other hother
  cases hother

/-- A fresh handle is entered in the ledger under the kind of its payload. -/
theorem shows_handOut (h : b.Coherent) {fresh : Address} (hfresh : b.Offers fresh) {cell : Cell}
    (hcell : cell.NulFree) (events : List Event) :
    (b.handOut call fresh cell events).Shows call (.ok (b.view.handOut fresh cell)) := by
  obtain ⟨ledger, notices, htrack, -, hsound, hkinds⟩ := h.ledger.track cell.kind.name fresh
  rw [handOut, htrack]
  exact BoundaryStep.shows_ok (b.view_store ledger fresh cell)
    (h.store hfresh.1 hcell hsound hkinds)

/-- A payload that is changed in place stays under its kind. -/
theorem shows_update (h : b.Coherent) {old : kind.Payload}
    (hfound : b.view.demand kind handle = .ok old) {changed : kind.Payload}
    (hchanged : Cell.NulFree ⟨kind, changed⟩) :
    BoundaryStep.Shows
      ⟨.ok .nothing, { b with heap := b.heap.store handle ⟨kind, changed⟩ }, [], ""⟩
      call (.ok ⟨.nothing, "", b.view.put handle ⟨kind, changed⟩⟩) := by
  obtain ⟨hnull, hcell⟩ := heap_eq_of_demand hfound
  have hkinds : ∀ a, b.ledger.kindAt a = if a = handle then some kind.name
      else b.ledger.kindAt a := by
    intro a
    split
    · rename_i ha
      rw [ha]
      exact h.kindAt_of_demand hfound
    · rfl
  exact BoundaryStep.shows_ok (b.view_store b.ledger handle ⟨kind, changed⟩)
    (h.store hnull hchanged h.ledger hkinds)

/-- A handle that is given back is struck out of the ledger, and its payload dropped. -/
theorem shows_release (h : b.Coherent) (kind : Kind) (handle : Address) :
    (b.release call kind handle).Shows call (b.view.discard kind handle) := by
  unfold release Store.discard
  by_cases hnull : handle = nullAddress
  · rw [if_pos hnull, if_pos hnull]
    exact h.shows_answer .nothing
  · rw [if_neg hnull, if_neg hnull]
    cases hfound : b.view.demand kind handle with
    | error violation =>
      obtain ⟨fault, rfl, hcheck⟩ := h.check_of_demand_error hnull hfound
      rw [Ledger.retire_of_check_eq_error hcheck, Store.use, hfound]
      exact h.shows_abort _
    | ok payload =>
      have hload := (b.heap.load_eq_ok_iff _ _).mpr (heap_eq_of_demand hfound)
      have hfree : b.heap.free handle = .ok (some ⟨kind, payload⟩, b.heap.erase handle) := by
        rw [Heap.free, if_neg hnull, Heap.take, hload]
      obtain ⟨ledger, notices, hretire, -, hsound, hkinds⟩ :=
        h.ledger.retire (h.kindAt_of_demand hfound)
      rw [hretire, Store.use, hfound]
      simp only [hfree]
      exact BoundaryStep.shows_ok (b.view_erase ledger handle) (h.erase hsound hkinds)

/-- A use shows what the store makes of the payload, if it finds one. -/
theorem shows_use (h : b.Coherent) {fresh : Address} {effect : kind.Payload → Effect kind}
    {result : kind.Payload → Answer}
    (heffect : ∀ payload, b.view.demand kind handle = .ok payload →
      (b.carryOut call fresh handle (effect payload)).Shows call (.ok (result payload))) :
    (b.perform call fresh (.use kind handle effect)).Shows call
      (b.view.use kind handle result) := by
  rw [perform_use, h.borrow_eq, Store.use]
  cases hfound : b.view.demand kind handle with
  | error violation => exact h.shows_abort violation
  | ok payload => exact heffect payload hfound

/-- A rendered duration is handed out as a text with all its characters. -/
theorem shows_rendered (h : b.Coherent) {fresh : Address} (hfresh : b.Offers fresh) (d : Duration)
    (style : RenderStyle) :
    (b.carryOut call fresh handle (Call.rendered (d.render style))).Shows call
      (.ok (b.view.handOutText fresh (d.render style))) := by
  have htext := d.ofString_render style
  rw [Call.rendered, htext]
  refine h.shows_handOut hfresh ?_ []
  exact CText.nulFree_of_ofBytes htext

/-- A text is read back whole. -/
theorem shows_readBack (h : b.Coherent) {t : CText} (ht : t.NulFree) :
    BoundaryStep.Shows ⟨.ok (Call.readBack t), b, [], ""⟩ call
      (.ok (b.view.answer (.bytes t.bytes))) := by
  rw [Call.readBack, ht.readTerminated_terminated]
  exact h.shows_answer _

/-! ## One call -/

/-- **Every call shows what the store makes of it.** -/
theorem step (h : b.Coherent) {world : Surroundings} (hfresh : b.Offers world.freshAddress)
    (call : Call) : (b.step world call).Shows call.name (b.view.step world call) := by
  -- what is read back or joined is free of zero bytes because it lies in the heap
  have htext : ∀ {handle t}, b.view.demand .text handle = .ok t → t.NulFree := fun hfound =>
    h.nulFree _ _ (heap_eq_of_demand hfound).2
  have hnames : ∀ {handle p}, b.view.demand .person handle = .ok p →
      p.givenName.NulFree ∧ p.familyName.NulFree := fun hfound =>
    h.nulFree _ _ (heap_eq_of_demand hfound).2
  cases call with
  | add x y => exact h.shows_answer _
  | counterNew initial => exact h.shows_handOut hfresh (by trivial) []
  | counterCount handle delta => exact h.shows_use fun c hfound => h.shows_update hfound trivial
  | counterGetCount handle => exact h.shows_use fun c _ => h.shows_answer _
  | textNew text =>
    cases text with
    | none => exact h.shows_abort _
    | some memory =>
      refine h.shows_handOut hfresh ?_ []
      exact CText.nulFree_ofMemory memory
  | textBytes handle => exact h.shows_use fun t hfound => h.shows_readBack (htext hfound)
  | textLength handle => exact h.shows_use fun t _ => h.shows_answer _
  | personNew given family =>
    cases given with
    | none => exact h.shows_abort _
    | some given =>
      cases family with
      | none => exact h.shows_abort _
      | some family =>
        refine h.shows_handOut hfresh ?_ []
        exact ⟨CText.nulFree_ofMemory given, CText.nulFree_ofMemory family⟩
  | personFullName handle =>
    refine h.shows_use fun p hfound => ?_
    have hfull := Person.fullName_eq (hnames hfound).1 (hnames hfound).2
    rw [Call.fullName, hfull]
    refine h.shows_handOut hfresh ?_ _
    exact Person.nulFree_fullName (hnames hfound).1 (hnames hfound).2
  | personGivenName handle =>
    exact h.shows_use fun p hfound => h.shows_readBack (hnames hfound).1
  | personFamilyName handle =>
    exact h.shows_use fun p hfound => h.shows_readBack (hnames hfound).2
  | now => exact h.shows_handOut hfresh (by trivial) []
  | elapsed handle => exact h.shows_use fun start _ => h.shows_handOut hfresh (by trivial) _
  | printDuration handle => exact h.shows_use fun d _ => h.shows_print _ _
  | durationNanos handle => exact h.shows_use fun d _ => h.shows_answer _
  | durationSeconds handle => exact h.shows_use fun d _ => h.shows_answer _
  | durationRender handle => exact h.shows_use fun d _ => h.shows_rendered hfresh d _
  | durationRenderWith handle unit places =>
    exact h.shows_use fun d _ => h.shows_rendered hfresh d _
  | counterDrop handle | textDrop handle | personDrop handle | instantDrop handle
  | durationDrop handle => exact h.shows_release _ handle
  | logInit filter =>
    rw [Store.step]
    show (b.perform _ _ (.install _)).Shows _ _
    cases Filter.choose world.filterVariable (Call.filterText filter) with
    | error straddle => exact h.shows_abort _
    | ok chosen => exact h.shows_install chosen _

/-! ## Every run -/

/-- Calls one after the other show what the store makes of them. -/
theorem run (h : b.Coherent) {calls : List (Surroundings × Call)} (honest : b.Honest calls) :
    (b.run calls).map BoundaryStep.seen = b.view.run calls ∧
      ∀ s ∈ b.run calls, s.after.Coherent := by
  induction calls generalizing b with
  | nil => exact ⟨rfl, fun s hs => absurd hs List.not_mem_nil⟩
  | cons first rest ih =>
    obtain ⟨world, call⟩ := first
    obtain ⟨hfresh, hrest⟩ := honest
    have hshows := h.step hfresh call
    -- boundary and store end the run at the same call, or both go on
    rw [Boundary.run, Store.run]
    cases houtcome : (b.step world call).outcome with
    | error abort =>
      obtain ⟨violation, hresult, rfl⟩ := hshows.of_error houtcome
      rw [hresult]
      refine ⟨?_, by simpa using hshows.coherent⟩
      show [BoundaryStep.seen _] = _
      rw [BoundaryStep.seen, houtcome]
      rfl
    | ok reply =>
      obtain ⟨hruns, hcoherent⟩ := ih hshows.coherent (hrest reply houtcome)
      rw [hshows.of_ok houtcome]
      refine ⟨?_, by simpa using ⟨hshows.coherent, hcoherent⟩⟩
      show BoundaryStep.seen _ :: List.map _ _ = _ :: _
      rw [hruns, BoundaryStep.seen, houtcome]
      rfl

end Boundary.Coherent

namespace Boundary

theorem view_empty : Boundary.empty.view = Store.empty := by
  have hcells : ∀ a : Address, (∅ : Heap Cell)[a]? = none := by simp
  exact congrArg (Store.mk · none LineOutput.empty) (funext hcells)

/-- **The boundary refines the object store.** As long as the allocator offers fresh addresses, in
every run of calls, on whatever handles:

- Each call gives back and prints what the store makes of it, and what then lies at each address is
  what the store has there. The run ends where the store ends it.
- The store ends a run at a call on a handle that is null, unknown or of another kind, at a missing
  text, and at the text of an event filter that is cut inside a character; nowhere else, and with
  the words that belong to the reason. Null handles can be given back.
- The ledger has the kinds of the payloads at all times.
- A call that comes to its end leaves alone all but the payload that it creates, changes or
  drops. -/
theorem run_refines_store (calls : List (Surroundings × Call))
    (honest : Boundary.empty.Honest calls) :
    (Boundary.empty.run calls).map BoundaryStep.seen = Store.empty.run calls ∧
    (∀ s ∈ Boundary.empty.run calls, ∀ a,
      s.after.ledger.kindAt a = (s.after.heap[a]?).map fun cell => cell.kind.name) ∧
    (∀ (s : Store) world call violation showAddress, s.step world call = .error violation ↔
      s.Blames showAddress world call violation
        (Abort.message showAddress ⟨call.name, violation⟩)) ∧
    ∀ (s : Store) world call answer a, s.step world call = .ok answer →
      (∀ kind, answer.reply ≠ .handle kind a) → call.changes ≠ some a →
      answer.after.cells a = s.cells a := by
  obtain ⟨hseen, hcoherent⟩ := coherent_empty.run honest
  rw [view_empty] at hseen
  exact ⟨hseen, fun s hs => (hcoherent s hs).kinds, fun _ _ _ _ showAddress =>
    Store.step_eq_error_iff showAddress, fun _ _ _ _ _ => Store.frame⟩

/-- The address of a counter is handed out again for a text: the old handle is turned down as what
it has become. -/
theorem run_refines_store_reused_address :
    ∃ calls : List (Surroundings × Call), Boundary.empty.Honest calls ∧
      calls.map Prod.snd = [.counterNew IntType.int64.zero, .counterDrop 16,
        .textNew (some [0x68, 0x69, 0]), .counterGetCount 16] ∧
      (Boundary.empty.run calls).map BoundaryStep.seen = Store.empty.run calls ∧
      (Store.empty.run calls).map (Except.map Answer.reply) = [.ok (.handle .counter 16),
        .ok .nothing, .ok (.handle .text 16),
        .error ⟨"Counter_get_count", .ledger (.wrongKind "RString" "Counter")⟩] := by
  let world (fresh : Address) : Surroundings := ⟨fresh, ⟨0, 0⟩, none, none⟩
  let calls : List (Surroundings × Call) :=
    [(world 16, .counterNew IntType.int64.zero), (world 32, .counterDrop 16),
      (world 16, .textNew (some [0x68, 0x69, 0])), (world 32, .counterGetCount 16)]
  have honest : Boundary.empty.Honest calls :=
    ⟨⟨by decide, by rfl⟩, fun _ _ => ⟨⟨by decide, by rfl⟩, fun _ _ =>
      ⟨⟨by decide, by rfl⟩, fun _ _ => ⟨⟨by decide, by rfl⟩, fun _ _ => trivial⟩⟩⟩⟩
  exact ⟨calls, honest, rfl, (run_refines_store calls honest).1, rfl⟩

/-- The text of an event filter can end the program, though the call is made on no handle and misses
no text: the blank in front moves the place where ` é=debug` is cut. -/
theorem logInit_ends_run :
    ∃ (world : Surroundings) (call : Call), Boundary.empty.Honest [(world, call)] ∧
      call = .logInit (some [0x20, 0xC3, 0xA9, 0x3D, 0x64, 0x65, 0x62, 0x75, 0x67, 0]) ∧
      call.subject = none ∧ call.missing = none ∧
      (Boundary.empty.run [(world, call)]).map BoundaryStep.outcome =
        [.error ⟨"tether_log_init", .filterText ⟨.stop, 2, 1, 'é'⟩⟩] := by
  refine ⟨⟨16, ⟨0, 0⟩, none, none⟩, _, ⟨⟨by decide, by rfl⟩, fun _ _ => trivial⟩, rfl, rfl, rfl, ?_⟩
  rfl

end Boundary

end OwnedHandles
