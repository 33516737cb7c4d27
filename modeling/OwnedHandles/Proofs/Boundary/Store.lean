import OwnedHandles.Boundary.Machine

/-!
# The object store

What a client knows of the boundary: at each live address a payload of some kind. There are no two
indexes here, no slots and no generations, and a payload is looked at where it lies.

- `Store.demand`: the payload of a handle, for a call that expects a kind.
- `Store.step`: what each call gives back and does to the store, or why it ends the program.
- `Store.Blames`: the reasons to end the program, with the last words of each.
- `Store.step_eq_error_iff`: a call ends the program for these reasons and for no other.
- `Store.frame`: a call leaves alone all but the payload that it creates, changes or drops.
-/

namespace OwnedHandles

/-- What lies at each live address, the event filter if one has been installed, and the way to
standard output. -/
structure Store where
  cells : Address → Option Cell
  filter : Option Filter
  output : LineOutput

/-- What a call gives back and prints, and the store after it. -/
structure Answer where
  reply : Reply
  printed : String
  after : Store

/-- The handle that a call is made on, and the kind that it expects. -/
def Call.subject : Call → Option (Kind × Address)
  | .counterCount h _ | .counterGetCount h | .counterDrop h => some (.counter, h)
  | .textBytes h | .textLength h | .textDrop h => some (.text, h)
  | .personFullName h | .personGivenName h | .personFamilyName h | .personDrop h =>
    some (.person, h)
  | .elapsed h | .instantDrop h => some (.instant, h)
  | .printDuration h | .durationNanos h | .durationSeconds h | .durationRender h
  | .durationRenderWith h _ _ | .durationDrop h => some (.duration, h)
  | .add _ _ | .counterNew _ | .textNew _ | .personNew _ _ | .now | .logInit _ => none

/-- Tells whether the call gives a handle back. -/
def Call.isDrop : Call → Bool
  | .counterDrop _ | .textDrop _ | .personDrop _ | .instantDrop _ | .durationDrop _ => true
  | _ => false

/-- The text argument that a constructor needs and that is null, the first one if there are two. -/
def Call.missing : Call → Option String
  | .textNew none => some "text"
  | .personNew none _ => some "given_name"
  | .personNew (some _) none => some "family_name"
  | _ => none

/-- The handle whose payload a call changes or drops. -/
def Call.changes : Call → Option Address
  | .counterCount h _ | .counterDrop h | .textDrop h | .personDrop h | .instantDrop h
  | .durationDrop h => some h
  | _ => none

namespace Store

/-- Nothing has been handed out, and no filter is installed. -/
def empty : Store := ⟨fun _ => none, none, LineOutput.empty⟩

/-- The store with a payload at an address. -/
def put (s : Store) (address : Address) (cell : Cell) : Store :=
  { s with cells := fun a => if a = address then some cell else s.cells a }

/-- The store without the payload at an address. -/
def remove (s : Store) (address : Address) : Store :=
  { s with cells := fun a => if a = address then none else s.cells a }

/-- The payload of a handle, for a call that expects a kind. -/
def demand (s : Store) (kind : Kind) (handle : Address) : Except Violation kind.Payload :=
  if handle = nullAddress then .error (.access .nullPointer)
  else
    match s.cells handle with
    | none => .error (.ledger (.notLive kind.name handle))
    | some cell =>
      match cell.as? kind with
      | some payload => .ok payload
      | none => .error (.ledger (.wrongKind cell.kind.name kind.name))

/-- A reply that leaves the store as it is. -/
def answer (s : Store) (reply : Reply) : Answer :=
  ⟨reply, "", s⟩

/-- A new handle. -/
def handOut (s : Store) (address : Address) (cell : Cell) : Answer :=
  ⟨.handle cell.kind address, "", s.put address cell⟩

/-- A line on standard output, where that is possible. -/
def print (s : Store) (line : String) (fault : Option String) : Answer :=
  let (output, printed) := s.output.write fault.isNone line
  ⟨.nothing, printed, { s with output }⟩

/-- The first event filter stays. -/
def install (s : Store) (filter : Filter) : Answer :=
  match s.filter with
  | none => ⟨.flag true, "", { s with filter := some filter }⟩
  | some _ => s.answer (.flag false)

/-- An answer that is computed from the payload of a handle. -/
def use (s : Store) (kind : Kind) (handle : Address) (result : kind.Payload → Answer) :
    Except Violation Answer :=
  (s.demand kind handle).map result

/-- A handle is given back. The null handle is ignored. -/
def discard (s : Store) (kind : Kind) (handle : Address) : Except Violation Answer :=
  if handle = nullAddress then .ok (s.answer .nothing)
  else s.use kind handle fun _ => ⟨.nothing, "", s.remove handle⟩

/-- A new text with all characters of a string. -/
def handOutText (s : Store) (address : Address) (text : String) : Answer :=
  s.handOut address ⟨.text, ⟨Utf8.encode text.toList⟩⟩

/-- One call. -/
def step (s : Store) (world : Surroundings) : Call → Except Violation Answer
  | .add a b => .ok (s.answer (.integer (a + b).toInt))
  | .counterNew initial => .ok (s.handOut world.freshAddress ⟨.counter, ⟨initial⟩⟩)
  | .counterCount h delta => s.use .counter h fun c =>
    let count := IntType.int64.saturate (c.count.val + delta.val)
    ⟨.nothing, "", s.put h ⟨.counter, ⟨count⟩⟩⟩
  | .counterGetCount h => s.use .counter h fun c => s.answer (.integer c.count.val)
  | .counterDrop h => s.discard .counter h
  | .textNew none => .error (.nullArgument "text")
  | .textNew (some text) =>
    .ok (s.handOut world.freshAddress ⟨.text, ⟨readTerminated text⟩⟩)
  | .textBytes h => s.use .text h fun t => s.answer (.bytes t.bytes)
  | .textLength h => s.use .text h fun t => s.answer (.integer t.bytes.length)
  | .textDrop h => s.discard .text h
  | .personNew none _ => .error (.nullArgument "given_name")
  | .personNew (some _) none => .error (.nullArgument "family_name")
  | .personNew (some given) (some family) =>
    .ok (s.handOut world.freshAddress
      ⟨.person, ⟨⟨readTerminated given⟩, ⟨readTerminated family⟩⟩⟩)
  | .personFullName h => s.use .person h fun p =>
    s.handOut world.freshAddress ⟨.text, ⟨p.givenName.bytes ++ 0x20 :: p.familyName.bytes⟩⟩
  | .personGivenName h => s.use .person h fun p => s.answer (.bytes p.givenName.bytes)
  | .personFamilyName h => s.use .person h fun p => s.answer (.bytes p.familyName.bytes)
  | .personDrop h => s.discard .person h
  | .now => .ok (s.handOut world.freshAddress ⟨.instant, world.clock⟩)
  | .elapsed h => s.use .instant h fun start =>
    let nanos := (world.clock.monotonic - start.monotonic).toNat
    s.handOut world.freshAddress ⟨.duration, Duration.ofNanos nanos⟩
  | .instantDrop h => s.discard .instant h
  | .printDuration h => s.use .duration h fun d => s.print (d.display ++ "\n") world.outputFault
  | .durationNanos h => s.use .duration h fun d => s.answer (.integer d.nanosSaturating)
  | .durationSeconds h => s.use .duration h fun d => s.answer (.float d.secondsFloat)
  | .durationRender h => s.use .duration h fun d => s.handOutText world.freshAddress d.display
  | .durationRenderWith h unit places => s.use .duration h fun d =>
    s.handOutText world.freshAddress (d.render (RenderStyle.ofPlaces unit places))
  | .durationDrop h => s.discard .duration h
  | .logInit filter =>
    match Filter.choose world.filterVariable (Call.filterText filter) with
    | .error straddle => .error (.filterText straddle)
    | .ok chosen => .ok (s.install chosen)

/-- Calls one after the other, up to the first that ends the program. -/
def run (s : Store) : List (Surroundings × Call) → List (Except Abort Answer)
  | [] => []
  | (world, call) :: rest =>
    match s.step world call with
    | .ok answer => .ok answer :: answer.after.run rest
    | .error violation => [.error ⟨call.name, violation⟩]

/-! ## The reasons to end the program -/

/-- Why a call ends the program, and its last words. The last reason is no fault of the handle: the
text of an event filter is cut inside a character. -/
inductive Blames (s : Store) (showAddress : Address → String) (world : Surroundings) :
    Call → Violation → String → Prop
  /-- The handle is null, and the call is not to give it back. -/
  | null {call : Call} {kind : Kind} (expects : call.subject = some (kind, nullAddress))
      (uses : call.isDrop = false) :
      Blames s showAddress world call (.access .nullPointer)
        s!"called `{call.name}` with null pointer"
  /-- There is nothing at the address. -/
  | unknown {call : Call} {kind : Kind} {handle : Address}
      (expects : call.subject = some (kind, handle)) (nonNull : handle ≠ nullAddress)
      (found : s.cells handle = none) :
      Blames s showAddress world call (.ledger (.notLive kind.name handle))
        (s!"contract violation: called `{call.name}` with a released or unknown {kind.name} handle "
          ++ s!"({showAddress handle})")
  /-- There is a payload of another kind at the address. -/
  | wrongKind {call : Call} {kind : Kind} {handle : Address} {cell : Cell}
      (expects : call.subject = some (kind, handle)) (nonNull : handle ≠ nullAddress)
      (found : s.cells handle = some cell) (differs : cell.kind ≠ kind) :
      Blames s showAddress world call (.ledger (.wrongKind cell.kind.name kind.name))
        (s!"contract violation: called `{call.name}` with a {cell.kind.name} handle "
          ++ s!"where a {kind.name} handle was expected")
  /-- A text is null. -/
  | missing {call : Call} {argument : String} (lacks : call.missing = some argument) :
      Blames s showAddress world call (.nullArgument argument)
        s!"called `{call.name}` with `{argument}` as null pointer"
  /-- The text of an event filter is cut inside a character. -/
  | filterText {filter : TextArg} {straddle : Text.Straddle}
      (cut : Filter.choose world.filterVariable (Call.filterText filter) = .error straddle) :
      Blames s showAddress world (.logInit filter) (.filterText straddle) straddle.message

variable {s : Store} {world : Surroundings} {call : Call} {kind : Kind} {handle : Address}
  {violation : Violation}

/-- A payload is found iff it lies there under the expected kind, and the handle is not null. -/
theorem demand_eq_ok_iff (payload : kind.Payload) :
    s.demand kind handle = .ok payload ↔
      handle ≠ nullAddress ∧ s.cells handle = some ⟨kind, payload⟩ := by
  unfold demand
  by_cases hnull : handle = nullAddress
  · simp [hnull]
  · rw [if_neg hnull]
    cases s.cells handle with
    | none => simp
    | some cell =>
      obtain ⟨found, own⟩ := cell
      by_cases hkind : found = kind
      · subst hkind
        simp [hnull]
      · simp [Cell.as?, hkind]

/-- The reasons not to find a payload. -/
theorem demand_eq_error_iff :
    s.demand kind handle = .error violation ↔
      (handle = nullAddress ∧ violation = .access .nullPointer) ∨
      (handle ≠ nullAddress ∧ s.cells handle = none ∧
        violation = .ledger (.notLive kind.name handle)) ∨
      ∃ cell, handle ≠ nullAddress ∧ s.cells handle = some cell ∧ cell.kind ≠ kind ∧
        violation = .ledger (.wrongKind cell.kind.name kind.name) := by
  unfold demand
  by_cases hnull : handle = nullAddress
  · simp [hnull, eq_comm (a := violation)]
  · rw [if_neg hnull]
    cases s.cells handle with
    | none => simp [hnull, eq_comm (a := violation)]
    | some cell =>
      by_cases hkind : cell.kind = kind
      · simp [Cell.as?, hnull, hkind]
      · simp [Cell.as?, hnull, hkind, eq_comm (a := violation)]

/-- A use finds its answer iff it finds its payload. -/
theorem use_eq_ok_iff {result : kind.Payload → Answer} {answer : Answer} :
    s.use kind handle result = .ok answer ↔
      ∃ payload, s.demand kind handle = .ok payload ∧ result payload = answer := by
  unfold use
  cases s.demand kind handle with
  | ok payload => simp [Except.map]
  | error v => simp [Except.map]

theorem use_eq_error_iff {result : kind.Payload → Answer} :
    s.use kind handle result = .error violation ↔ s.demand kind handle = .error violation := by
  unfold use
  cases s.demand kind handle with
  | ok payload => simp [Except.map]
  | error v => simp [Except.map]

/-- A call on a handle has no text argument to miss. -/
theorem missing_eq_none_of_subject (h : call.subject = some (kind, handle)) :
    call.missing = none := by
  cases call <;> first | rfl | cases h

/-- A call on a handle is blamed for the handle. -/
theorem blames_iff_of_subject (showAddress : Address → String)
    (expects : call.subject = some (kind, handle)) :
    s.Blames showAddress world call violation
        (Abort.message showAddress ⟨call.name, violation⟩) ↔
      s.demand kind handle = .error violation ∧ (handle = nullAddress → call.isDrop = false) := by
  rw [demand_eq_error_iff]
  constructor
  · -- the rules fix the words, so they are left open while the rule is found
    generalize Abort.message showAddress ⟨call.name, violation⟩ = words
    intro hblames
    cases hblames with
    | null expects' uses =>
      obtain ⟨rfl, rfl⟩ := Prod.mk.inj (Option.some.inj (expects.symm.trans expects'))
      exact ⟨.inl ⟨rfl, rfl⟩, fun _ => uses⟩
    | unknown expects' nonNull found =>
      obtain ⟨rfl, rfl⟩ := Prod.mk.inj (Option.some.inj (expects.symm.trans expects'))
      exact ⟨.inr (.inl ⟨nonNull, found, rfl⟩), fun hnull => absurd hnull nonNull⟩
    | wrongKind expects' nonNull found differs =>
      obtain ⟨rfl, rfl⟩ := Prod.mk.inj (Option.some.inj (expects.symm.trans expects'))
      exact ⟨.inr (.inr ⟨_, nonNull, found, differs, rfl⟩), fun hnull => absurd hnull nonNull⟩
    | missing lacks =>
      rw [missing_eq_none_of_subject expects] at lacks
      cases lacks
    | filterText cut => cases expects
  · rintro ⟨⟨rfl, rfl⟩ | ⟨hnull, hfound, rfl⟩ | ⟨cell, hnull, hfound, hkind, rfl⟩, huses⟩
    · exact .null expects (huses rfl)
    · exact .unknown expects hnull hfound
    · exact .wrongKind expects hnull hfound hkind

/-- A call without a handle is never blamed for one. -/
theorem blames_iff_of_no_subject (showAddress : Address → String) (expects : call.subject = none) :
    s.Blames showAddress world call violation
        (Abort.message showAddress ⟨call.name, violation⟩) ↔
      (∃ argument, call.missing = some argument ∧ violation = .nullArgument argument) ∨
      ∃ filter straddle, call = .logInit filter ∧ violation = .filterText straddle ∧
        Filter.choose world.filterVariable (Call.filterText filter) = .error straddle := by
  constructor
  · generalize Abort.message showAddress ⟨call.name, violation⟩ = words
    intro hblames
    cases hblames with
    | null expects' uses => rw [expects] at expects'; cases expects'
    | unknown expects' nonNull found => rw [expects] at expects'; cases expects'
    | wrongKind expects' nonNull found differs => rw [expects] at expects'; cases expects'
    | missing lacks => exact .inl ⟨_, lacks, rfl⟩
    | filterText cut => exact .inr ⟨_, _, rfl, rfl, cut⟩
  · rintro (⟨argument, lacks, rfl⟩ | ⟨filter, straddle, rfl, rfl, cut⟩)
    · exact .missing lacks
    · exact .filterText cut

/-- A call that uses a payload is blamed iff the payload is not found. -/
theorem use_eq_error_iff_blames (showAddress : Address → String) {result : kind.Payload → Answer}
    (expects : call.subject = some (kind, handle)) (uses : call.isDrop = false) :
    s.use kind handle result = .error violation ↔
      s.Blames showAddress world call violation
        (Abort.message showAddress ⟨call.name, violation⟩) := by
  rw [use_eq_error_iff, blames_iff_of_subject showAddress expects]
  simp [uses]

/-- A call that gives a handle back is blamed iff the payload is not found, unless the handle is
null. -/
theorem discard_eq_error_iff_blames (showAddress : Address → String)
    (expects : call.subject = some (kind, handle)) (drops : call.isDrop = true) :
    s.discard kind handle = .error violation ↔
      s.Blames showAddress world call violation
        (Abort.message showAddress ⟨call.name, violation⟩) := by
  rw [blames_iff_of_subject showAddress expects, discard]
  by_cases hnull : handle = nullAddress
  · simp [hnull, drops]
  · rw [if_neg hnull, use_eq_error_iff]
    simp [hnull]

/-- **A call ends the program for the reasons of `Blames`, and for no other.** -/
theorem step_eq_error_iff (showAddress : Address → String) :
    s.step world call = .error violation ↔
      s.Blames showAddress world call violation
        (Abort.message showAddress ⟨call.name, violation⟩) := by
  cases call with
  | counterCount | counterGetCount | textBytes | textLength | personFullName | personGivenName
  | personFamilyName | elapsed | printDuration | durationNanos | durationSeconds | durationRender
  | durationRenderWith => exact use_eq_error_iff_blames showAddress rfl rfl
  | counterDrop | textDrop | personDrop | instantDrop | durationDrop =>
    exact discard_eq_error_iff_blames showAddress rfl rfl
  | add | counterNew | now =>
    rw [blames_iff_of_no_subject showAddress rfl]
    simp [step, Call.missing]
  | textNew text =>
    rw [blames_iff_of_no_subject showAddress rfl]
    cases text <;> simp [step, Call.missing, eq_comm (a := violation)]
  | personNew given family =>
    rw [blames_iff_of_no_subject showAddress rfl]
    cases given <;> cases family <;> simp [step, Call.missing, eq_comm (a := violation)]
  | logInit filter =>
    rw [blames_iff_of_no_subject showAddress rfl, step]
    cases hchosen : Filter.choose world.filterVariable (Call.filterText filter) <;>
      simp [hchosen, Call.missing, eq_comm (a := violation)]

/-! ## What a call leaves alone -/

/-- A new handle leaves all addresses alone but its own. -/
theorem cells_handOut {address a : Address} {cell : Cell}
    (h : ∀ kind, (s.handOut address cell).reply ≠ .handle kind a) :
    (s.handOut address cell).after.cells a = s.cells a := by
  have hne : a ≠ address := fun heq => h cell.kind (by rw [heq]; rfl)
  exact if_neg hne

/-- The null handle is given back in vain. -/
theorem cells_discard {a : Address} {answer : Answer} (h : s.discard kind handle = .ok answer)
    (hne : a ≠ handle) : answer.after.cells a = s.cells a := by
  unfold discard at h
  split at h
  · cases h
    rfl
  · obtain ⟨payload, -, rfl⟩ := use_eq_ok_iff.mp h
    exact if_neg hne

/-- **A call leaves alone all but the payload that it creates, changes or drops.** -/
theorem frame {a : Address} {answer : Answer} (h : s.step world call = .ok answer)
    (created : ∀ kind, answer.reply ≠ .handle kind a) (changed : call.changes ≠ some a) :
    answer.after.cells a = s.cells a := by
  cases call with
  | add | counterNew | now =>
    cases h
    first | rfl | exact cells_handOut created
  | textNew text =>
    cases text with
    | none => cases h
    | some memory =>
      cases h
      exact cells_handOut created
  | personNew given family =>
    cases given <;> cases family <;> cases h
    exact cells_handOut created
  | counterCount handle delta =>
    obtain ⟨c, -, rfl⟩ := use_eq_ok_iff.mp h
    exact if_neg fun heq => changed (by rw [heq]; rfl)
  | counterGetCount | textBytes | textLength | personGivenName | personFamilyName | printDuration
  | durationNanos | durationSeconds =>
    obtain ⟨payload, -, rfl⟩ := use_eq_ok_iff.mp h
    rfl
  | personFullName | elapsed | durationRender | durationRenderWith =>
    obtain ⟨payload, -, rfl⟩ := use_eq_ok_iff.mp h
    exact cells_handOut created
  | counterDrop handle | textDrop handle | personDrop handle | instantDrop handle
  | durationDrop handle => exact cells_discard h fun heq => changed (by rw [heq]; rfl)
  | logInit filter =>
    rw [step] at h
    split at h
    · cases h
    · cases h
      rw [install]
      split <;> rfl

end Store

end OwnedHandles
