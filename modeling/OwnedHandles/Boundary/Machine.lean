import OwnedHandles.Boundary.Call
import OwnedHandles.Boundary.Ledger
import OwnedHandles.Boundary.Output

/-!
# The boundary

The state that all calls share, and what a call does to it. A call on a handle is checked against
the ledger first and touches the payload after; a call that breaks the contract ends the program.
What a call prints is told apart from what it gives back.

- `Boundary.step`: one call.
- `Boundary.run`: a sequence of calls, up to the first one that ends the program.
- `Boundary.alter`, `Boundary.freeUntracked`: what the rest of the program can do to a payload
  without the ledger being told.
- `Boundary.logLines`: the lines that reach standard error, once a filter has been installed.
-/

namespace OwnedHandles

/-- The payloads, the ledger of live handles, the event filter if one has been installed, and the
way to standard output. -/
structure Boundary where
  heap : Heap Cell
  ledger : Ledger
  filter : Option Filter
  output : LineOutput

/-- Why a call ends the program. -/
inductive Violation where
  | nullArgument (argument : String)
  | access (fault : AccessFault)
  | ledger (fault : LedgerFault)
  | kindMismatch (found expected : Kind)
  | derivation (d : DeriveDefect)
  | filterText (s : Text.Straddle)
  deriving DecidableEq, Repr

/-- A violation, and the call that it happened in. -/
structure Abort where
  call : String
  violation : Violation
  deriving DecidableEq, Repr

/-- The last words of the program; addresses are shown as asked for. -/
def Abort.message (showAddress : Address → String) (a : Abort) : String :=
  match a.violation with
  | .nullArgument argument => s!"called `{a.call}` with `{argument}` as null pointer"
  | .access fault => fault.message a.call
  | .ledger fault => fault.message showAddress a.call
  | .kindMismatch found expected =>
    s!"called `{a.call}` on a {found.name} payload in place of a {expected.name}"
  | .derivation d => d.message
  | .filterText s => s.message

/-- An address as a hexadecimal numeral. -/
def hexAddress (address : Address) : String :=
  "0x" ++ String.ofList (Nat.toDigits 16 address)

/-- What a call gives back or ends with, the state after it, what is reported, and what reaches
standard output. -/
structure BoundaryStep where
  outcome : Except Abort Reply
  after : Boundary
  events : List Event
  printed : String

namespace Boundary

/-- Nothing has been handed out, and no filter is installed. -/
def empty : Boundary := ⟨∅, Ledger.empty, none, LineOutput.empty⟩

/-- A violation leaves the state as it is and reports nothing. -/
def abort (b : Boundary) (call : String) (violation : Violation) : BoundaryStep :=
  ⟨.error ⟨call, violation⟩, b, [], ""⟩

/-- Moves a payload to a fresh address, enters it in the ledger and hands it out. The payload has
moved, and this is reported, before the ledger is told. -/
def handOut (b : Boundary) (call : String) (address : Address) (cell : Cell)
    (events : List Event) : BoundaryStep :=
  let heap := b.heap.store address cell
  let moved := events ++ [.created cell.kind.name address]
  match b.ledger.track cell.kind.name address with
  | .error d => ⟨.error ⟨call, .ledger (.defect d)⟩, { b with heap }, moved, ""⟩
  | .ok (ledger, displaced) =>
    ⟨.ok (.handle cell.kind address), { b with heap, ledger }, moved ++ displaced, ""⟩

/-- Finds the payload of a handle, after the ledger has approved of it. The null handle does not
reach the ledger. -/
def borrow (b : Boundary) (kind : Kind) (handle : Address) : Except Violation kind.Payload :=
  let approved :=
    if handle = nullAddress then .ok () else b.ledger.check kind.name handle
  match approved with
  | .error fault => .error (.ledger fault)
  | .ok () =>
    match b.heap.load handle with
    | .error fault => .error (.access fault)
    | .ok cell =>
      match cell.as? kind with
      | some payload => .ok payload
      | none => .error (.kindMismatch cell.kind kind)

/-- Strikes a handle out of the ledger, then drops its payload. The null handle is ignored. The
release is reported before memory is touched. -/
def release (b : Boundary) (call : String) (kind : Kind) (handle : Address) : BoundaryStep :=
  if handle = nullAddress then ⟨.ok .nothing, b, [], ""⟩
  else
    match b.ledger.retire kind.name handle with
    | .error fault => b.abort call (.ledger fault)
    | .ok (ledger, notices) =>
      let events := notices ++ [.released kind.name handle]
      match b.heap.free handle with
      | .error fault => ⟨.error ⟨call, .access fault⟩, { b with ledger }, events, ""⟩
      | .ok (_, heap) => ⟨.ok .nothing, { b with heap, ledger }, events, ""⟩

/-- Prints a line. A fault of standard output is reported and otherwise ignored. -/
def print (b : Boundary) (line : String) (fault : Option String) : BoundaryStep :=
  let (output, printed) := b.output.write fault.isNone line
  ⟨.ok .nothing, { b with output }, (fault.map Event.printFailed).toList, printed⟩

/-- Carries out an action on behalf of a call. Only the first filter is installed. -/
def perform (b : Boundary) (call : String) (fresh : Address) : Action → BoundaryStep
  | .answer reply => ⟨.ok reply, b, [], ""⟩
  | .create cell => b.handOut call fresh cell []
  | .refuse argument => b.abort call (.nullArgument argument)
  | .use kind handle effect =>
    match b.borrow kind handle with
    | .error violation => b.abort call violation
    | .ok payload =>
      match effect payload with
      | .answer reply => ⟨.ok reply, b, [], ""⟩
      | .print line fault => b.print line fault
      | .update changed =>
        ⟨.ok .nothing, { b with heap := b.heap.store handle ⟨kind, changed⟩ }, [], ""⟩
      | .derive cell events => b.handOut call fresh cell events
      | .fail d => b.abort call (.derivation d)
  | .drop kind handle => b.release call kind handle
  | .install (.error s) => b.abort call (.filterText s)
  | .install (.ok filter) =>
    match b.filter with
    | none => ⟨.ok (.flag true), { b with filter := some filter }, [], ""⟩
    | some _ => ⟨.ok (.flag false), b, [], ""⟩

/-- One call. -/
def step (b : Boundary) (world : Surroundings) (call : Call) : BoundaryStep :=
  b.perform call.name world.freshAddress (call.action world)

/-- Calls one after the other, each in its surroundings, up to the first that ends the program. -/
def run (b : Boundary) : List (Surroundings × Call) → List BoundaryStep
  | [] => []
  | (world, call) :: rest =>
    let first := b.step world call
    match first.outcome with
    | .ok _ => first :: first.after.run rest
    | .error _ => [first]

/-- Changes the payload of a handle of the given kind in place. -/
def alter (b : Boundary) (kind : Kind) (handle : Address)
    (change : kind.Payload → kind.Payload) : Option Boundary :=
  match b.heap[handle]?.bind (·.as? kind) with
  | some payload => some { b with heap := b.heap.store handle ⟨kind, change payload⟩ }
  | none => none

/-- Drops the payload of a handle and leaves its entry in the ledger. The release is reported under
the kind that the handle is taken for. -/
def freeUntracked (b : Boundary) (kind : Kind) (handle : Address) :
    Option (Boundary × List Event) :=
  match b.heap.take handle with
  | .ok (_, heap) => some ({ b with heap }, [.released kind.name handle])
  | .error _ => none

/-- How lines on standard error are written: texts stand in quotes, and addresses are left out. -/
def logStyle : LineStyle := ⟨true, none⟩

/-- The lines that events leave on standard error. -/
def logLines (b : Boundary) (events : List Event) : List String :=
  match b.filter with
  | none => []
  | some filter => (events.filter filter.enables).map (Event.line logStyle)

end Boundary

end OwnedHandles
