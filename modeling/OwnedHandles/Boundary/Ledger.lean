import OwnedHandles.Memory.Heap
import OwnedHandles.Slots.Table

/-!
# The ledger of live handles

Every handle that crosses the boundary is entered here, under its address, with the name of its
kind. A call is checked against the ledger before it touches a payload.

- `Ledger.track`: enters a new handle. An address that is handed out again while it still counts as
  live displaces the old entry, which is reported.
- `Ledger.check`: the handle is live and of the kind that is expected.
- `Ledger.retire`: checks a handle and strikes it out.

The entries live in a slot table, and a map leads from addresses to their keys.
-/

namespace OwnedHandles

/-- A live handle: the name of its kind and its address. -/
structure Tracked where
  kind : String
  address : Address
  deriving DecidableEq, Repr

instance : HandleKind Tracked := ⟨"TrackedHandle"⟩

/-- Live handles in a slot table, and their keys by address. -/
structure Ledger where
  handles : SlotTable Tracked
  live : Std.ExtTreeMap Address Key

/-- A ledger that contradicts itself. -/
inductive LedgerDefect where
  | table (d : TableDefect)
  | liveWithoutKey
  | releaseRefused (e : KeyError)
  deriving DecidableEq, Repr

/-- Why a handle is turned down: it is of another kind, or not live. -/
inductive LedgerFault where
  | wrongKind (found expected : String)
  | notLive (expected : String) (address : Address)
  | defect (d : LedgerDefect)
  deriving DecidableEq, Repr

namespace LedgerFault

/-- The wording of a fault, with the name of the call; addresses are shown as asked for. -/
def message (showAddress : Address → String) (call : String) : LedgerFault → String
  | .wrongKind found expected =>
    s!"contract violation: called `{call}` with a {found} handle " ++
      s!"where a {expected} handle was expected"
  | .notLive expected address =>
    s!"contract violation: called `{call}` with a released or unknown {expected} handle " ++
      s!"({showAddress address})"
  | .defect (.table d) => d.message
  | .defect .liveWithoutKey =>
    defectText "`Ledger::check` accepted an address that is not live"
  | .defect (.releaseRefused e) => s!"contract violation: called `{call}`: {e.message}"

end LedgerFault

namespace Ledger

/-- No handle is live. -/
def empty : Ledger := ⟨∅, ∅⟩

/-- Enters a handle. The entry that it displaces, if any, is released and reported. -/
def track (l : Ledger) (kind : String) (address : Address) :
    Except LedgerDefect (Ledger × List Event) :=
  match l.handles.create ⟨kind, address⟩ with
  | .error d => .error (.table d)
  | .ok (key, handles) =>
    let live := l.live.insert address key
    match l.live[address]? with
    | none => .ok (⟨handles, live⟩, [])
    | some previous =>
      match handles.release previous with
      | .ok removal =>
        let stale := removal.value
        .ok (⟨removal.table, live⟩, removal.events ++ [.displaced stale.kind stale.address])
      | .error (.refused _) => .ok (⟨handles, live⟩, [])
      | .error (.defect d) => .error (.table d)

/-- The entry of an address. -/
def find? (l : Ledger) (address : Address) : Option Tracked :=
  match l.live[address]? with
  | some key => (l.handles.read key).toOption
  | none => none

/-- Tells whether a handle is live and of the expected kind, and why not. -/
def check (l : Ledger) (kind : String) (address : Address) : Except LedgerFault Unit :=
  match l.find? address with
  | some tracked =>
    if tracked.kind = kind then .ok () else .error (.wrongKind tracked.kind kind)
  | none => .error (.notLive kind address)

/-- Checks a handle and strikes it out. -/
def retire (l : Ledger) (kind : String) (address : Address) :
    Except LedgerFault (Ledger × List Event) :=
  match l.check kind address with
  | .error fault => .error fault
  | .ok () =>
    match l.live[address]? with
    | none => .error (.defect .liveWithoutKey)
    | some key =>
      match l.handles.release key with
      | .ok removal => .ok (⟨removal.table, l.live.erase address⟩, removal.events)
      | .error (.refused e) => .error (.defect (.releaseRefused e))
      | .error (.defect d) => .error (.defect (.table d))

end Ledger

end OwnedHandles
