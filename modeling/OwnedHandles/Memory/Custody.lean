import OwnedHandles.Memory.Heap

/-!
# Custody of payloads

Who owns a payload: while its handle is live, the holder of the handle; once it has been taken out,
the library again; once it has been dropped, nobody. Payloads are numbered in the order in which
they are handed out, so that each can be told from all others.

- `Custody.step`: one operation on a handle, with its outcome and what is reported.
- `Custody.run`: a sequence of operations.
-/

namespace OwnedHandles

/-- A payload with the number it was handed out under. -/
structure Owned (α : Type) where
  serial : Nat
  value : α
  deriving DecidableEq, Repr

/-- The payloads by owner, and how many have been handed out so far. -/
structure Custody (α : Type) where
  live : Heap (Owned α)
  taken : List (Owned α)
  dropped : List (Owned α)
  issued : Nat

/-- An operation on handles. A handle is handed out at an address of the allocator's choice. Payloads
that have been taken out are dropped one at a time, by their place among those that are left, or all
together. -/
inductive CustodyOp (α : Type) where
  | handOut (address : Address) (value : α)
  | look (handle : Address)
  | set (handle : Address) (value : α)
  | takeBack (handle : Address)
  | release (handle : Address)
  | dropOne (place : Nat)
  | dropTaken
  deriving DecidableEq, Repr

/-- The outcome of an operation, with the value it yields if any, the custody after it and what is
reported. -/
structure CustodyStep (α : Type) where
  outcome : Except AccessFault (Option α)
  after : Custody α
  events : List Event

namespace Custody

variable {α : Type}

/-- Nothing has been handed out. -/
def empty : Custody α := ⟨∅, [], [], 0⟩

/-- A fault leaves everything as it is and reports nothing. -/
def fault (c : Custody α) (e : AccessFault) : CustodyStep α :=
  ⟨.error e, c, []⟩

/-- The number of payloads dropped so far. -/
def drops (c : Custody α) : Nat :=
  c.dropped.length

variable [HandleKind α]

/-- Carries out one operation. -/
def step (c : Custody α) : CustodyOp α → CustodyStep α
  | .handOut address value =>
    let live := c.live.store address ⟨c.issued, value⟩
    ⟨.ok none, { c with live, issued := c.issued + 1 }, [.created (kindName α) address]⟩
  | .look handle =>
    match c.live.load handle with
    | .ok payload => ⟨.ok (some payload.value), c, []⟩
    | .error e => c.fault e
  | .set handle value =>
    match c.live.modify handle fun payload => { payload with value } with
    | .ok live => ⟨.ok (some value), { c with live }, []⟩
    | .error e => c.fault e
  | .takeBack handle =>
    match c.live.take handle with
    | .ok (payload, live) =>
      ⟨.ok (some payload.value), { c with live, taken := c.taken ++ [payload] },
        [.consumed (kindName α) handle]⟩
    | .error e => c.fault e
  | .release handle =>
    match c.live.free handle with
    | .ok (some payload, live) =>
      ⟨.ok none, { c with live, dropped := c.dropped ++ [payload] },
        [.released (kindName α) handle]⟩
    | .ok (none, live) => ⟨.ok none, { c with live }, []⟩
    | .error e => c.fault e
  | .dropOne place =>
    match c.taken[place]? with
    | some payload =>
      ⟨.ok none, { c with taken := c.taken.eraseIdx place, dropped := c.dropped ++ [payload] }, []⟩
    | none => ⟨.ok none, c, []⟩
  | .dropTaken =>
    ⟨.ok none, { c with taken := [], dropped := c.dropped ++ c.taken }, []⟩

/-- Carries out operations one after the other, faults included. -/
def run (c : Custody α) : List (CustodyOp α) → Custody α
  | [] => c
  | op :: rest => (c.step op).after.run rest

end Custody

end OwnedHandles
