import OwnedHandles.Arith.IntType
import OwnedHandles.HandleKind

/-!
# Counters

A counter holds one integer of a bounded type. Deltas saturate: a sum beyond a bound of the type is
that bound.

- `Counter.add`: one delta.
- `Counter.addAll`: a batch of deltas, in order. `Counter.history` keeps every count on the way.
-/

namespace OwnedHandles

/-- A count in an integer type. -/
structure Counter (t : IntType) where
  count : t.Value
  deriving DecidableEq, Repr

namespace Counter

variable {t : IntType}

instance : HandleKind (Counter t) := ⟨"Counter"⟩

/-- The counter that nothing has been added to. -/
def zero : Counter t := ⟨t.zero⟩

instance : Inhabited (Counter t) := ⟨zero⟩

/-- Adds a delta, up to the bounds of the type. -/
def add (c : Counter t) (delta : t.Value) : Counter t :=
  ⟨t.saturate (c.count.val + delta.val)⟩

/-- Adds deltas one after the other. -/
def addAll (c : Counter t) (deltas : List t.Value) : Counter t :=
  deltas.foldl add c

/-- The counter before the first delta and after each one. -/
def history (c : Counter t) : List t.Value → List (Counter t)
  | [] => [c]
  | delta :: rest => c :: history (c.add delta) rest

/-- The history ends with the counter after all deltas. -/
theorem getLast?_history (c : Counter t) (deltas : List t.Value) :
    (c.history deltas).getLast? = some (c.addAll deltas) := by
  induction deltas generalizing c with
  | nil => rfl
  | cons delta rest ih =>
    rw [history, addAll, List.foldl_cons, List.getLast?_cons, ih]
    rfl

/-- The count as text. -/
def text (c : Counter t) : String :=
  s!"Counter({c.count.val})"

/-- The counter as it stands in a dump of a data structure. -/
def dump (c : Counter t) : String :=
  "Counter \x7b count: " ++ toString c.count.val ++ " \x7d"

end Counter

end OwnedHandles
