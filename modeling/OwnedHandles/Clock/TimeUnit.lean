import OwnedHandles.Clock.Duration

/-!
# Units of time

- `TimeUnit`: seconds, milliseconds, microseconds and nanoseconds.
- `UnitChoice`: one of them, or the choice left to the duration that is shown.
- `UnitChoice.resolve`: the unit for a duration.

A suffix and a length belong to a unit; asking the open choice for them is a fault.
-/

namespace OwnedHandles

/-- A unit of time. -/
inductive TimeUnit where
  | seconds
  | millis
  | micros
  | nanos
  deriving DecidableEq, Repr

namespace TimeUnit

/-- The letters behind a number in this unit. -/
def suffix : TimeUnit → String
  | .seconds => "s"
  | .millis => "ms"
  | .micros => "µs"
  | .nanos => "ns"

/-- The nanoseconds in one unit. -/
def nanosPerUnit : TimeUnit → Nat
  | .seconds => nanosPerSecond
  | .millis => 1000000
  | .micros => 1000
  | .nanos => 1

theorem nanosPerUnit_pos (u : TimeUnit) : 0 < u.nanosPerUnit := by
  cases u <;> decide

/-- The next larger unit. -/
def larger : TimeUnit → Option TimeUnit
  | .nanos => some .micros
  | .micros => some .millis
  | .millis => some .seconds
  | .seconds => none

/-- A unit and all larger ones, upwards. -/
def upward : TimeUnit → List TimeUnit
  | .nanos => [.nanos, .micros, .millis, .seconds]
  | .micros => [.micros, .millis, .seconds]
  | .millis => [.millis, .seconds]
  | .seconds => [.seconds]

/-- The way upwards goes by the next larger unit. -/
theorem upward_eq (u : TimeUnit) :
    u.upward = u :: (match u.larger with | some next => next.upward | none => []) := by
  cases u <;> rfl

/-- The largest unit of which a duration has at least one; nanoseconds for the shortest ones. -/
def largestIn (d : Duration) : TimeUnit :=
  if seconds.nanosPerUnit ≤ d.nanos then .seconds
  else if millis.nanosPerUnit ≤ d.nanos then .millis
  else if micros.nanosPerUnit ≤ d.nanos then .micros
  else .nanos

end TimeUnit

/-- The unit that a text is asked for in: a fixed one, or the one that suits the duration. -/
inductive UnitChoice where
  | auto
  | fixed (unit : TimeUnit)
  deriving DecidableEq, Repr

/-- A question that the open choice has no answer to, with the name of the question. -/
structure OpenChoice where
  question : String
  deriving DecidableEq, Repr

/-- The wording of an unanswered question. -/
def OpenChoice.message (e : OpenChoice) : String :=
  s!"called `DurationUnit::{e.question}` on `Auto`"

namespace UnitChoice

instance : Inhabited UnitChoice := ⟨.auto⟩

/-- All choices, in the order of their codes. -/
def all : List UnitChoice :=
  [.auto, .fixed .seconds, .fixed .millis, .fixed .micros, .fixed .nanos]

/-- The name of a choice. -/
def name : UnitChoice → String
  | .auto => "Auto"
  | .fixed .seconds => "Seconds"
  | .fixed .millis => "Millis"
  | .fixed .micros => "Micros"
  | .fixed .nanos => "Nanos"

/-- The number that stands for a choice in C. -/
def code : UnitChoice → Nat
  | .auto => 0
  | .fixed .seconds => 1
  | .fixed .millis => 2
  | .fixed .micros => 3
  | .fixed .nanos => 4

/-- The suffix of a fixed unit. -/
def suffix : UnitChoice → Except OpenChoice String
  | .auto => .error ⟨"suffix"⟩
  | .fixed unit => .ok unit.suffix

/-- The length of a fixed unit. -/
def nanosPerUnit : UnitChoice → Except OpenChoice Nat
  | .auto => .error ⟨"nanos_per_unit"⟩
  | .fixed unit => .ok unit.nanosPerUnit

/-- The unit for a duration. -/
def resolve (choice : UnitChoice) (d : Duration) : TimeUnit :=
  match choice with
  | .auto => TimeUnit.largestIn d
  | .fixed unit => unit

end UnitChoice

end OwnedHandles
