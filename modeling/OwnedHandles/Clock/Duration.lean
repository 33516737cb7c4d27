import OwnedHandles.Arith.Binary64
import OwnedHandles.HandleKind

/-!
# Durations

A duration is a whole number of nanoseconds below 2^64 seconds.

- `Duration.ofParts`: from seconds and the nanoseconds beyond them. `Duration.ofNanos`: from
  nanoseconds, up to the longest duration.
- `Duration.seconds`, `Duration.subsecNanos`: the parts.
- `Duration.nanosSaturating`: the nanoseconds in 64 bits.
- `Duration.secondsFloat`: the seconds as a float.
-/

namespace OwnedHandles

/-- The nanoseconds in one second. -/
def nanosPerSecond : Nat := 1000000000

/-- The seconds of a duration stay below this bound, the number of 64-bit words. -/
def secondsBound : Nat := Arith.twoPow 64

/-- An elapsed time, in whole nanoseconds. -/
structure Duration where
  nanos : Nat
  nanos_lt : nanos < secondsBound * nanosPerSecond
  deriving DecidableEq, Repr

namespace Duration

instance : HandleKind Duration := ⟨"Duration"⟩

/-- No time at all. -/
def zero : Duration := ⟨0, by decide⟩

instance : Inhabited Duration := ⟨zero⟩

/-- The duration of seconds and the nanoseconds beyond them, if both parts are in range. -/
def ofParts (seconds subsecNanos : Nat) : Option Duration :=
  if h : seconds < secondsBound ∧ subsecNanos < nanosPerSecond then
    some ⟨seconds * nanosPerSecond + subsecNanos, by
      have hle : (seconds + 1) * nanosPerSecond ≤ secondsBound * nanosPerSecond :=
        Nat.mul_le_mul_right _ h.1
      rw [Nat.add_mul, Nat.one_mul] at hle
      exact Nat.lt_of_lt_of_le (Nat.add_lt_add_left h.2 _) hle⟩
  else none

/-- The duration of a number of nanoseconds, or the longest duration there is. -/
def ofNanos (nanos : Nat) : Duration :=
  if h : nanos < secondsBound * nanosPerSecond then ⟨nanos, h⟩
  else ⟨secondsBound * nanosPerSecond - 1, by decide⟩

/-- The whole seconds. -/
def seconds (d : Duration) : Nat :=
  d.nanos / nanosPerSecond

/-- The nanoseconds beyond the whole seconds. -/
def subsecNanos (d : Duration) : Nat :=
  d.nanos % nanosPerSecond

/-- The parts make up the duration. -/
theorem seconds_mul_add_subsecNanos (d : Duration) :
    d.seconds * nanosPerSecond + d.subsecNanos = d.nanos :=
  Nat.div_add_mod' _ _

/-- The nanoseconds as a 64-bit word, the greatest word if there are more. -/
def nanosSaturating (d : Duration) : Nat :=
  min d.nanos (Arith.twoPow 64 - 1)

/-- The seconds as a float: the whole seconds and the fraction are rounded each on its own, then
added. -/
def secondsFloat (d : Duration) : Binary64 :=
  Binary64.ofNat d.seconds + Binary64.ofNat d.subsecNanos / Binary64.ofNat nanosPerSecond

/-- Tells whether no time has passed. -/
def isZero (d : Duration) : Bool :=
  d.nanos == 0

/-- Durations are ordered by their length. -/
instance : Ord Duration where
  compare a b := compare a.nanos b.nanos

end Duration

end OwnedHandles
