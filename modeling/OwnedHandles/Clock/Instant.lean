import OwnedHandles.Clock.Duration

/-!
# Instants

An instant keeps two clock readings: the monotonic clock, by which durations are measured, and the
wall clock, which only tells when it was. Readings are inputs; nothing here asks a clock.
-/

namespace OwnedHandles

/-- A moment: nanoseconds on the monotonic clock and on the wall clock, each from a fixed origin. -/
structure Instant where
  monotonic : Int
  wall : Int
  deriving DecidableEq, Repr

namespace Instant

instance : HandleKind Instant := ⟨"Instant"⟩

/-- The time from one instant to a later one; zero if it is not later. -/
def timeUntil (a b : Instant) : Duration :=
  Duration.ofNanos (b.monotonic - a.monotonic).toNat

/-- The time passed since an instant, at the present reading of the clocks. -/
def elapsed (start present : Instant) : Duration :=
  start.timeUntil present

end Instant

end OwnedHandles
