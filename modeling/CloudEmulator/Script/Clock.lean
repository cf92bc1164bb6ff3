/-!
# The clocks of a run

A script may ask for the time. What it is told is not up to the script, so a run begins with
all that its readings will show, one after the other.
-/

namespace CloudEmulator.Script

/-- What the clocks of the host show at one moment. -/
structure Moment where
  /-- The seconds since the beginning of 1970. -/
  seconds : Int
  /-- The nanoseconds of a clock that is for durations, and begins anywhere. -/
  steady : Int
  deriving DecidableEq, Repr

/-- What readings of the clocks show, by their numbers. Nothing is assumed of it: clocks may
stand still and go back. -/
structure Clock where
  readings : Nat → Moment

namespace Clock

/-- What the next reading shows. -/
def now (c : Clock) : Moment :=
  c.readings 0

/-- The readings behind the next one. -/
def later (c : Clock) : Clock :=
  ⟨fun n => c.readings (n + 1)⟩

/-- Clocks that always show the same. -/
def still (m : Moment) : Clock :=
  ⟨fun _ => m⟩

end Clock

end CloudEmulator.Script
