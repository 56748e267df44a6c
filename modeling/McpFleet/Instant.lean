/-
  File:      McpFleet/Instant.lean
  Subject:   Moments on the UTC time line, their order, and the grid of
             microseconds that a table keeps.

  A moment is a second since 1970 and nanoseconds behind it. In a leap second
  the nanoseconds go on from 10^9 to 2·10^9 behind the second before.
-/
import McpFleet.Dict

namespace McpFleet

/-- A point in time, in seconds since 1970 and nanoseconds behind that. -/
structure Instant where
  seconds : Int
  nanos : Nat
deriving DecidableEq, Repr

namespace Instant

/-! ## 1. Order -/

/-- Earlier second first, then fewer nanoseconds. -/
def precedes (a b : Instant) : Prop :=
  a.seconds < b.seconds ∨ (a.seconds = b.seconds ∧ a.nanos < b.nanos)

instance (a b : Instant) : Decidable (precedes a b) := by unfold precedes; infer_instance

instance : SortKey Instant where
  lt := precedes
  decLt := fun a b => inferInstanceAs (Decidable (precedes a b))
  irrefl a h := by unfold precedes at h; omega
  trans {a b c} h h' := by unfold precedes at *; omega
  connected a b := by
    unfold precedes
    by_cases hs : a.seconds = b.seconds
    · by_cases hn : a.nanos = b.nanos
      · refine .inr (.inl ?_)
        cases a; cases b
        simp only at hs hn
        rw [hs, hn]
      · omega
    · omega

/-! ## 2. Counting -/

/-- From this number of nanoseconds on the second is a leap second. -/
def nanosPerSecond : Nat := 1000000000

/-- The nanoseconds since 1970. -/
def totalNanos (t : Instant) : Int := t.seconds * nanosPerSecond + t.nanos

/-- The instant so many nanoseconds after 1970, or before if negative. -/
def ofTotalNanos (n : Int) : Instant := ⟨n / nanosPerSecond, (n % nanosPerSecond).toNat⟩

/-- The instant so many milliseconds after 1970. -/
def ofMillis (ms : Int) : Instant := ofTotalNanos (ms * 1000000)

/-- The instant so many milliseconds later. -/
def addMillis (t : Instant) (ms : Int) : Instant := ofTotalNanos (t.totalNanos + ms * 1000000)

/-! ## 3. The microsecond grid -/

/-- The second at which the year 2000 begins. -/
def year2000 : Int := 946684800

/-- Microseconds since 2000, cut toward that moment. -/
def microsSince2000 (t : Instant) : Int :=
  (t.totalNanos - year2000 * nanosPerSecond).tdiv 1000

/-- The moment on the microsecond grid that a table keeps for `t`. -/
def cutToMicros (t : Instant) : Instant :=
  ofTotalNanos (t.microsSince2000 * 1000 + year2000 * nanosPerSecond)

/-- Microseconds since 1970 of a moment on the grid. -/
def micros (t : Instant) : Int := t.totalNanos / 1000

end Instant

end McpFleet
