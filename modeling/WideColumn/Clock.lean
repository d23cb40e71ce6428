import WideColumn.Error

/-!
# Clocks

Time is a number of seconds that never runs backwards: a clock is advanced by hand, and an advance
below zero is refused.
-/
namespace WideColumn

/-- A clock that shows what it was set to. -/
structure Clock where
  /-- The reading. -/
  now : Number

/-- Let time pass. -/
def Clock.advance (clock : Clock) (seconds : Number) : Except Error Clock :=
  if seconds < .int 0 then .error (.negativeAdvance seconds) else .ok ⟨clock.now + seconds⟩

/-- The least period at which a flush timer polls. -/
def leastPollPeriod : Number := .float 0.005

/-- The period at which a flush timer polls: a quarter of the flush interval, so that a flush is
late by at most that much. -/
def pollPeriod (interval : Number) : Number :=
  let quarter := Number.float (interval.toFloat / 4.0)
  if quarter < leastPollPeriod then leastPollPeriod else quarter

end WideColumn
