/-!
# Timers

A timer is asked at certain times whether it is due. One that repeats starts anew when it fires, so
that it fires once however many periods were missed; one that does not repeat never fires again.
Times are whole milliseconds, but nothing here depends on the unit.
-/

namespace HeatingHub

/-- A timer. -/
structure Timer where
  period : Nat
  /-- The time from which the timer is due, if it will fire at all. -/
  next : Option Nat
  repeats : Bool
  deriving DecidableEq, Repr

namespace Timer

/-- A timer that fires a period after `now`, and a period after each time it fired. -/
def every (period now : Nat) : Timer :=
  { period, next := some (now + period), repeats := true }

/-- A timer that fires once, a delay after `now`. -/
def once (delay now : Nat) : Timer :=
  { period := delay, next := some (now + delay), repeats := false }

/-- The timer fires when it is asked at this time. -/
def isDue (timer : Timer) (now : Nat) : Bool :=
  timer.next.any (· ≤ now)

/-- The timer after it was asked at this time. -/
def ask (timer : Timer) (now : Nat) : Timer :=
  if timer.isDue now then
    { timer with next := if timer.repeats then some (now + timer.period) else none }
  else timer

end Timer

end HeatingHub
