/-!
# Spans of time

Spans of time in words. All times in this library are counted in whole milliseconds. The clocks of a
host are finer than that, and a finer unit would change the factor in `seconds` and the divisor in
`text`. What is said of times elsewhere only adds and compares them, and holds in any unit.
-/

namespace HeatingHub.Duration

/-- The milliseconds of a number of seconds. -/
def seconds (count : Nat) : Nat := 1000 * count

/-- The milliseconds of a number of minutes. -/
def minutes (count : Nat) : Nat := seconds (60 * count)

/-- The milliseconds of a number of hours. -/
def hours (count : Nat) : Nat := minutes (60 * count)

/-- A span in hours, minutes and whole seconds. -/
def text (milliseconds : Nat) : String :=
  let total := milliseconds / 1000
  toString (total / 3600) ++ "h" ++ toString (total % 3600 / 60) ++ "m" ++
    toString (total % 60) ++ "s"

/-- A number of seconds in days, hours, minutes and seconds. -/
def uptimeText (total : Nat) : String :=
  toString (total / 86400) ++ " days " ++ toString (total % 86400 / 3600) ++ "h " ++
    toString (total % 3600 / 60) ++ "m " ++ toString (total % 60) ++ "s"

end HeatingHub.Duration
