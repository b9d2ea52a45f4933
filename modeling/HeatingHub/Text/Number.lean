/-!
# Whole numbers in text

A whole number is written as one or more digits of its base, with at most one plus sign before
them. Reading fails on anything else, and on a number above a limit.
-/

namespace HeatingHub.Text

/-- The value of a digit of the given base, letters of either case counting on from ten. -/
def digit? (base : Nat) (c : Char) : Option Nat :=
  let value :=
    if c.isDigit then some (c.toNat - '0'.toNat)
    else if c.isUpper then some (c.toNat - 'A'.toNat + 10)
    else if c.isLower then some (c.toNat - 'a'.toNat + 10)
    else none
  value.filter (· < base)

/-- The number that a row of digits denotes, most significant digit first. -/
def ofDigits (base : Nat) (digits : List Nat) : Nat :=
  digits.foldl (fun number digit => number * base + digit) 0

/-- The greatest number of 32 bits. -/
def greatest32 : Nat := 0xFFFFFFFF

/-- The greatest number of 64 bits. -/
def greatest64 : Nat := 0xFFFFFFFFFFFFFFFF

/-- The number that a text denotes in the given base, if it denotes one of at most `limit`. -/
def readNat? (base limit : Nat) (text : List Char) : Option Nat :=
  let digits := match text with
    | '+' :: rest => rest
    | _ => text
  if digits.isEmpty then none
  else ((digits.mapM (digit? base)).map (ofDigits base)).filter (· ≤ limit)

end HeatingHub.Text
