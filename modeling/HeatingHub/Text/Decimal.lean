import HeatingHub.Text.Letter
import HeatingHub.Text.Number

/-!
# Decimal numbers

Reading a decimal number as a count of whole seconds. The number is first rounded to the nearest
one with 53 significant bits, ties to even, and then its fraction is dropped; a negative number
counts as zero, and a number that exceeds 64 bits, infinity included, as the greatest count.
-/

namespace HeatingHub.Text

/-- A decimal number as written. -/
inductive Decimal
  /-- A number with its sign, digits and power of ten. -/
  | finite (negative : Bool) (digits : Nat) (exponent : Int)
  | infinite (negative : Bool)
  | notANumber

/-- The leading digits of a text and what follows them. -/
def spanDigits (text : List Char) : List Char × List Char :=
  (text.takeWhile Char.isDigit, text.dropWhile Char.isDigit)

/-- The number that a row of decimal digits denotes. -/
def ofDecimalDigits (digits : List Char) : Nat :=
  ofDigits 10 (digits.map fun c => c.toNat - '0'.toNat)

/-- The exponent part of a number: nothing at all, or `e`, a sign or none, and digits. -/
def readExponent? : List Char → Option Int
  | [] => some 0
  | mark :: rest =>
    if mark.toUpper = 'E' then
      let negative := rest.head? = some '-'
      let digits := if negative ∨ rest.head? = some '+' then rest.tail else rest
      if digits.isEmpty ∨ !allDigits digits then none
      else
        let size : Int := ofDecimalDigits digits
        some (if negative then -size else size)
    else none

/-- The number without its sign: digits, a fraction or none, and an exponent or none. There is at
least one digit before or after the point. -/
def readUnsigned? (negative : Bool) (text : List Char) : Option Decimal :=
  match spanDigits text with
  | (whole, '.' :: rest) =>
    let (fraction, rest) := spanDigits rest
    if whole.isEmpty ∧ fraction.isEmpty then none
    else (readExponent? rest).map fun exponent =>
      .finite negative (ofDecimalDigits (whole ++ fraction)) (exponent - fraction.length)
  | (whole, rest) =>
    if whole.isEmpty then none
    else (readExponent? rest).map (.finite negative (ofDecimalDigits whole))

/-- The decimal number that a text denotes. The names of infinity and of what is not a number are
known in any case of their letters. -/
def readDecimal? (text : List Char) : Option Decimal :=
  let negative := text.head? = some '-'
  let size := if negative ∨ text.head? = some '+' then text.tail else text
  let name := String.ofList (upper size)
  if name = "INF" ∨ name = "INFINITY" then some (.infinite negative)
  else if name = "NAN" then some .notANumber
  else readUnsigned? negative size

/-- The quotient of two numbers rounded to the nearest whole number, a tie to the even one. -/
def divideToEven (number divisor : Nat) : Nat :=
  let quotient := number / divisor
  let twice := 2 * (number % divisor)
  if twice < divisor ∨ (twice = divisor ∧ quotient % 2 = 0) then quotient else quotient + 1

/-- The quotient of two numbers rounded to 53 significant bits, without its fraction. -/
def wholeOfQuotient (number divisor : Nat) : Nat :=
  let whole := number / divisor
  if whole = 0 then divideToEven (number <<< 53) divisor >>> 53
  else if whole.log2 < 53 then
    let places := 52 - whole.log2
    divideToEven (number <<< places) divisor >>> places
  else
    let places := whole.log2 - 52
    divideToEven number (divisor <<< places) <<< places

/-- The whole seconds of a decimal number. Powers of ten far outside the range of the counts are
not computed. -/
def Decimal.wholeSeconds : Decimal → Nat
  | .notANumber => 0
  | .infinite negative => if negative then 0 else greatest64
  | .finite negative digits exponent =>
    if negative ∨ digits = 0 then 0
    else
      let magnitude : Int := (toString digits).length + exponent
      if magnitude < 0 then 0
      else if 25 < magnitude then greatest64
      else
        let scaled := match exponent with
          | .ofNat places => wholeOfQuotient (digits * Nat.pow 10 places) 1
          | .negSucc places => wholeOfQuotient digits (Nat.pow 10 (places + 1))
        min scaled greatest64

end HeatingHub.Text
