import HeatingHub.Text.Letter

/-!
# Heater names and phone numbers

The rules for the two kinds of name that people type. A heater's name is in upper case once it has
been read; a phone number includes the country code and has no plus sign.
-/

namespace HeatingHub

/-- Heater names are not empty and consist of ASCII letters and digits. -/
def isHeaterName (name : List Char) : Bool :=
  !name.isEmpty && Text.allAlphanumeric name

/-- Phone numbers are 10 to 14 ASCII digits. -/
def isPhoneNumber (number : List Char) : Bool :=
  10 ≤ number.length && number.length ≤ 14 && Text.allDigits number

end HeatingHub
