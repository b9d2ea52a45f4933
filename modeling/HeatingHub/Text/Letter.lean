/-!
# Letters and digits

The hub's names, numbers and key words are ASCII: folding to upper case and the classes of letters
and digits leave every other character alone.
-/

namespace HeatingHub.Text

/-- The text with its ASCII letters in upper case. -/
def upper (text : List Char) : List Char :=
  text.map Char.toUpper

/-- The string with its ASCII letters in upper case. -/
def upperString (text : String) : String :=
  String.ofList (upper text.toList)

/-- Every character is an ASCII digit. -/
def allDigits (text : List Char) : Bool :=
  text.all Char.isDigit

/-- Every character is an ASCII letter or digit. -/
def allAlphanumeric (text : List Char) : Bool :=
  text.all Char.isAlphanum

end HeatingHub.Text
