/-!
# Lines and fields

How a text falls into lines, how a line is cut at its first separator, and the marks at the two
ends of a field.
-/

namespace HeatingHub.Text

/-- The lines of a text. A line feed ends a line and takes one carriage return before it along;
what follows the last line feed is a line of its own unless it is empty, and keeps its carriage
returns. -/
def lines : List Char → List (List Char)
  | [] => []
  | '\n' :: rest => [] :: lines rest
  | '\r' :: '\n' :: rest => [] :: lines rest
  | c :: rest =>
    match lines rest with
    | [] => [[c]]
    | line :: others => (c :: line) :: others

/-- The parts before and after the first `separator`, or nothing when there is none. -/
def splitOnce (separator : Char) : List Char → Option (List Char × List Char)
  | [] => none
  | c :: rest =>
    if c = separator then some ([], rest)
    else (splitOnce separator rest).map fun parts => (c :: parts.1, parts.2)

/-- What follows `head` in a text that starts with it. -/
def after? (head text : List Char) : Option (List Char) :=
  head.isPrefixOf? text

/-- What comes before `tail` in a text that ends with it. -/
def before? (tail text : List Char) : Option (List Char) :=
  tail.isSuffixOf? text

/-- The pieces of a text between the occurrences of `separator`; an empty text is one piece. -/
def splitAt (separator : Char) (text : List Char) : List (List Char) :=
  text.splitOnP (· == separator)

end HeatingHub.Text
