import HeatingHub.Sms.Basic
import HeatingHub.Text.Blank
import HeatingHub.Text.Line
import HeatingHub.Text.Utf8

/-!
# Received messages as files

The message daemon leaves each received message in a file of its own: a line `From: ` with the
number, further header lines, an empty line, and the text. A line break inside the text is left out.
-/

namespace HeatingHub.Sms

/-- What the first line of a received message begins with. -/
def fromMark : List Char := "From: ".toList

/-- The lines behind the first empty line. -/
def body (lines : List (List Char)) : List (List Char) :=
  (lines.dropWhile (!·.isEmpty)).tail

/-- Reads the content of a file. -/
def ofContent? (content : List Char) : Option Sms :=
  match Text.lines content with
  | [] => none
  | first :: others =>
    (Text.after? fromMark first).map fun number =>
      { number := String.ofList (Text.trim number), text := String.ofList (body others).flatten }

/-- Reads the bytes of a file; a file that is no text is no message. -/
def ofBytes? (bytes : List UInt8) : Option Sms :=
  (Text.decode? bytes).bind ofContent?

end HeatingHub.Sms
