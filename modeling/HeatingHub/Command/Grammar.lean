import HeatingHub.Command.Basic
import HeatingHub.Name
import HeatingHub.Text.Blank
import HeatingHub.Text.Line

/-!
# The grammar of commands

A command is read from the content of a text: the text without the blanks at its ends, in upper
case. A few commands are one fixed content, `HELP` is any content that begins so, and all others
are words with blanks between them. A heater command whose name is invalid is still told from other
invalid texts when the name stands on one line.
-/

namespace HeatingHub.Command

/-- The commands that are one fixed content. -/
def ofPhrase? (content : String) : Option Command :=
  match content with
  | "PING" => some .ping
  | "VERSION" => some .version
  | "GET DEFAULT" => some .getDefault
  | "GET IP" => some .getIp
  | "LOCK" => some .lock
  | "REMOVE EMERGENCY PHONE" => some .removeEmergencyPhone
  | _ => none

/-- The text reads as blanks, a field within one line, and blanks again. A text of blanks alone
does when a character between its first and its last can be the field. -/
def holdsField (text : List Char) : Bool :=
  let field := Text.trim text
  if field.isEmpty then text.tail.dropLast.any (· != '\n') else field.all (· != '\n')

/-- The content without its first word and the blanks behind it. -/
def dropWord (content : List Char) : List Char :=
  Text.trimStart (content.dropWhile (!Text.isBlank ·))

/-- `ALL` and the word for a mode. -/
def ofAll : List String → Command
  | [word] => (ModeWord.ofText? word).elim .invalid .all
  | _ => .invalid

/-- `HEATER`, a name, and the word for a mode. -/
def ofHeater (content : List Char) (arguments : List String) : Command :=
  match arguments.getLast?.bind ModeWord.ofText? with
  | none => .invalid
  | some word =>
    match arguments with
    | [name, _] =>
      if isHeaterName name.toList then .heater name word else .invalidHeaterName
    | _ =>
      let rest := content.dropWhile (!Text.isBlank ·)
      if holdsField (rest.take (rest.length - word.text.length)) then .invalidHeaterName
      else .invalid

/-- `GET`, `HEATER` and a name. -/
def ofGet (content : List Char) : List String → Command
  | "HEATER" :: _ :: _ =>
    let name := dropWord (dropWord content)
    if isHeaterName name then .getHeater (String.ofList name)
    else if name.all (· != '\n') then .invalidName
    else .invalid
  | _ => .invalid

/-- `UNLOCK` and the PIN. -/
def ofUnlock : List String → Command
  | [pin] => .unlock pin
  | _ => .invalid

/-- `ADD`, `PHONE`, the PIN and a number. -/
def ofAdd : List String → Command
  | ["PHONE", pin, number] => .addPhone pin number
  | _ => .invalid

/-- `REMOVE`, `PHONE`, the PIN and a number. -/
def ofRemove : List String → Command
  | ["PHONE", pin, number] => .removePhone pin number
  | _ => .invalid

/-- `SET`, `EMERGENCY`, `PHONE`, the PIN and a number. -/
def ofSet : List String → Command
  | ["EMERGENCY", "PHONE", pin, number] => .setEmergencyPhone pin number
  | _ => .invalid

/-- `DEBUG` and a topic. -/
def ofDebug : List String → Command
  | [topic] => (Topic.ofText? topic).elim .invalid .debug
  | _ => .invalid

/-- The commands that are words, told apart by the first. -/
def ofWords (content : List Char) : List String → Command
  | "ALL" :: arguments => ofAll arguments
  | "HEATER" :: arguments => ofHeater content arguments
  | "GET" :: arguments => ofGet content arguments
  | "UNLOCK" :: arguments => ofUnlock arguments
  | "ADD" :: arguments => ofAdd arguments
  | "REMOVE" :: arguments => ofRemove arguments
  | "SET" :: arguments => ofSet arguments
  | "DEBUG" :: arguments => ofDebug arguments
  | _ => .invalid

/-- The command of a content. -/
def ofContent (content : List Char) : Command :=
  match ofPhrase? (String.ofList content) with
  | some command => command
  | none =>
    if "HELP".toList.isPrefixOf content then .help
    else ofWords content ((Text.words content).map String.ofList)

/-- The content of a text: without the blanks at its ends, in upper case. -/
def content (text : String) : List Char :=
  Text.upper (Text.trim text.toList)

/-- The command that a text asks for. -/
def parse (text : String) : Command :=
  ofContent (content text)

end HeatingHub.Command
