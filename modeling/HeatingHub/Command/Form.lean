import HeatingHub.Command.Grammar
import HeatingHub.Text.Pattern

/-!
# The forms of commands

Commands with words of the sender's own have a form: a pattern that their content must match, and a
reading of the parts that are kept. The forms are tried one after the other, and the first one that
matches settles the command, even when its parts make none.
-/

namespace HeatingHub.Command

open Text (Pattern)

/-- Patterns with blanks between them. -/
def row (first : Pattern) : List Pattern → Pattern
  | [] => first
  | next :: rest => .seq first (.seq (.many Text.isBlank) (row next rest))

/-- The letters of a word of the grammar. -/
def keyword (word : String) : Pattern :=
  .literal word.toList

/-- A word of the sender's own. -/
def ownWord : Pattern :=
  .kept (.many (!Text.isBlank ·))

/-- A word for a mode. -/
def modeWord : Pattern :=
  .kept (.either (keyword "OFF") (.either (keyword "ECO") (.either (keyword "DEFROST")
    (.either (keyword "COMFORT") (keyword "ON")))))

/-- The words that say what is done to a phone. -/
def phoneEdit : Pattern :=
  .kept (.either (keyword "ADD")
    (.either (keyword "REMOVE") (row (keyword "SET") [keyword "EMERGENCY"])))

/-- The forms of commands. -/
inductive Form
  | all
  | heater
  | get
  | unlock
  | phone
  | debug
  deriving DecidableEq

namespace Form

/-- All forms, in the order in which they are tried. -/
def every : List Form := [.all, .heater, .get, .unlock, .phone, .debug]

/-- What a content of this form looks like. -/
def pattern : Form → Pattern
  | .all => row (keyword "ALL") [modeWord]
  | .heater => row (keyword "HEATER") [.kept (.few (· != '\n')), modeWord]
  | .get => row (keyword "GET") [keyword "HEATER", .kept (.many (· != '\n'))]
  | .unlock => row (keyword "UNLOCK") [ownWord]
  | .phone => row phoneEdit [keyword "PHONE", ownWord, ownWord]
  | .debug => row (keyword "DEBUG") [ownWord]

/-- The command of the parts that are kept. -/
def command : Form → List (List Char) → Command
  | .all, [word] => (ModeWord.ofText? (String.ofList word)).elim .invalid .all
  | .heater, [name, word] =>
    if isHeaterName name then
      (ModeWord.ofText? (String.ofList word)).elim .invalid (.heater (String.ofList name))
    else .invalidHeaterName
  | .get, [field] =>
    let name := Text.trim field
    if isHeaterName name then .getHeater (String.ofList name) else .invalidName
  | .unlock, [pin] => .unlock (String.ofList pin)
  | .phone, [edit, pin, number] =>
    let make :=
      if edit = "ADD".toList then addPhone
      else if edit = "REMOVE".toList then removePhone
      else setEmergencyPhone
    make (String.ofList pin) (String.ofList number)
  | .debug, [topic] => (Topic.ofText? (String.ofList topic)).elim .invalid .debug
  | _, _ => .invalid

/-- The command of a content, if it has this form. -/
def read? (form : Form) (content : List Char) : Option Command :=
  (form.pattern.parts? content).map form.command

end Form

/-- The command of a content by the first form that it has. -/
def ofForms (content : List Char) : Command :=
  (Form.every.findSome? (·.read? content)).getD .invalid

/-- The command that a text asks for, by the forms of commands. -/
def parseByForms (text : String) : Command :=
  match ofPhrase? (String.ofList (content text)) with
  | some command => command
  | none => if "HELP".toList.isPrefixOf (content text) then .help else ofForms (content text)

end HeatingHub.Command
