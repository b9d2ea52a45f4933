import HeatingHub.Host.Vitals
import HeatingHub.Text.Blank
import HeatingHub.Text.Line
import HeatingHub.Text.Number
import HeatingHub.Text.Utf8

/-!
# The modem

The modem is asked over a serial line whether it answers, whether its SIM card is ready, and
whether it is registered in the network. A question that is answered badly ends the conversation.
-/

namespace HeatingHub

/-- The registration that a reply to `AT+CREG?` reports: the second of the numbers behind the mark,
on the first line that has the mark. -/
def ModemStatus.ofRegistration (reply : List Char) : ModemStatus :=
  let marked := (Text.lines reply).findSome? fun line =>
    Text.after? "+CREG:".toList (Text.trim line)
  let number := (marked.bind fun rest => (Text.splitAt ',' rest)[1]?).bind fun field =>
    Text.readNat? 10 255 (Text.trim field)
  match number with
  | some 0 => .notRegistered
  | some 1 => .registered
  | some 2 => .searching
  | some 3 => .denied
  | some 5 => .roaming
  | _ => .unknown

/-- The device nodes of the modem and what is behind them. -/
structure Modem where
  hasDataNode : Bool := false
  hasControlNode : Bool := false
  /-- The bytes that come back for each command, if the control node is a serial line. -/
  line : Option (String → List UInt8) := none

namespace Modem

/-- The number of bytes after which a reply is read no further. -/
def replyLimit : Nat := 20 * 32

/-- The reply to a command as text. -/
def replyText (bytes : List UInt8) : List Char :=
  Text.decodeLenient (bytes.take replyLimit)

/-- A text occurs in another. -/
def occurs (part : List Char) : List Char → Bool
  | [] => part.isEmpty
  | c :: rest => part.isPrefixOf (c :: rest) || occurs part rest

/-- The conversation over a serial line: its outcome and the commands that were sent. -/
def converse (line : String → List UInt8) : ModemStatus × List String :=
  let answers := replyText (line "AT")
  if !occurs "OK".toList answers then (.comsFailure, ["AT"])
  else
    let card := replyText (line "AT+CPIN?")
    if !occurs "+CPIN: READY".toList card then (.simError, ["AT", "AT+CPIN?"])
    else
      (.ofRegistration (replyText (line "AT+CREG?")), ["AT", "AT+CPIN?", "AT+CREG?"])

/-- The state of the modem and the commands that were sent to find it out. -/
def query (modem : Modem) : ModemStatus × List String :=
  if modem.hasDataNode && modem.hasControlNode then
    match modem.line with
    | some line => converse line
    | none => (.comsFailure, [])
  else (.absent, [])

end Modem

end HeatingHub
