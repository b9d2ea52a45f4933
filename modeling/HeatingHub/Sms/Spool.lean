import HeatingHub.Fault
import HeatingHub.Sms.Basic
import HeatingHub.Text.Line
import HeatingHub.Text.Number
import Std.Data.ExtTreeMap

/-!
# The outgoing spool

Messages to be sent are left as files in a directory, from which the message daemon takes them. A
file is drafted beside the directory, and moved into it when it is complete, under a name that no
other message of the process has; a draft that cannot be completed or moved is thrown away. Without
a modem nothing is left, since all of it would be sent when the modem comes back.
-/

namespace HeatingHub

/-- What lies in the spool directory under a name. -/
inductive SpoolEntry
  | file (content : String)
  | directory
  | link
  deriving DecidableEq

/-- The steps in which a message is left in the spool, each of which the system may refuse. -/
inductive SpoolStep
  | create
  /-- One piece of the file is written, the pieces being numbered from 0. -/
  | write (piece : Nat)
  | flush
  | move
  deriving DecidableEq

/-- The spool of one process. Its messages are numbered without a limit: a counter of 64 bits would
come round after 2 ^ 64 messages, which no process lives to send. -/
structure Spool where
  /-- The path of the modem's node. -/
  modemNode : String
  /-- The number of the process. -/
  process : Nat
  hasModem : Bool := false
  /-- The directory's entries by name, if the directory is there. -/
  entries : Option (Std.ExtTreeMap String SpoolEntry) := some ∅
  /-- The number of the next message. -/
  next : Nat := 0

namespace Spool

/-- The name of a message's file. -/
def fileName (process number : Nat) : String :=
  "sms_" ++ toString process ++ "_" ++ toString number

/-- The pieces in which a message's file is written. -/
def pieces (sms : Sms) : List String :=
  ["To: ", sms.number, "\n\n", sms.text, "\n"]

/-- The content of a message's file. -/
def content (sms : Sms) : String :=
  "To: " ++ sms.number ++ "\n\n" ++ sms.text ++ "\n"

/-- Takes a step unless it is refused. -/
def permit (refusal : Option IoFault) : Except IoFault Unit :=
  match refusal with
  | some cause => .error cause
  | none => .ok ()

/-- Writes pieces behind what has been written of a file, where `number` counts the pieces written
before. -/
def writePieces (refusal : SpoolStep → Option IoFault) (written : String) (number : Nat) :
    List String → Except IoFault String
  | [] => .ok written
  | piece :: rest => do
    permit (refusal (.write number))
    writePieces refusal (written ++ piece) (number + 1) rest

/-- Drafts a message's file: creates it, writes its pieces one after the other, and makes sure that
they are on the disk. -/
def draft (sms : Sms) (refusal : SpoolStep → Option IoFault) : Except IoFault String := do
  permit (refusal .create)
  let written ← writePieces refusal "" 0 (pieces sms)
  permit (refusal .flush)
  return written

/-- Moves a completed file into the directory, over a file of the same name but not over a
directory. -/
def place (spool : Spool) (name file : String) : Except Fault Unit × Spool :=
  match spool.entries with
  | none => (.error (.io .notFound), spool)
  | some entries =>
    if entries[name]? = some .directory then (.error (.io .isDirectory), spool)
    else (.ok (), { spool with entries := some (entries.insert name (.file file)) })

/-- Leaves a message in the spool, where `refusal` says which steps the system refuses and why. A
number is used up as soon as there is a modem. -/
def send (spool : Spool) (sms : Sms) (refusal : SpoolStep → Option IoFault) :
    Except Fault Unit × Spool :=
  if !spool.hasModem then (.error (.modemMissing spool.modemNode), spool)
  else
    let name := fileName spool.process spool.next
    let spool := { spool with next := spool.next + 1 }
    match draft sms refusal with
    | .error cause => (.error (.io cause), spool)
    | .ok file =>
      match refusal .move with
      | some cause => (.error (.io cause), spool)
      | none => spool.place name file

/-- An entry is a plain file. -/
def isFile : SpoolEntry → Bool
  | .file _ => true
  | _ => false

/-- Removes the files that an earlier process has left, and says how many they were. -/
def clean (spool : Spool) : Except Fault Nat × Spool :=
  match spool.entries with
  | none => (.error (.io .notFound), spool)
  | some entries =>
    (.ok (entries.toList.filter fun entry => isFile entry.2).length,
      { spool with entries := some (entries.filter fun _ entry => !isFile entry) })

/-- Puts an entry into the directory. -/
def put (spool : Spool) (name : String) (entry : SpoolEntry) : Spool :=
  { spool with entries := spool.entries.map (·.insert name entry) }

/-- The number of the message whose file has this name. -/
def numberOf? (spool : Spool) (name : String) : Option Nat :=
  (Text.after? (fileName spool.process 0 |>.toList.dropLast) name.toList).bind
    (Text.readNat? 10 Text.greatest64)

/-- The entries of the directory by name. -/
def toList (spool : Spool) : List (String × SpoolEntry) :=
  (spool.entries.map (·.toList)).getD []

/-- The number and the content of an entry, if it is a message of this process. -/
def message? (spool : Spool) (entry : String × SpoolEntry) : Option (Nat × String) :=
  match entry with
  | (name, .file content) => (spool.numberOf? name).map fun number => (number, content)
  | _ => none

/-- The waiting messages of this process in their order. -/
def messages (spool : Spool) : List (Nat × String) :=
  (spool.toList.filterMap spool.message?).mergeSort fun a b => a.1 ≤ b.1

/-- The names of all other entries. -/
def others (spool : Spool) : List String :=
  (spool.toList.filter fun entry => (spool.message? entry).isNone).map (·.1)

end Spool

end HeatingHub
