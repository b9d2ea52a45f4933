import HeatingHub.Fault
import HeatingHub.Settings.Printer
import HeatingHub.Settings.Reader
import HeatingHub.Text.Utf8

/-!
# The state file

What stands at the state file's path, and the disk that it lies on. A save writes the whole file
anew or leaves it as it was: the new text is completed elsewhere and then put in its place. Which
saves succeed is up to the disk.
-/

namespace HeatingHub

/-- What stands at the path of the state file. -/
inductive StateFile
  | missing
  /-- A directory, which can neither be read as a file nor be replaced by one. -/
  | blocked
  | text (content : String)
  /-- A file whose bytes are no text. -/
  | garbled (bytes : List UInt8)
  deriving DecidableEq

namespace StateFile

/-- A file with the given bytes. -/
def ofBytes (bytes : List UInt8) : StateFile :=
  match Text.decode? bytes with
  | some content => .text (String.ofList content)
  | none => .garbled bytes

/-- The text of the file. -/
def read : StateFile → Except Fault String
  | .missing => .error (.io .notFound)
  | .blocked => .error (.io .isDirectory)
  | .text content => .ok content
  | .garbled _ => .error (.io .notText)

/-- The settings of the file; nothing when there is no file yet. -/
def load : StateFile → Except Fault (Option Settings)
  | .missing => .ok none
  | file => file.read.map fun content => some (Settings.parse content)

end StateFile

/-- The disk with the state file. -/
structure Disk where
  file : StateFile
  /-- Whether the disk goes along with the save of each number. -/
  accepts : Nat → Bool := fun _ => true
  /-- The number of saves tried so far. -/
  saves : Nat := 0

namespace Disk

/-- The next save will succeed. -/
def ready (disk : Disk) : Bool :=
  disk.accepts disk.saves && disk.file ≠ .blocked

/-- Tries to write the settings to the state file. -/
def save (disk : Disk) (settings : Settings) : Disk :=
  { disk with
    file := if disk.ready then .text settings.render else disk.file
    saves := disk.saves + 1 }

end Disk

end HeatingHub
