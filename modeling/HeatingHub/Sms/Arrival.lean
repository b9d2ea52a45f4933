import HeatingHub.Sms.Incoming

/-!
# Arrival of messages

The directory for received messages is watched, and the system reports what happens in it. A file
is complete when it is closed after writing or renamed into its place; then it is read, and the
message joins the inbox.
-/

namespace HeatingHub

/-- What the system reports about the watched directory. -/
inductive SpoolEventKind
  /-- A file was closed after writing. -/
  | closed
  /-- A file was renamed to the first path. -/
  | renamedTo
  /-- A file was renamed from the first path to the last. -/
  | renamed
  /-- Anything else: creation, access, change, removal. -/
  | other
  deriving DecidableEq, Repr

/-- A report about the watched directory and the paths it names. -/
structure SpoolEvent where
  kind : SpoolEventKind
  paths : List String
  deriving DecidableEq, Repr

/-- The path of the file that an event completes. -/
def SpoolEvent.completed? (event : SpoolEvent) : Option String :=
  match event.kind with
  | .closed | .renamedTo => event.paths.head?
  | .renamed => event.paths.getLast?
  | .other => none

/-- Reacts to an event, where `read` gives the bytes of a file. -/
def Inbox.notice (inbox : Inbox) (read : String → Option (List UInt8)) (event : SpoolEvent) :
    Inbox :=
  match (event.completed?.bind read).bind Sms.ofBytes? with
  | some sms => inbox.enqueue sms
  | none => inbox

end HeatingHub
