/-!
# Faults

What can go wrong outside the hub's own rules: files, sockets, the modem, the network, programs of
the host, and the configuration. A fault is a cause; its wording is in one place.
-/

namespace HeatingHub

/-- Why the operating system refused an operation on a file or a socket. -/
inductive IoFault
  | notFound
  | permissionDenied
  | wouldBlock
  | notDirectory
  | isDirectory
  | brokenPipe
  | addressInUse
  | connectionReset
  | nameTooLong
  | argumentTooLong
  /-- A path holds a zero character. -/
  | zeroInPath
  /-- An argument of a program holds a zero character. -/
  | zeroInArgument
  /-- The bytes of a file are no text. -/
  | notText
  deriving DecidableEq, Repr

/-- The system's words for a refusal. -/
def IoFault.message : IoFault → String
  | .notFound => "No such file or directory (os error 2)"
  | .permissionDenied => "Permission denied (os error 13)"
  | .wouldBlock => "Resource temporarily unavailable (os error 11)"
  | .notDirectory => "Not a directory (os error 20)"
  | .isDirectory => "Is a directory (os error 21)"
  | .brokenPipe => "Broken pipe (os error 32)"
  | .addressInUse => "Address already in use (os error 98)"
  | .connectionReset => "Connection reset by peer (os error 104)"
  | .nameTooLong => "File name too long (os error 36)"
  | .argumentTooLong => "Argument list too long (os error 7)"
  | .zeroInPath => "file name contained an unexpected NUL byte"
  | .zeroInArgument => "nul byte found in provided data"
  | .notText => "stream did not contain valid UTF-8"

/-- The part of the hub's surroundings that a fault belongs to. -/
inductive FaultKind
  | io
  | json
  | http
  | watcher
  | protocol
  | config
  | transport
  | serial
  | command
  deriving DecidableEq, Repr

/-- What went wrong. -/
inductive Fault
  | io (cause : IoFault)
  /-- The configuration file is not the JSON that it should be. -/
  | configMalformed
  /-- The configured PIN is not a row of digits. -/
  | pinMalformed (path : String)
  | webUnreachable
  /-- A directory cannot be watched for new files. -/
  | unwatchable
  | uptimeUnreadable
  | flagsUnreadable (path : String)
  /-- The connection is no longer held. -/
  | connectionGone (connection : Nat)
  /-- The peer took only a part of what was written. -/
  | connectionClosed (connection sent size : Nat)
  | modemMissing (path : String)
  /-- The modem's line cannot be set up. -/
  | lineRefused (reason : String)
  /-- A program of the host could not be started. -/
  | toolRefused (program : String) (cause : IoFault)
  /-- A program of the host ended with an error. -/
  | toolFailed (program complaint : String)
  deriving DecidableEq, Repr

namespace Fault

/-- The kind of a fault. -/
def kind : Fault → FaultKind
  | .io _ => .io
  | .configMalformed => .json
  | .pinMalformed _ => .config
  | .webUnreachable => .http
  | .unwatchable => .watcher
  | .uptimeUnreadable | .flagsUnreadable _ => .protocol
  | .connectionGone _ | .connectionClosed .. | .modemMissing _ => .transport
  | .lineRefused _ => .serial
  | .toolRefused .. | .toolFailed .. => .command

/-- The wording of a fault without its kind. -/
def detail : Fault → String
  | .io cause => cause.message
  | .configMalformed => "not a configuration"
  | .pinMalformed path => "pin must be a non-empty string of digits in " ++ path
  | .webUnreachable => "no answer"
  | .unwatchable => "no such directory"
  | .uptimeUnreadable => "unreadable /proc/uptime"
  | .flagsUnreadable path => "unreadable interface flags in " ++ path
  | .connectionGone connection => "connection " ++ toString connection ++ " is gone"
  | .connectionClosed connection sent size =>
    "connection " ++ toString connection ++ " closed after " ++ toString sent ++ " of " ++
      toString size ++ " bytes"
  | .modemMissing path => "modem not detected (no " ++ path ++ "), discarding text message"
  | .lineRefused reason => reason
  | .toolRefused program cause => program ++ ": " ++ cause.message
  | .toolFailed program complaint => program ++ " failed: " ++ complaint

/-- The wording of a fault. -/
def message (fault : Fault) : String :=
  let heading := match fault.kind with
    | .io => "IO error: "
    | .json => "JSON error: "
    | .http => "HTTP error: "
    | .watcher => "Watcher error: "
    | .protocol => "Protocol error: "
    | .config => "Config error: "
    | .transport => "Transport error: "
    | .serial => "Serial error: "
    | .command => "Command failed: "
  heading ++ fault.detail

end Fault

end HeatingHub
