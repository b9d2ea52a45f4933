import HeatingHub.Hub.Run
import HeatingHub.Launch
import Std.Async.TCP

/-!
# The program

The outer layer: it brings to a hub what happens on the machine, and takes from it what it has to
say. Devices connect over TCP. The paths of completed message files come in on standard input, one
a line, as a watcher of the directory for received messages prints them. Messages to be sent go
into the spool, and the settings into the state file. The modem counts as registered while its
nodes are there, and the message daemon as running; programs of the host are not run.
-/

namespace HeatingHub.Program

open Std.Async (AsyncTask)
open Std.Async.TCP.Socket (Server Client)

/-- The bytes of a file, if it can be read. -/
def readFile? (path : String) : IO (Option (List UInt8)) := do
  try
    return some (← IO.FS.readBinFile path).toList
  catch _ =>
    return none

/-- The files with these paths that can be read. -/
def readTree (paths : List String) : IO FileTree := do
  let files ← paths.filterMapM fun path => do
    return (← readFile? path).map fun bytes => (path, bytes)
  return { files }

/-- A node can be opened. -/
def isThere (path : String) : IO Bool := do
  try
    discard <| IO.FS.Handle.mk path .read
    return true
  catch _ =>
    return false

/-- Puts a text in the place of a file, wholly or not at all; `beside` is a path for the new file
while it is incomplete. -/
def replaceFile (path beside text : String) : IO Unit := do
  try
    IO.FS.writeFile beside text
    IO.FS.rename beside path
  catch problem =>
    IO.eprintln problem

/-- What the arguments and the user's directories say about the configuration. -/
def premises (arguments : List String) : IO Premises := do
  let configHome ← IO.getEnv "XDG_CONFIG_HOME"
  let home ← IO.getEnv "HOME"
  let named := match Invocation.ofArguments arguments with
    | .run options => options.config.toList
    | _ => []
  let files ← readTree (named ++ (Config.defaultPath configHome home none).toList)
  return { files, configHome, home }

/-- A server on all addresses of the machine, if the number is free. -/
def listen? (number : Nat) : IO (Option Server) := do
  try
    let server ← Server.mk
    server.bind (.v4 { addr := .ofParts 0 0 0 0, port := number.toUInt16 })
    server.listen 128
    return some server
  catch _ =>
    return none

/-- The time of day in milliseconds. -/
def wallClock : IO Int :=
  return (← Std.Time.Timestamp.now).toMillisecondsSinceUnixEpoch.val

/-- The machine as it is now. -/
def look (config : Config) : IO Machine := do
  let machine := ({} : Premises).machine config
  let files ← readTree
    [machine.interfaceFile "flags", machine.interfaceFile "address",
      joinPath machine.processesDir "uptime"]
  return { machine with files }

/-- The hub with the answers of the machine as it is now. -/
def refresh (config : Config) (hub : Hub) : IO Hub := do
  let machine ← look config
  let present := (← isThere config.modemDataNode) && (← isThere config.modemControlNode)
  let modem := if present then ModemStatus.registered else .absent
  let vitals := { machine.vitals with modem, daemon := true }
  return { hub with station.host.answers := fun _ => vitals }

/-- The hub that starts on the state file. -/
def start (config : Config) : IO Hub := do
  let files ← readTree [config.stateFile]
  let stored := ({ files } : Premises).stateFile config.stateFile
  let machine ← look config
  let high ← IO.rand 0 Text.greatest32
  let hub := Hub.start machine.hubId config.pin
    { disk := { file := stored }, host := { answers := fun _ => machine.vitals } }
    (UInt64.ofNat (high <<< 32)) (← IO.monoMsNow)
  refresh config hub

/-- A connected device, and the read that is under way. -/
structure Caller where
  number : Nat
  client : Client
  reading : Option (AsyncTask (Option ByteArray))

/-- Starts to read from a device. -/
def Caller.read (caller : Caller) : IO Caller := do
  return { caller with reading := some (← (caller.client.recv? 64).toIO) }

/-- Tells the hub what has come from a device. -/
def Caller.collect (caller : Caller) (hub : Hub) : IO (Caller × Hub) := do
  let some reading := caller.reading | return (caller, hub)
  if (← reading.getState) != .finished then return (caller, hub)
  let deed : Deed ←
    try
      match ← reading.block with
      | some bytes => pure (.sends bytes.toList)
      | none => pure .finishes
    catch _ => pure .breaks
  let hub := hub.after (.device caller.number deed)
  match deed with
  | .sends _ => return (← caller.read, hub)
  | _ => return ({ caller with reading := none }, hub)

/-- Sends a device what the hub has written to it. -/
def Caller.deliver (caller : Caller) (hub earlier : Hub) : IO Hub := do
  let bytes := (hub.board.takenSince earlier.board).filter (·.1 == caller.number)
  try
    (caller.client.send ⟨(bytes.flatMap (·.2)).toArray⟩).block
    return hub
  catch _ =>
    return hub.after (.device caller.number .breaks)

/-- Leaves the messages of a hub in the spool of the process that started at `birth`, of which
`next` is the next number, unless the modem is missing. -/
def post (config : Config) (birth next : Nat) (messages : List Sms) : IO Nat := do
  unless ← isThere config.modemDataNode do return next
  for (sms, number) in messages.zipIdx next do
    let name := Spool.fileName birth number
    replaceFile (joinPath config.smsOutgoingDir name)
      (joinPath config.smsOutgoingDir ("../" ++ name)) (Spool.content sms)
  return next + messages.length

/-- The address of a device. -/
def address? (client : Client) : IO (Option String) := do
  try
    match ← client.getPeerName with
    | .v4 peer => return some (toString peer.addr)
    | .v6 peer => return some (toString peer.addr)
  catch _ =>
    return none

/-- Runs a hub for as long as the program is left alone. -/
def serve (config : Config) (server : Server) : IO Unit := do
  let input ← IO.getStdin
  let birth ← IO.monoMsNow
  let mut hub ← start config
  let mut callers : List Caller := []
  let mut next := 0
  let mut saves := 0
  let mut arrival ← IO.asTask input.getLine
  repeat
    let now ← IO.monoMsNow
    if let some client ← server.tryAccept then
      let number := hub.board.sockets.length
      hub := hub.after (.connects {} (← address? client) now)
      callers := callers ++ [← { number, client, reading := none : Caller }.read]
    let mut kept := []
    for caller in callers do
      let (caller, told) ← caller.collect hub
      hub := told
      kept := kept ++ [caller]
    if ← IO.hasFinished arrival then
      let line ← IO.ofExcept arrival.get
      let path := line.trimAscii.toString
      let bytes ← readFile? path
      let event : SpoolEvent := { kind := .closed, paths := [path] }
      hub := { hub with inbox := hub.inbox.notice (fun _ => bytes) event }
      unless line.isEmpty do arrival ← IO.asTask input.getLine
    let before ← refresh config hub
    hub := before.after (.cycle now (← wallClock))
    if let .text settings := hub.station.disk.file then
      if saves < hub.station.disk.saves then
        replaceFile config.stateFile (config.stateFile ++ ".new") settings
    saves := hub.station.disk.saves
    next ← post config birth next hub.station.post.sent
    for caller in kept do
      hub ← caller.deliver hub before
    let board := hub.board
    callers := kept.filter fun caller => board.holds caller.number
    hub := hub.clearLogs
    IO.sleep config.cycleInterval.toUInt32

/-- Starts the program with its arguments; the result is the exit code. -/
def run (arguments : List String) : IO UInt32 := do
  let launch := Launch.call arguments (← premises arguments)
  let fail (fault : StartFault) : IO Unit :=
    IO.eprintln (fault.complaint ++ "\n\nCaused by:\n    " ++ fault.cause.message)
  match launch with
  | .shown lines => lines.forM IO.println
  | .refused => usageLines.forM IO.eprintln
  | .failed fault => fail fault
  | .running config =>
    match ← listen? config.devicePort with
    | some server => serve config server
    | none =>
      let fault := StartFault.port config.devicePort (.io .addressInUse)
      fail fault
      return (Launch.failed fault).exitCode.toUInt32
  return launch.exitCode.toUInt32

end HeatingHub.Program

/-- Runs the program. -/
def main (arguments : List String) : IO UInt32 :=
  HeatingHub.Program.run arguments
