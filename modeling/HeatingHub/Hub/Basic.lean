import HeatingHub.Connection.Switchboard
import HeatingHub.Sms.Basic
import HeatingHub.Station.Obey
import HeatingHub.Watch.Basic

/-!
# The hub

The hub joins the station, the switchboard, the inbox and the watch. It works in cycles: it answers
the devices' frames, then obeys the waiting messages, then sees to the duties of the watch. Frames
that are no requests are ignored.
-/

namespace HeatingHub

/-- An attempt to send a frame to a device. -/
structure Reply where
  connection : Nat
  bytes : List UInt8
  delivered : Bool
  deriving DecidableEq

/-- The whole hub. -/
structure Hub where
  /-- The hub's own address, the sender of all its frames. -/
  id : DeviceId
  /-- The PIN that guards the commands of the gate. -/
  pin : String
  station : Station
  watch : Watch
  board : Switchboard := {}
  inbox : Inbox := {}
  /-- The counter of the next reply. -/
  counter : UInt64 := 0
  /-- The replies tried so far, oldest first. -/
  replies : List Reply := []

namespace Hub

/-- A hub that starts at this time on what is stored on the station's disk. -/
def start (id : DeviceId) (pin : String) (surroundings : Station) (counter : UInt64) (now : Nat) :
    Hub where
  id
  pin
  station := surroundings.load
  watch := .start now
  counter

/-- A device by its heater's name and its id, or by its id alone. -/
def describeDevice (id : DeviceId) (name : Option String) : String :=
  match name with
  | some name => name ++ " MAC=" ++ toString id
  | none => toString id

/-- The alert that a device has rebooted. -/
def rebootText (id : DeviceId) (name : Option String) : String :=
  "Warning!\nDevice " ++ describeDevice id name ++ " probably rebooted a few minutes ago."

/-- Sends a frame to a device. The counter goes on whether or not that succeeds; if it does not,
the connection is let go. -/
def sendReply (hub : Hub) (connection : Nat) (mode : Mode) : Hub :=
  let bytes := Message.encodeReply hub.id hub.counter mode
  let (result, board) := hub.board.send connection bytes
  let delivered := result.isOk
  { hub with
    board := if delivered then board else board.evict connection
    counter := hub.counter + 1
    replies := hub.replies ++ [{ connection, bytes, delivered }] }

/-- Records a request, and sends an alert if its counter tells a reboot. -/
def recordRequest (hub : Hub) (header : Header) (name address : Option String) (wall : Int) :
    Mode × Hub :=
  let (outcome, fleet) :=
    hub.station.fleet.request header.device name header.counter address wall
  let station := { hub.station with fleet }
  (outcome.mode,
    { hub with
      station := match outcome.counter with
        | .rebooted _ => station.alert (rebootText header.device name)
        | _ => station })

/-- Handles a frame from a device. -/
def handleFrame (now : Nat) (wall : Int) (hub : Hub) (frame : Inbound) : Hub :=
  match Message.decode frame.bytes with
  | .ok (.request header name) =>
    let hub := { hub with board := hub.board.touch frame.connection now }
    let (mode, hub) := hub.recordRequest header name frame.peer wall
    hub.sendReply frame.connection mode
  | _ => hub

/-- Handles frames one after the other. -/
def handleFrames (now : Nat) (wall : Int) (hub : Hub) (frames : List Inbound) : Hub :=
  frames.foldl (handleFrame now wall) hub

/-- Obeys the oldest message of the inbox. -/
def obeyNext (hub : Hub) : Hub :=
  match hub.inbox.pop with
  | (some sms, inbox) => { hub with inbox, station := hub.station.receive hub.pin sms }
  | (none, inbox) => { hub with inbox }

/-- Obeys the messages of the inbox until it is empty. -/
def drain (hub : Hub) : Hub :=
  let (messages, inbox) := hub.inbox.takeAll
  { hub with inbox, station := hub.station.receiveAll hub.pin messages }

/-- Sees to the duties that are due. -/
def tick (hub : Hub) (now : Nat) (wall : Int) : Hub :=
  let (watch, station, board) := hub.watch.tick now wall hub.station hub.board
  { hub with watch, station, board }

/-- One cycle on frames that have been read. -/
def cycleOn (hub : Hub) (frames : List Inbound) (now : Nat) (wall : Int) : Hub :=
  ((hub.handleFrames now wall frames).drain).tick now wall

/-- One cycle. All frames are read before the first of them is handled. -/
def cycle (hub : Hub) (now : Nat) (wall : Int) : Hub :=
  let (frames, board) := hub.board.poll
  { hub with board }.cycleOn frames now wall

/-- The hub with nothing logged, for an observer who has seen what was. -/
def clearLogs (hub : Hub) : Hub :=
  { hub with station.post.log := [], replies := [] }

end Hub

end HeatingHub
