import HeatingHub.Connection.Socket
import HeatingHub.Frame.Message

/-!
# The switchboard

The switchboard holds the connections of the devices, in the order in which they were accepted.
Each has a number that is never used again: the numbers go on without a limit, as a counter of 64
bits would come round only after 2 ^ 64 connections, which no hub lives to accept. A poll reads at
most one frame from each connection that was held when the poll began, one connection after the
other, so that other things may happen in between.
-/

namespace HeatingHub

/-- A connection that the switchboard holds. -/
structure Connection where
  number : Nat
  peer : Option String
  /-- The time at which it was accepted or brought its last request, in whole milliseconds. -/
  lastActivity : Nat
  deriving DecidableEq

/-- A frame and the connection it was read from. -/
structure Inbound where
  connection : Nat
  peer : Option String
  bytes : List UInt8
  deriving DecidableEq

/-- The connections of the devices. -/
structure Switchboard where
  /-- The connections that are held. -/
  held : List Connection := []
  /-- The sockets of all connections ever accepted, by number. -/
  sockets : List Socket := []

namespace Switchboard

/-- Takes on a connection, and gives its number. -/
def accept (board : Switchboard) (socket : Socket) (peer : Option String) (now : Nat) :
    Nat × Switchboard :=
  (board.sockets.length,
    { held := board.held ++ [{ number := board.sockets.length, peer, lastActivity := now }]
      sockets := board.sockets ++ [socket] })

/-- The numbers of the connections that are held. -/
def numbers (board : Switchboard) : List Nat :=
  board.held.map (·.number)

/-- A connection is held. -/
def holds (board : Switchboard) (number : Nat) : Bool :=
  board.held.any (·.number == number)

/-- Puts another socket in the place of a connection's. -/
def setSocket (board : Switchboard) (number : Nat) (socket : Socket) : Switchboard :=
  { board with sockets := board.sockets.set number socket }

/-- Lets go of a connection. -/
def evict (board : Switchboard) (number : Nat) : Switchboard :=
  { board with held := board.held.filter (·.number != number) }

/-- Lets go of all connections. -/
def closeAll (board : Switchboard) : Switchboard :=
  { board with held := [] }

/-- Notes that a connection brought a request. -/
def touch (board : Switchboard) (number now : Nat) : Switchboard :=
  { board with
    held := board.held.map fun connection =>
      if connection.number = number then { connection with lastActivity := now }
      else connection }

/-- A connection has been idle for at least `maxIdle` milliseconds; it is not idle before its last
activity. -/
def isStale (now maxIdle : Nat) (connection : Connection) : Bool :=
  maxIdle ≤ now - connection.lastActivity

/-- Lets go of the idle connections. -/
def sweepStale (board : Switchboard) (now maxIdle : Nat) : Switchboard :=
  { board with held := board.held.filter (!isStale now maxIdle ·) }

/-- Reads from one connection. Less than a frame is thrown away; at the end of the stream, or when
the read fails, the connection is let go. -/
def pollOne (board : Switchboard) (connection : Connection) : Option Inbound × Switchboard :=
  match board.sockets[connection.number]? with
  | none => (none, board)
  | some socket =>
    let (result, socket) := socket.read Frame.size
    let board := board.setSocket connection.number socket
    match result with
    | .bytes bytes =>
      if bytes.length = Frame.size then
        (some { connection := connection.number, peer := connection.peer, bytes }, board)
      else (none, board)
    | .nothing => (none, board)
    | .ended | .failed => (none, board.evict connection.number)

/-- Reads from the given connections in turn. -/
def pollEach (board : Switchboard) : List Connection → List Inbound × Switchboard
  | [] => ([], board)
  | connection :: others =>
    let (frame, board) := board.pollOne connection
    let (frames, board) := board.pollEach others
    (frame.toList ++ frames, board)

/-- Reads from every connection that is held. -/
def poll (board : Switchboard) : List Inbound × Switchboard :=
  board.pollEach board.held

/-- Writes bytes to a connection. -/
def send (board : Switchboard) (number : Nat) (bytes : List UInt8) :
    Except Fault Unit × Switchboard :=
  match board.holds number, board.sockets[number]? with
  | true, some socket =>
    let (outcome, socket) := socket.write bytes
    let result := match outcome with
      | .complete => .ok ()
      | .closed sent => .error (.connectionClosed number sent bytes.length)
      | .failed cause => .error (.io cause)
    (result, board.setSocket number socket)
  | _, _ => (.error (.connectionGone number), board)

/-- The peer of a connection does something to its socket. -/
def peerDoes (board : Switchboard) (number : Nat) (deed : Socket → Socket) : Switchboard :=
  { board with sockets := board.sockets.modify number deed }

/-- What each connection has taken since an earlier state of the switchboard, if anything. -/
def takenSince (board earlier : Switchboard) : List (Nat × List UInt8) :=
  (board.sockets.zipIdx.map fun (socket, number) =>
    let before := (earlier.sockets[number]?.map (·.written)).getD []
    (number, socket.written.drop before.length)).filter (!·.2.isEmpty)

end Switchboard

end HeatingHub
