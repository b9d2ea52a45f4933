import HeatingHub.Fault

/-!
# Sockets

The hub's end of a connection to a device: a stream of bytes to read, and a peer that takes what is
written as it pleases. A write may be taken in part, and be interrupted any number of times, before
it is complete or fails.
-/

namespace HeatingHub

/-- What a read meets behind the pending bytes. -/
inductive StreamEnd
  /-- More may come. -/
  | open
  /-- The peer has finished sending. -/
  | finished
  /-- The peer has broken the connection. -/
  | broken
  deriving DecidableEq, Repr

/-- What a socket answers to the offer of some bytes. -/
inductive WriteAnswer
  /-- It takes at most this many of the bytes; taking none means that it is closed. -/
  | takes (count : Nat)
  | interrupted
  | fails (cause : IoFault)
  deriving DecidableEq, Repr

/-- The hub's end of a connection. -/
structure Socket where
  /-- The bytes that have arrived and are not yet read. -/
  pending : List UInt8 := []
  ending : StreamEnd := .open
  /-- What the next writes are answered. When the answers are used up, the socket takes all that
  it is offered, unless the connection is broken. -/
  answers : List WriteAnswer := []
  /-- All bytes that the socket has taken. -/
  written : List UInt8 := []
  deriving DecidableEq

/-- What a read finds. -/
inductive ReadResult
  | bytes (found : List UInt8)
  | nothing
  | ended
  | failed
  deriving DecidableEq

namespace Socket

/-- Reads at most `limit` bytes. -/
def read (socket : Socket) (limit : Nat) : ReadResult × Socket :=
  if socket.pending.isEmpty then
    match socket.ending with
    | .open => (.nothing, socket)
    | .finished => (.ended, socket)
    | .broken => (.failed, socket)
  else
    (.bytes (socket.pending.take limit), { socket with pending := socket.pending.drop limit })

/-- How a write ended. -/
inductive Written
  | complete
  /-- The socket took no more after this many bytes. -/
  | closed (sent : Nat)
  | failed (cause : IoFault)
  deriving DecidableEq

/-- Offers bytes until all are taken or the socket refuses, where `sent` counts those taken
before. -/
def offer (socket : Socket) (sent : Nat) (bytes : List UInt8) :
    List WriteAnswer → Written × Socket
  | [] =>
    if bytes.isEmpty then (.complete, { socket with answers := [] })
    else match socket.ending with
      | .broken => (.failed .brokenPipe, { socket with answers := [] })
      | _ => (.complete, { socket with answers := [], written := socket.written ++ bytes })
  | answer :: answers =>
    if bytes.isEmpty then (.complete, { socket with answers := answer :: answers })
    else match answer with
      | .takes 0 => (.closed sent, { socket with answers })
      | .takes count =>
        { socket with written := socket.written ++ bytes.take count }.offer
          (sent + (bytes.take count).length) (bytes.drop count) answers
      | .interrupted => socket.offer sent bytes answers
      | .fails cause => (.failed cause, { socket with answers })

/-- Writes bytes. -/
def write (socket : Socket) (bytes : List UInt8) : Written × Socket :=
  socket.offer 0 bytes socket.answers

/-- More bytes arrive from the peer. -/
def receive (socket : Socket) (bytes : List UInt8) : Socket :=
  { socket with pending := socket.pending ++ bytes }

/-- The peer finishes sending; it still takes what is written. -/
def finish (socket : Socket) : Socket :=
  { socket with ending := .finished }

/-- The peer breaks the connection: the next write is told so, and no later one succeeds. -/
def reset (socket : Socket) : Socket :=
  { socket with ending := .broken, answers := [.fails .connectionReset] }

end Socket

end HeatingHub
