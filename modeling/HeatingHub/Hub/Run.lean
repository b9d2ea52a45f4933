import HeatingHub.Hub.Basic

/-!
# Runs of a hub

Everything that reaches a hub from outside is a happening: a device connects, the other end of a
connection does something, a text message arrives, or the clocks call for a cycle. What the disk,
the post, the host and the sockets answer to the hub is part of the station and of the sockets, so
that a run is settled by the hub it starts from and by its happenings in their order.
-/

namespace HeatingHub

/-- What the other end of a connection does. -/
inductive Deed
  | sends (bytes : List UInt8)
  | finishes
  | breaks
  deriving DecidableEq

/-- The hub's end of the connection after a deed of the other end. -/
def Deed.apply : Deed → Socket → Socket
  | .sends bytes, socket => socket.receive bytes
  | .finishes, socket => socket.finish
  | .breaks, socket => socket.reset

/-- What can happen to a hub. -/
inductive Happening
  | connects (socket : Socket) (peer : Option String) (now : Nat)
  | device (number : Nat) (deed : Deed)
  | message (sms : Sms)
  | cycle (now : Nat) (wall : Int)
  deriving DecidableEq

namespace Hub

/-- The hub after a happening. -/
def after (hub : Hub) : Happening → Hub
  | .connects socket peer now => { hub with board := (hub.board.accept socket peer now).2 }
  | .device number deed => { hub with board := hub.board.peerDoes number deed.apply }
  | .message sms => { hub with inbox := hub.inbox.enqueue sms }
  | .cycle now wall => hub.cycle now wall

/-- The hub after happenings one after the other. -/
def run (hub : Hub) (happenings : List Happening) : Hub :=
  happenings.foldl after hub

/-- Without happenings a hub stays as it is. -/
@[simp]
theorem run_nil (hub : Hub) : hub.run [] = hub :=
  rfl

/-- A run begins with its first happening. -/
@[simp]
theorem run_cons (hub : Hub) (happening : Happening) (rest : List Happening) :
    hub.run (happening :: rest) = (hub.after happening).run rest :=
  rfl

/-- Two runs one after the other are one run. -/
theorem run_append (hub : Hub) (first rest : List Happening) :
    hub.run (first ++ rest) = (hub.run first).run rest :=
  List.foldl_append

end Hub

end HeatingHub
