import HeatingHub.Proofs.Connection.Switchboard
import HeatingHub.Proofs.Hub.Handling
import HeatingHub.Proofs.Station.Attempt

/-!
# Serving a request

To handle a request is to *serve* it and then to reply (`handleFrame_of_isRequest`). To serve it is
to record it, and to send the alert if its counter tells a reboot (`served_tried`). Neither of these
depends on what becomes of the reply (`handleFrame_answered`): it is sent once, the counter of the
replies goes on, and if it fails exactly its own connection is let go.
-/

namespace HeatingHub.Hub

/-- How the counter of a frame compares with the last one of the device that it names. -/
def checked (hub : Hub) (frame : Inbound) : CounterCheck :=
  Fleet.checkCounter hub.station.fleet.counters[Frame.device frame.bytes]?
    (Frame.counter frame.bytes)

/-- The station of a hub that has served a request. -/
def served (hub : Hub) (wall : Int) (frame : Inbound) : Station :=
  match hub.checked frame with
  | .rebooted _ =>
    (hub.recorded wall frame).alert
      (rebootText (Frame.device frame.bytes) (Frame.name frame.bytes))
  | _ => hub.recorded wall frame

/-- What is tried to be sent while a request is served. -/
def warnings (hub : Hub) (frame : Inbound) : List (Occasion × Sms) :=
  match hub.checked frame with
  | .rebooted _ =>
    hub.station.alerts (rebootText (Frame.device frame.bytes) (Frame.name frame.bytes))
  | _ => []

/-- What is tried when a request is served are its warnings. -/
lemma served_tried (hub : Hub) (wall : Int) (frame : Inbound) :
    (hub.served wall frame).post.tried = hub.station.post.tried ++ hub.warnings frame := by
  rw [served, warnings]
  split
  · exact Station.alert_tried _ _
  · exact (List.append_nil _).symm

/-- To handle a request is to serve it and to reply with the mode of the name that it carries. -/
theorem handleFrame_of_isRequest (hub : Hub) (now : Nat) (wall : Int) {frame : Inbound}
    (request : Frame.IsRequest frame.bytes) :
    hub.handleFrame now wall frame =
      { hub with
        board := hub.board.touch frame.connection now
        station := hub.served wall frame }.sendReply frame.connection
          (hub.station.fleet.modeOf (Frame.name frame.bytes)) := by
  rw [handleFrame, Message.decode_of_isRequest request, served]
  rfl

/-- A request is answered: it is served, and one reply to it is tried. Of the reply its connection
has taken a part, and if that is not all then this connection, and no other, is let go. -/
structure Answered (wall : Int) (hub : Hub) (frame : Inbound) (delivered : Bool)
    (part : List UInt8) (next : Hub) : Prop where
  id : next.id = hub.id
  station : next.station = hub.served wall frame
  counter : next.counter = hub.counter + 1
  replies : next.replies = hub.replies ++ [hub.replyTo frame delivered]
  taken : Taken (hub.replyTo frame delivered).bytes part delivered
  numbers : next.board.numbers =
    if delivered then hub.board.numbers else hub.board.numbers.filter (· != frame.connection)
  length : next.board.sockets.length = hub.board.sockets.length
  written (number : Nat) : Socket.writtenAt next.board.sockets number =
    Socket.writtenAt hub.board.sockets number ++ if number = frame.connection then part else []

section

variable {wall : Int} {hub next : Hub} {frame : Inbound} {delivered : Bool} {part : List UInt8}

/-- No connection is held afterwards that was not held before. -/
lemma Answered.sublist (answered : Answered wall hub frame delivered part next) :
    next.board.numbers.Sublist hub.board.numbers := by
  rw [answered.numbers]
  split
  · exact .refl _
  · exact List.filter_sublist

/-- The connection of a reply that fails is let go. -/
lemma Answered.gone (answered : Answered wall hub frame false part next) :
    frame.connection ∉ next.board.numbers := by
  rw [answered.numbers, if_neg Bool.false_ne_true, List.mem_filter]
  exact fun held => absurd held.2 (by simp)

end

/-- Every request is answered, whether or not its connection is still held. -/
theorem handleFrame_answered (hub : Hub) (now : Nat) (wall : Int) {frame : Inbound}
    (request : Frame.IsRequest frame.bytes) :
    ∃ delivered part,
      Answered wall hub frame delivered part (hub.handleFrame now wall frame) := by
  have filled : Message.encodeReply hub.id hub.counter
      (hub.station.fleet.modeOf (Frame.name frame.bytes)) ≠ [] :=
    List.ne_nil_of_length_eq_add_one (Message.length_encodeReply _ _ _)
  have sends := (hub.board.touch frame.connection now).send_sends frame.connection filled
  obtain ⟨numbers, length, part, taken, written⟩ := sends
  rw [Switchboard.touch_numbers] at numbers
  rw [hub.handleFrame_of_isRequest now wall request, sendReply]
  -- What is left to show is that to evict the connection after a failure takes no bytes back.
  refine ⟨_, part,
    { id := rfl
      station := rfl
      counter := rfl
      replies := rfl
      taken := taken
      numbers := ?_
      length := ?_
      written := fun number => ?_ }⟩
  · dsimp only
    split
    · exact numbers
    · rw [Switchboard.evict_numbers, numbers]
  · dsimp only
    split <;> exact length
  · dsimp only
    split <;> exact written number

end HeatingHub.Hub
