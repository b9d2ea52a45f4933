import HeatingHub.Hub.Basic
import HeatingHub.Proofs.Frame.Message
import HeatingHub.Proofs.Station.Obedience

/-!
# Handling frames

A hub ignores every frame but requests. It records a request in its fleet, may send an alert, and
replies with the mode of the name that the request carries (`handleFrame_handles`).
-/

namespace HeatingHub.Hub

/-- The station of a hub that has recorded a request. -/
def recorded (hub : Hub) (wall : Int) (frame : Inbound) : Station :=
  { hub.station with
    fleet := (hub.station.fleet.request (Frame.device frame.bytes) (Frame.name frame.bytes)
      (Frame.counter frame.bytes) frame.peer wall).2 }

/-- To record a request leaves the station at rest. -/
lemma recorded_rests (hub : Hub) (wall : Int) (frame : Inbound) :
    hub.station.Rests (hub.recorded wall frame) :=
  hub.station.fleet_rests (hub.station.fleet.request_modes ..)

/-- The reply to a request. -/
def replyTo (hub : Hub) (frame : Inbound) (delivered : Bool) : Reply where
  connection := frame.connection
  bytes := Message.encodeReply hub.id hub.counter
    (hub.station.fleet.modeOf (Frame.name frame.bytes))
  delivered

/-- What becomes of a hub that handles a frame. -/
inductive Handles (wall : Int) (hub : Hub) (frame : Inbound) : Hub → Prop
  | ignores (other : ¬ Frame.IsRequest frame.bytes) : Handles wall hub frame hub
  | answers (request : Frame.IsRequest frame.bytes) {station : Station}
      (records : Station.Answers (hub.recorded wall frame) station) (board : Switchboard)
      (delivered : Bool) :
      Handles wall hub frame
        { hub with
          station, board
          counter := hub.counter + 1
          replies := hub.replies ++ [hub.replyTo frame delivered] }

/-- To handle a frame is to ignore it, or to record it and to reply. -/
theorem handleFrame_handles (hub : Hub) (now : Nat) (wall : Int) (frame : Inbound) :
    hub.Handles wall frame (hub.handleFrame now wall frame) := by
  by_cases request : Frame.IsRequest frame.bytes
  · rw [handleFrame, Message.decode_of_isRequest request]
    refine .answers request ?_ _ _
    dsimp only [recordRequest]
    split
    · exact Station.alert_answers _ _
    · exact .refl _
  · rw [handleFrame]
    split
    · next decoded => exact absurd (Message.decode_eq_request_iff.1 ⟨_, _, decoded⟩) request
    · exact .ignores request

section

variable {wall : Int} {hub next : Hub} {frame : Inbound}

/-- To handle a frame leaves the inbox alone. -/
lemma Handles.inbox (handles : hub.Handles wall frame next) : next.inbox = hub.inbox := by
  cases handles <;> rfl

/-- To handle a frame does not change the PIN. -/
lemma Handles.pin (handles : hub.Handles wall frame next) : next.pin = hub.pin := by
  cases handles <;> rfl

/-- To handle a frame leaves the watch alone. -/
lemma Handles.watch (handles : hub.Handles wall frame next) : next.watch = hub.watch := by
  cases handles <;> rfl

/-- A request is recorded, and one reply is tried. -/
lemma Handles.of_isRequest (handles : hub.Handles wall frame next)
    (request : Frame.IsRequest frame.bytes) :
    next.station.fleet = (hub.recorded wall frame).fleet ∧
      ∃ delivered, next.replies = hub.replies ++ [hub.replyTo frame delivered] := by
  cases handles with
  | ignores other => exact absurd request other
  | answers _ records _ delivered => exact ⟨records.fleet, delivered, rfl⟩

end

end HeatingHub.Hub
