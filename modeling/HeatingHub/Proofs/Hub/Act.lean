import HeatingHub.Hub.Run
import HeatingHub.Proofs.Hub.Handling
import HeatingHub.Proofs.Station.Loading
import HeatingHub.Proofs.Watch.Duties

/-!
# Acts of a hub

A cycle is long: it handles frames, obeys messages and sees to six duties. Its *acts* are the pieces
at which the state of the hub can be looked at, each of which makes at most one turn of the station
(`act_turn`). A happening is the performance of its acts in their order (`after_eq_perform`), and a
run is the performance of all of them (`run_eq_perform`), so that whatever every act keeps is kept
by every run (`reaches_run`).
-/

namespace HeatingHub

/-- What a hub does at once, or has done to it. -/
inductive Act
  | connects (socket : Socket) (peer : Option String) (now : Nat)
  | device (number : Nat) (deed : Deed)
  | message (sms : Sms)
  | polls
  | handles (frame : Inbound) (now : Nat) (wall : Int)
  /-- The oldest message of the inbox is obeyed. -/
  | obeys
  | checksLink (now : Nat)
  | checksModem (now : Nat)
  | checksDaemon (now : Nat)
  | sweepsStale (now : Nat)
  | sweepsLost (now : Nat) (wall : Int)
  | announces (now : Nat)

namespace Hub

/-- The hub after an act. -/
def act (hub : Hub) : Act → Hub
  | .connects socket peer now => { hub with board := (hub.board.accept socket peer now).2 }
  | .device number deed => { hub with board := hub.board.peerDoes number deed.apply }
  | .message sms => { hub with inbox := hub.inbox.enqueue sms }
  | .polls => { hub with board := hub.board.poll.2 }
  | .handles frame now wall => hub.handleFrame now wall frame
  | .obeys => hub.obeyNext
  | .checksLink now =>
    let (watch, station) := hub.watch.linkDuty now hub.station
    { hub with watch, station }
  | .checksModem now =>
    let (watch, station) := hub.watch.modemDuty now hub.station
    { hub with watch, station }
  | .checksDaemon now =>
    let (watch, station) := hub.watch.daemonDuty now hub.station
    { hub with watch, station }
  | .sweepsStale now =>
    let (watch, board) := hub.watch.staleDuty now hub.board
    { hub with watch, board }
  | .sweepsLost now wall =>
    let (watch, station) := hub.watch.lostDuty now wall hub.station
    { hub with watch, station }
  | .announces now =>
    let (watch, station) := hub.watch.bootDuty now hub.station
    { hub with watch, station }

/-- The hub after acts one after the other. -/
def perform (hub : Hub) (acts : List Act) : Hub :=
  acts.foldl act hub

/-- The duties of a cycle. -/
def duties (now : Nat) (wall : Int) : List Act :=
  [.checksLink now, .checksModem now, .checksDaemon now, .sweepsStale now, .sweepsLost now wall,
    .announces now]

/-- The acts that a happening consists of. -/
def acts (hub : Hub) : Happening → List Act
  | .connects socket peer now => [.connects socket peer now]
  | .device number deed => [.device number deed]
  | .message sms => [.message sms]
  | .cycle now wall =>
    .polls :: hub.board.poll.1.map (.handles · now wall) ++
      List.replicate hub.inbox.size .obeys ++ duties now wall

/-- The acts that happenings consist of which are one after the other. -/
def actsOf (hub : Hub) : List Happening → List Act
  | [] => []
  | happening :: rest => hub.acts happening ++ (hub.after happening).actsOf rest

/-- The message that an act makes the hub hear. -/
def heard (hub : Hub) : Act → Option Sms
  | .obeys => hub.inbox.waiting.head?
  | _ => none

/-- What an act sends. -/
def sends (hub : Hub) (act : Act) : List Dispatch :=
  (hub.act act).station.post.log.drop hub.station.post.log.length

/-! ## A happening is its acts -/

/-- Acts one after the other are performed one after the other. -/
lemma perform_append (hub : Hub) (first rest : List Act) :
    hub.perform (first ++ rest) = (hub.perform first).perform rest :=
  List.foldl_append

/-- The last act is performed last. -/
lemma perform_concat (hub : Hub) (acts : List Act) (act : Act) :
    hub.perform (acts ++ [act]) = (hub.perform acts).act act := by
  rw [perform_append]
  rfl

/-- A frame puts nothing into the inbox. -/
lemma handleFrame_inbox (now : Nat) (wall : Int) (hub : Hub) (frame : Inbound) :
    (hub.handleFrame now wall frame).inbox = hub.inbox :=
  (hub.handleFrame_handles now wall frame).inbox

/-- To perform the handling of frames is to handle them one after the other. -/
lemma perform_handles (hub : Hub) (frames : List Inbound) (now : Nat) (wall : Int) :
    hub.perform (frames.map (.handles · now wall)) = hub.handleFrames now wall frames :=
  List.foldl_map

/-- Frames put nothing into the inbox. -/
lemma handleFrames_inbox (now : Nat) (wall : Int) (hub : Hub) (frames : List Inbound) :
    (hub.handleFrames now wall frames).inbox = hub.inbox := by
  rw [handleFrames]
  induction frames generalizing hub with
  | nil => rfl
  | cons frame frames ih => rw [List.foldl_cons, ih, handleFrame_inbox]

/-- To obey all messages is to obey one after the other, as often as there are messages. -/
lemma perform_obeys (hub : Hub) :
    hub.perform (List.replicate hub.inbox.size .obeys) = hub.drain := by
  -- By induction on the messages that wait, with the station that they change left general.
  obtain ⟨id, pin, station, watch, board, ⟨waiting⟩, counter, replies⟩ := hub
  induction waiting generalizing station with
  | nil => rfl
  | cons sms waiting ih => exact ih (station.receive pin sms)

/-- The duties of the watch one after the other are a tick. -/
lemma perform_duties (hub : Hub) (now : Nat) (wall : Int) :
    hub.perform (duties now wall) = hub.tick now wall := by
  rw [tick, Watch.tick]
  rfl

/-- A happening is the performance of its acts. -/
theorem after_eq_perform (hub : Hub) (happening : Happening) :
    hub.after happening = hub.perform (hub.acts happening) := by
  cases happening with
  | connects socket peer now => rfl
  | device number deed => rfl
  | message sms => rfl
  | cycle now wall =>
    -- The acts count the messages before the frames are handled, the hub drains its inbox after.
    have size : ({ hub with board := hub.board.poll.2 }.handleFrames now wall
        hub.board.poll.1).inbox.size = hub.inbox.size := by
      rw [handleFrames_inbox]
    rw [acts, List.cons_append, List.cons_append, perform, List.foldl_cons, ← perform,
      perform_append, perform_append, act, perform_handles, ← size, perform_obeys, perform_duties]
    rfl

/-- A run is the performance of its acts. -/
theorem run_eq_perform (hub : Hub) (happenings : List Happening) :
    hub.run happenings = hub.perform (hub.actsOf happenings) := by
  induction happenings generalizing hub with
  | nil => rfl
  | cons happening rest ih => rw [run_cons, ih, actsOf, perform_append, after_eq_perform]

/-! ## Acts are turns -/

/-- To handle a frame is a turn of the station without a message. -/
lemma Handles.turn {wall : Int} {hub next : Hub} {frame : Inbound}
    (handles : hub.Handles wall frame next) {secret : String} :
    hub.station.Turn secret none next.station := by
  cases handles with
  | ignores => exact .rests (.refl _)
  | answers _ records => exact .rests ((hub.recorded_rests wall frame).trans records.toRests)

/-- An act makes at most one turn of the station, which hears the message that the act is about. -/
theorem act_turn (hub : Hub) (act : Act) :
    hub.station.Turn hub.pin (hub.heard act) (hub.act act).station := by
  cases act with
  | handles frame now wall => exact (hub.handleFrame_handles now wall frame).turn
  | obeys =>
    rw [heard, Hub.act, obeyNext, Inbox.pop]
    cases hub.inbox.waiting with
    | nil => exact .rests (.refl _)
    | cons sms rest => exact Station.receive_turn _ _ _
  | checksLink now => exact .rests (Watch.linkDuty_answers _ _ _).toRests
  | checksModem now => exact (Watch.modemDuty_checked _ _ _).turn
  | checksDaemon now => exact (Watch.daemonDuty_checked _ _ _).turn
  | sweepsLost now wall => exact Watch.lostDuty_turn _ _ _ _
  | announces now => exact .rests (Watch.bootDuty_answers _ _ _).toRests
  | _ => exact .rests (.refl _)

/-- What an act sends is what it adds to the log. -/
lemma sends_of_log {hub : Hub} {act : Act} {sent : List Dispatch}
    (log : (hub.act act).station.post.log = hub.station.post.log ++ sent) :
    hub.sends act = sent := by
  rw [sends, log, List.drop_left]

/-- What an act sends is put behind all that was sent before. -/
lemma act_log (hub : Hub) (act : Act) :
    (hub.act act).station.post.log = hub.station.post.log ++ hub.sends act := by
  obtain ⟨sent, log, -⟩ := (hub.act_turn act).log
  rw [sends_of_log log, log]

/-- Acts at which no message is heard leave the gate alone. -/
lemma perform_gate {hub : Hub} {acts : List Act} (silent : ∀ act ∈ acts, act ≠ .obeys) :
    (hub.perform acts).station.gate = hub.station.gate := by
  induction acts generalizing hub with
  | nil => rfl
  | cons act acts ih =>
    have silence : hub.heard act = none := by
      have other := silent act List.mem_cons_self
      cases act with
      | obeys => exact absurd rfl other
      | _ => rfl
    have turn := hub.act_turn act
    rw [silence] at turn
    rw [perform, List.foldl_cons, ← perform,
      ih fun other mem => silent other (List.mem_cons_of_mem _ mem), turn.gate_of_silence]

/-- Frames leave the gate alone. -/
lemma handleFrames_gate (hub : Hub) (frames : List Inbound) (now : Nat) (wall : Int) :
    (hub.handleFrames now wall frames).station.gate = hub.station.gate := by
  rw [← perform_handles]
  exact perform_gate (by simp)

/-- A tick leaves the gate alone. -/
lemma tick_gate (hub : Hub) (now : Nat) (wall : Int) :
    (hub.tick now wall).station.gate = hub.station.gate := by
  rw [← perform_duties]
  exact perform_gate (by simp [duties])

/-- No act changes the PIN. -/
lemma act_pin (hub : Hub) (act : Act) : (hub.act act).pin = hub.pin := by
  cases act with
  | handles frame now wall => exact (hub.handleFrame_handles now wall frame).pin
  | obeys =>
    rw [Hub.act, obeyNext, Inbox.pop]
    cases hub.inbox.waiting <;> rfl
  | _ => rfl

/-- Frames do not change the PIN. -/
lemma handleFrames_pin (hub : Hub) (frames : List Inbound) (now : Nat) (wall : Int) :
    (hub.handleFrames now wall frames).pin = hub.pin := by
  rw [← perform_handles]
  induction frames generalizing hub with
  | nil => rfl
  | cons frame frames ih => exact (ih _).trans (hub.act_pin (.handles frame now wall))

/-! ## Reachable hubs -/

/-- The hubs that can be reached by acts. -/
inductive Reaches (first : Hub) : Hub → Prop
  | refl : Reaches first first
  | act {hub : Hub} (reaches : Reaches first hub) (act : Act) : Reaches first (hub.act act)

/-- Acts lead from a hub that is reached to hubs that are reached. -/
lemma Reaches.perform {first hub : Hub} (reaches : Reaches first hub) (acts : List Act) :
    Reaches first (hub.perform acts) := by
  induction acts generalizing hub with
  | nil => exact reaches
  | cons act acts ih => exact ih (reaches.act act)

/-- Every run reaches a hub by acts. -/
theorem reaches_run (hub : Hub) (happenings : List Happening) :
    Reaches hub (hub.run happenings) := by
  rw [run_eq_perform]
  exact Reaches.refl.perform _

/-- A hub that is reached has the PIN of the first one. -/
lemma Reaches.pin {first hub : Hub} (reaches : Reaches first hub) : hub.pin = first.pin := by
  induction reaches with
  | refl => rfl
  | act _ act ih => rw [act_pin, ih]

end Hub

end HeatingHub
