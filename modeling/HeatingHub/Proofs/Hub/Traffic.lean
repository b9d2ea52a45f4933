import HeatingHub.Proofs.Hub.Act

/-!
# The traffic of devices is confined

Whatever a frame says, nothing but the books on the one device that it names can be different once
it is handled (`Spares`), and a frame that is no request leaves the whole hub as it is. A *course*
is a run whose cycles leave out some of those frames before they are handled (`Course`); it ends
with the very hub that the run ends with (`traffic_confined`).
-/

namespace HeatingHub.Hub

/-- All but the books on one device stay as they are: the modes, the numbers and the lock, the disk,
and the records and counters of the other devices. -/
structure Spares (hub : Hub) (device : DeviceId) (next : Hub) : Prop where
  modes : next.station.fleet.modes = hub.station.fleet.modes
  gate : next.station.gate = hub.station.gate
  disk : next.station.disk = hub.station.disk
  records (other : DeviceId) : other ≠ device →
    next.station.fleet.records[other]? = hub.station.fleet.records[other]?
  counters (other : DeviceId) : other ≠ device →
    next.station.fleet.counters[other]? = hub.station.fleet.counters[other]?

/-- Some frames that are no requests are left out. -/
inductive Thins : List Inbound → List Inbound → Prop
  | nil : Thins [] []
  | keeps (frame : Inbound) {frames rest : List Inbound} (thins : Thins frames rest) :
      Thins (frame :: frames) (frame :: rest)
  | drops {frame : Inbound} (other : ¬ Frame.IsRequest frame.bytes)
      {frames rest : List Inbound} (thins : Thins frames rest) : Thins (frame :: frames) rest

/-- Happenings one after the other, where each cycle may leave out frames that are no requests. -/
inductive Course : Hub → List Happening → Hub → Prop
  | ends (hub : Hub) : Course hub [] hub
  | goes {hub last : Hub} {happening : Happening} {rest : List Happening}
      (course : Course (hub.after happening) rest last) : Course hub (happening :: rest) last
  | cycles {hub last : Hub} {now : Nat} {wall : Int} {frames : List Inbound}
      {rest : List Happening} (thins : Thins hub.board.poll.1 frames)
      (course : Course ({ hub with board := hub.board.poll.2 }.cycleOn frames now wall) rest last) :
      Course hub (.cycle now wall :: rest) last

/-! ## One frame -/

/-- To handle a frame spares all but the device that it comes from. -/
lemma Handles.spares {wall : Int} {hub next : Hub} {frame : Inbound}
    (handles : hub.Handles wall frame next) : hub.Spares (Frame.device frame.bytes) next := by
  cases handles with
  | ignores => exact ⟨rfl, rfl, rfl, fun _ _ => rfl, fun _ _ => rfl⟩
  | answers _ records =>
    have rests := (hub.recorded_rests wall frame).trans records.toRests
    refine ⟨rests.modes, rests.gate, rests.disk, fun other apart => ?_, fun other apart => ?_⟩
    · rw [records.fleet]
      exact (getElem?_insert_eq ..).trans (if_neg apart)
    · rw [records.fleet]
      exact (getElem?_insert_eq ..).trans (if_neg apart)

/-- A frame that is no request does nothing. -/
lemma handleFrame_of_other (hub : Hub) (now : Nat) (wall : Int) {frame : Inbound}
    (other : ¬ Frame.IsRequest frame.bytes) : hub.handleFrame now wall frame = hub := by
  have handles := hub.handleFrame_handles now wall frame
  generalize hub.handleFrame now wall frame = next at handles
  cases handles with
  | ignores => rfl
  | answers request => exact absurd request other

/-! ## All frames of a run -/

/-- To leave out frames that are no requests makes no difference. -/
lemma Thins.handleFrames {frames rest : List Inbound} (thins : Thins frames rest) (hub : Hub)
    (now : Nat) (wall : Int) :
    hub.handleFrames now wall rest = hub.handleFrames now wall frames := by
  induction thins generalizing hub with
  | nil => rfl
  | keeps frame _ ih => exact ih (hub.handleFrame now wall frame)
  | drops other _ ih =>
    rw [ih, Hub.handleFrames, Hub.handleFrames, List.foldl_cons, hub.handleFrame_of_other _ _ other]

/-- Every course over some happenings ends where their run does. -/
lemma Course.eq_run {hub last : Hub} {happenings : List Happening}
    (course : hub.Course happenings last) : last = hub.run happenings := by
  induction course with
  | ends => rfl
  | goes _ ih => exact ih
  | cycles thins _ ih =>
    rw [ih, cycleOn, thins.handleFrames]
    rfl

/-- To handle a frame changes nothing but the books on the device that it names, and nothing at all
if it is not decoded to a request (`Message.decode_eq_request_iff`): no record, no connection, no
reply and no message. So a run ends with the same hub when such frames are left out of its
cycles. -/
theorem traffic_confined (hub : Hub) :
    (∀ (now : Nat) (wall : Int) (frame : Inbound),
      hub.Spares (Frame.device frame.bytes) (hub.handleFrame now wall frame)) ∧
    (∀ (now : Nat) (wall : Int) (frame : Inbound), ¬ Frame.IsRequest frame.bytes →
      hub.handleFrame now wall frame = hub) ∧
    ∀ (happenings : List Happening) (last : Hub), hub.Course happenings last →
      last = hub.run happenings :=
  ⟨fun now wall frame => (hub.handleFrame_handles now wall frame).spares,
    fun now wall _ other => hub.handleFrame_of_other now wall other,
    fun _ _ course => course.eq_run⟩

/-- One device sends a reply, which could as well be left out, and another one a request. -/
theorem traffic_confined_of_reply :
    let junk : Inbound :=
      { connection := 0, peer := none, bytes := Message.encodeReply (.ofNat 7) 1 .eco }
    let question : Inbound :=
      { connection := 1, peer := none, bytes := Message.encodeRequest (.ofNat 8) 1 none }
    let hub := (start (.ofNat 1) "1234" (.fresh .missing) 0 0).run
      [.connects {} none 0, .connects {} none 0, .device 0 (.sends junk.bytes),
        .device 1 (.sends question.bytes)]
    hub.board.poll.1 = [junk, question] ∧ hub.handleFrame 0 0 junk = hub ∧
      { hub with board := hub.board.poll.2 }.cycleOn [question] 0 0 = hub.run [.cycle 0 0] := by
  intro junk question hub
  have polled : hub.board.poll.1 = [junk, question] := by decide +kernel
  have other : ¬ Frame.IsRequest junk.bytes :=
    fun request => absurd request.type (by decide +kernel)
  have thins : Thins hub.board.poll.1 [question] := by
    rw [polled]
    exact .drops other (.keeps question .nil)
  obtain ⟨-, ignored, whole⟩ := traffic_confined hub
  exact ⟨polled, ignored 0 0 junk other, whole _ _ (.cycles thins (.ends _))⟩

end HeatingHub.Hub
