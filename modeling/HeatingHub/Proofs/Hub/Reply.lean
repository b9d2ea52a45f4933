import HeatingHub.Proofs.Hub.Request
import HeatingHub.Proofs.Hub.Traffic

/-!
# Replies

One counter numbers the replies to all devices. It is neither skipped nor used twice, whether or not
a reply is delivered, so that the replies of a run are the ones that its requests are *owed*, one
after the other (`one_reply_each`). And whatever a connection has taken is a part of one of the
replies on it, and nothing else.

The proof composes changes of a hub: each of them brings some connections and some requests, which
are answered in *trials* (`Serves`). Most of them bring neither (`Serves.of_quiet`).
-/

namespace HeatingHub

open Socket (writtenAt)

/-- The connections that a happening brings. -/
def Happening.sockets : Happening → List Socket
  | .connects socket _ _ => [socket]
  | _ => []

namespace Hub

/-- A reply that was tried, with the part of it that its connection has taken. -/
structure Trial where
  reply : Reply
  part : List UInt8

/-- What a connection has taken of these trials. -/
def takenBy (trials : List Trial) (number : Nat) : List UInt8 :=
  (trials.filter (·.reply.connection = number)).flatMap (·.part)

/-- A counter after some steps, modulo 2^64. -/
def counterAfter (counter : UInt64) (steps : Nat) : UInt64 :=
  .ofNat (counter.toNat + steps)

/-- The replies to requests, each with its connection, where their counters go on from this one. -/
def owed (id : DeviceId) (counter : UInt64) (requests : List (Inbound × Mode)) :
    List (Nat × List UInt8) :=
  requests.mapIdx fun index request =>
    (request.1.connection, Message.encodeReply id (counterAfter counter index) request.2)

/-- The requests among frames, each with the mode that its name has. -/
def requests (hub : Hub) (frames : List Inbound) : List (Inbound × Mode) :=
  (frames.filter (Frame.IsRequest ·.bytes)).map fun frame =>
    (frame, hub.station.fleet.modeOf (Frame.name frame.bytes))

/-- The requests that a happening makes the hub handle, each with the mode that its name has before
the happening. -/
def askedBy (hub : Hub) : Happening → List (Inbound × Mode)
  | .cycle _ _ => hub.requests hub.board.poll.1
  | _ => []

/-- The requests that happenings make the hub handle one after the other. -/
def asked (hub : Hub) : List Happening → List (Inbound × Mode)
  | [] => []
  | happening :: rest => hub.askedBy happening ++ (hub.after happening).asked rest

/-! ## Counters -/

/-- Without replies the counter stays. -/
lemma counterAfter_zero (counter : UInt64) : counterAfter counter 0 = counter :=
  UInt64.ofNat_toNat

/-- The counter goes on from where earlier replies left it. -/
lemma counterAfter_add (counter : UInt64) (first rest : Nat) :
    counterAfter (counterAfter counter first) rest = counterAfter counter (first + rest) := by
  rw [counterAfter, UInt64.ofNat_add, UInt64.ofNat_toNat, counterAfter, ← UInt64.ofNat_add,
    Nat.add_assoc, counterAfter]

/-- One reply moves the counter by one. -/
lemma counterAfter_one (counter : UInt64) : counterAfter counter 1 = counter + 1 := by
  rw [counterAfter, UInt64.ofNat_add, UInt64.ofNat_toNat]
  rfl

/-- Later requests are owed replies with the counters that the earlier ones leave. -/
lemma owed_append (id : DeviceId) (counter : UInt64) (first rest : List (Inbound × Mode)) :
    owed id counter (first ++ rest) =
      owed id counter first ++ owed id (counterAfter counter first.length) rest := by
  rw [owed, List.mapIdx_append, owed, owed]
  congr 2
  funext index request
  rw [counterAfter_add, Nat.add_comm]

/-! ## Serving -/

/-- Connections come, and requests are answered one after the other, each in one trial. -/
structure Serves (hub : Hub) (sockets : List Socket) (requests : List (Inbound × Mode))
    (trials : List Trial) (next : Hub) : Prop where
  id : next.id = hub.id
  counter : next.counter = counterAfter hub.counter requests.length
  replies : next.replies = hub.replies ++ trials.map (·.reply)
  owed : trials.map (fun trial => (trial.reply.connection, trial.reply.bytes)) =
    owed hub.id hub.counter requests
  taken (trial : Trial) : trial ∈ trials →
    Taken trial.reply.bytes trial.part trial.reply.delivered
  length : next.board.sockets.length = (hub.board.sockets ++ sockets).length
  written (number : Nat) : writtenAt next.board.sockets number =
    writtenAt (hub.board.sockets ++ sockets) number ++ takenBy trials number
  ordered : hub.board.Ordered → next.board.Ordered

/-- A quiet change serves no request. -/
lemma Serves.of_quiet {hub next : Hub} (id : next.id = hub.id)
    (counter : next.counter = hub.counter) (replies : next.replies = hub.replies)
    (quiet : hub.board.Quiet next.board) : Serves hub [] [] [] next where
  id := id
  counter := counter.trans (counterAfter_zero _).symm
  replies := replies.trans (List.append_nil _).symm
  owed := rfl
  taken _ mem := absurd mem List.not_mem_nil
  length := by rw [quiet.length, List.append_nil]
  written number := by
    rw [quiet.written, List.append_nil]
    exact (List.append_nil _).symm
  ordered ordered := ordered.sublist quiet.numbers quiet.length

/-- Requests that are served one after the other are served. -/
lemma Serves.trans {hub next last : Hub} {sockets sockets' : List Socket}
    {requests requests' : List (Inbound × Mode)} {trials trials' : List Trial}
    (first : Serves hub sockets requests trials next)
    (second : Serves next sockets' requests' trials' last) :
    Serves hub (sockets ++ sockets') (requests ++ requests') (trials ++ trials') last where
  id := second.id.trans first.id
  counter := by rw [second.counter, first.counter, counterAfter_add, List.length_append]
  replies := by rw [second.replies, first.replies, List.append_assoc, List.map_append]
  owed := by
    rw [List.map_append, first.owed, second.owed, first.id, first.counter, ← owed_append]
  taken trial mem := by
    cases List.mem_append.1 mem with
    | inl mem => exact first.taken trial mem
    | inr mem => exact second.taken trial mem
  length := by
    rw [second.length, List.length_append, first.length, ← List.length_append, List.append_assoc]
  written number := by
    have both : takenBy (trials ++ trials') number =
        takenBy trials number ++ takenBy trials' number := by
      rw [takenBy, List.filter_append, List.flatMap_append, takenBy, takenBy]
    have before := first.written number
    rw [second.written, both, ← List.append_assoc, ← List.append_assoc]
    congr 1
    by_cases inside : number < next.board.sockets.length
    · have inside' : number < (hub.board.sockets ++ sockets).length := first.length ▸ inside
      rw [Socket.writtenAt_append_left inside, before, Socket.writtenAt_append_left inside']
    -- A connection that comes later has taken nothing in the trials before.
    · have outside : next.board.sockets.length ≤ number := Nat.le_of_not_lt inside
      have outside' : (hub.board.sockets ++ sockets).length ≤ number := first.length ▸ outside
      rw [Socket.writtenAt_of_le outside, Socket.writtenAt_of_le outside', List.nil_append]
        at before
      rw [Socket.writtenAt_append_right outside, Socket.writtenAt_append_right outside',
        ← before, List.append_nil, first.length]
  ordered ordered := second.ordered (first.ordered ordered)

/-! ## Frames -/

/-- Which modes frames ask for depends on the modes that are set only. -/
lemma requests_congr {hub next : Hub}
    (modes : next.station.fleet.modes = hub.station.fleet.modes) (frames : List Inbound) :
    next.requests frames = hub.requests frames := by
  rw [requests, requests]
  exact List.map_congr_left fun frame _ => congrArg _ (Fleet.modeOf_congr modes _)

/-- A request that is answered is served. -/
lemma Answered.serves {wall : Int} {hub next : Hub} {frame : Inbound} {delivered : Bool}
    {part : List UInt8} (answered : Answered wall hub frame delivered part next)
    (request : Frame.IsRequest frame.bytes) :
    Serves hub [] (hub.requests [frame]) [⟨hub.replyTo frame delivered, part⟩] next := by
  have alone : hub.requests [frame] =
      [(frame, hub.station.fleet.modeOf (Frame.name frame.bytes))] := by
    simp [requests, request]
  rw [alone]
  constructor
  case id => exact answered.id
  case counter => exact answered.counter.trans (counterAfter_one _).symm
  case replies => exact answered.replies
  case owed =>
    rw [Hub.owed, List.mapIdx_singleton, counterAfter_zero]
    rfl
  case taken =>
    intro trial mem
    rw [List.mem_singleton.1 mem]
    exact answered.taken
  case length => rw [answered.length, List.append_nil]
  case written =>
    intro number
    rw [answered.written, List.append_nil, takenBy]
    by_cases same : number = frame.connection
    · simp [same, replyTo]
    · simp [same, Ne.symm same, replyTo]
  case ordered =>
    intro ordered
    exact ordered.sublist answered.sublist answered.length

/-- To handle a frame serves the request that it is, if it is one. -/
lemma handleFrame_serves (hub : Hub) (now : Nat) (wall : Int) (frame : Inbound) :
    ∃ trials, Serves hub [] (hub.requests [frame]) trials (hub.handleFrame now wall frame) := by
  by_cases request : Frame.IsRequest frame.bytes
  · obtain ⟨delivered, part, answered⟩ := hub.handleFrame_answered now wall request
    exact ⟨_, answered.serves request⟩
  · have none : hub.requests [frame] = [] := by simp [requests, request]
    rw [none, hub.handleFrame_of_other now wall request]
    exact ⟨[], .of_quiet rfl rfl rfl (.refl _)⟩

/-- To handle frames one after the other serves the requests among them. -/
lemma handleFrames_serves (hub : Hub) (now : Nat) (wall : Int) (frames : List Inbound) :
    ∃ trials, Serves hub [] (hub.requests frames) trials (hub.handleFrames now wall frames) := by
  induction frames generalizing hub with
  | nil => exact ⟨[], .of_quiet rfl rfl rfl (.refl _)⟩
  | cons frame frames ih =>
    obtain ⟨trials, first⟩ := hub.handleFrame_serves now wall frame
    obtain ⟨trials', rest⟩ := ih (hub.handleFrame now wall frame)
    -- The modes of all requests of a cycle are those at its beginning.
    rw [requests_congr (hub.handleFrame_handles now wall frame).spares.modes] at rest
    have both : hub.requests (frame :: frames) = hub.requests [frame] ++ hub.requests frames := by
      rw [requests, requests, requests, ← List.map_append, ← List.filter_append]
      rfl
    rw [both]
    exact ⟨_, first.trans rest⟩

/-! ## Happenings -/

/-- A tick is quiet. -/
lemma tick_quiet (hub : Hub) (now : Nat) (wall : Int) :
    hub.board.Quiet (hub.tick now wall).board := by
  rw [tick, Watch.tick]
  dsimp only [Watch.staleDuty]
  split
  · exact Switchboard.sweepStale_quiet _ _ _
  · exact .refl _

/-- A cycle serves the requests among the frames of its poll. -/
lemma cycle_serves (hub : Hub) (now : Nat) (wall : Int) :
    ∃ trials, Serves hub [] (hub.requests hub.board.poll.1) trials (hub.cycle now wall) := by
  have polled : Serves hub [] [] [] { hub with board := hub.board.poll.2 } :=
    .of_quiet rfl rfl rfl (hub.board.pollEach_quiet hub.board.held)
  obtain ⟨trials, handled⟩ :=
    { hub with board := hub.board.poll.2 }.handleFrames_serves now wall hub.board.poll.1
  have rest (hub : Hub) : Serves hub [] [] [] (hub.drain.tick now wall) :=
    .of_quiet rfl rfl rfl (hub.drain.tick_quiet now wall)
  have whole := (polled.trans handled).trans (rest _)
  simp only [List.nil_append, List.append_nil] at whole
  exact ⟨trials, whole⟩

/-- A happening serves the requests that are asked by it. -/
lemma after_serves (hub : Hub) (happening : Happening) :
    ∃ trials,
      Serves hub happening.sockets (hub.askedBy happening) trials (hub.after happening) := by
  cases happening with
  | connects socket peer now =>
    exact ⟨[],
      { id := rfl
        counter := (counterAfter_zero _).symm
        replies := (List.append_nil _).symm
        owed := rfl
        taken := fun _ mem => absurd mem List.not_mem_nil
        length := rfl
        written := fun _ => (List.append_nil _).symm
        ordered := fun ordered => ordered.accept socket peer now }⟩
  | device number deed =>
    have silent (socket : Socket) : (deed.apply socket).written = socket.written := by
      cases deed <;> rfl
    exact ⟨[], .of_quiet rfl rfl rfl (hub.board.peerDoes_quiet number silent)⟩
  | message sms => exact ⟨[], .of_quiet rfl rfl rfl (.refl _)⟩
  | cycle now wall => exact hub.cycle_serves now wall

/-- A run serves the requests that are asked in it. -/
lemma run_serves (hub : Hub) (happenings : List Happening) :
    ∃ trials, Serves hub (happenings.flatMap (·.sockets)) (hub.asked happenings) trials
      (hub.run happenings) := by
  induction happenings generalizing hub with
  | nil => exact ⟨[], .of_quiet rfl rfl rfl (.refl _)⟩
  | cons happening rest ih =>
    obtain ⟨trials, first⟩ := hub.after_serves happening
    obtain ⟨trials', rest⟩ := ih (hub.after happening)
    exact ⟨_, first.trans rest⟩

/-- The replies of a run are those that its requests are owed, in the order of the requests, and on
their connections. A connection has taken nothing else since it came, and of each reply on it a
beginning, which is all of it exactly if the reply is delivered. The frames of a cycle are read and
handled in the order in which their connections were accepted.

Whatever becomes of a reply, its request is served, and the counter goes on by one; if the reply
fails, its connection is let go, and no other. -/
theorem one_reply_each (id : DeviceId) (pin : String) (surroundings : Station) (counter : UInt64)
    (now : Nat) (happenings : List Happening) :
    let hub := start id pin surroundings counter now
    let last := hub.run happenings
    (∃ trials : List Trial,
      last.replies = trials.map (·.reply) ∧
      trials.map (fun trial => (trial.reply.connection, trial.reply.bytes)) =
        owed id counter (hub.asked happenings) ∧
      (∀ trial ∈ trials, Taken trial.reply.bytes trial.part trial.reply.delivered) ∧
      ∀ number, writtenAt last.board.sockets number =
        writtenAt (happenings.flatMap (·.sockets)) number ++ takenBy trials number) ∧
    last.counter = counterAfter counter (hub.asked happenings).length ∧
    (last.board.poll.1.map (·.connection)).Pairwise (· < ·) ∧
    ∀ (any : Hub) (now : Nat) (wall : Int) (frame : Inbound), Frame.IsRequest frame.bytes →
      ∃ delivered part,
        Answered wall any frame delivered part (any.handleFrame now wall frame) := by
  intro hub last
  obtain ⟨trials, serves⟩ := hub.run_serves happenings
  have none : hub.board.Ordered := ⟨List.Pairwise.nil, fun _ mem => absurd mem List.not_mem_nil⟩
  exact ⟨⟨trials, serves.replies, serves.owed, serves.taken, serves.written⟩, serves.counter,
    (serves.ordered none).poll, fun any now wall _ => any.handleFrame_answered now wall⟩

/-- Two devices ask in one cycle, where the connection of the first one has broken. Its reply has
the last counter there is, and the next reply the first one. -/
theorem one_reply_each_of_broken :
    let first : Inbound :=
      { connection := 0, peer := none, bytes := Message.encodeRequest (.ofNat 7) 1 none }
    let second : Inbound :=
      { connection := 1, peer := none, bytes := Message.encodeRequest (.ofNat 8) 1 (some "attic") }
    let hub := start (.ofNat 1) "1234" (.fresh .missing) 0xFFFFFFFFFFFFFFFF 0
    let before : List Happening :=
      [.connects {} none 0, .connects {} none 0, .device 0 (.sends first.bytes),
        .device 0 .breaks, .device 1 (.sends second.bytes)]
    Frame.IsRequest first.bytes ∧
      (hub.run (before ++ [.cycle 0 0])).replies.map
          (fun reply => (reply.connection, reply.bytes)) =
        [(0, Message.encodeReply (.ofNat 1) 0xFFFFFFFFFFFFFFFF .safe),
          (1, Message.encodeReply (.ofNat 1) 0 .safe)] ∧
      ∃ part, Answered 0 (hub.run before) first false part
        ((hub.run before).handleFrame 0 0 first) := by
  intro first second hub before
  have request : Frame.IsRequest first.bytes := by decide +kernel
  obtain ⟨⟨trials, replies, owed, -, -⟩, -, -, each⟩ :=
    one_reply_each (.ofNat 1) "1234" (.fresh .missing) 0xFFFFFFFFFFFFFFFF 0 (before ++ [.cycle 0 0])
  refine ⟨request, ?_, ?_⟩
  · rw [replies, List.map_map]
    refine owed.trans ?_
    decide +kernel
  · obtain ⟨delivered, part, answered⟩ := each (hub.run before) 0 0 first request
    have failed :
        ((hub.run before).handleFrame 0 0 first).replies.map (·.delivered) = [false] := by
      decide +kernel
    rw [answered.replies, List.map_append] at failed
    have alone : [delivered] = [false] := List.append_inj_right failed rfl
    obtain rfl := List.singleton_inj.1 alone
    exact ⟨part, answered⟩

end Hub

end HeatingHub
