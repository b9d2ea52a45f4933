import HeatingHub.Proofs.Hub.Lock

/-!
# Strangers at a locked hub

A hub is *deaf* when its gate admits the sender of no message that waits (`Deaf`). A deaf hub works
as if its inbox were empty (`Deaf.after_muted`), and it stays deaf with the very same gate as long
as only such messages arrive (`Deaf.after`). A locked hub is deaf to all numbers that are not on its
whitelist, so that their messages could as well not have been sent (`run_without_messages`).
-/

namespace HeatingHub

/-- A message arrives. -/
def Happening.isMessage : Happening → Bool
  | .message _ => true
  | _ => false

namespace Station

/-- A message whose sender is not admitted changes nothing. -/
lemma receive_of_refused {station : Station} {sms : Sms} (secret : String)
    (refused : station.gate.admits sms.number = false) : station.receive secret sms = station := by
  rw [receive, refused, if_neg Bool.false_ne_true]

/-- Messages from numbers that are not admitted change nothing. -/
lemma receiveAll_of_refused {station : Station} {messages : List Sms} (secret : String)
    (refused : ∀ sms ∈ messages, station.gate.admits sms.number = false) :
    station.receiveAll secret messages = station := by
  rw [receiveAll]
  induction messages with
  | nil => rfl
  | cons sms messages ih =>
    rw [List.foldl_cons, receive_of_refused secret (refused sms List.mem_cons_self)]
    exact ih fun other mem => refused other (List.mem_cons_of_mem _ mem)

end Station

namespace Hub

/-- The hub with an empty inbox. -/
def muted (hub : Hub) : Hub :=
  { hub with inbox := {} }

/-- The hub has this gate, which admits the sender of no message that waits. -/
structure Deaf (gate : Gate) (hub : Hub) : Prop where
  same : hub.station.gate = gate
  refused : ∀ sms ∈ hub.inbox.waiting, gate.admits sms.number = false

/-- The inbox does not matter to the handling of a frame. -/
lemma handleFrame_muted (now : Nat) (wall : Int) (hub : Hub) (frame : Inbound) :
    (hub.handleFrame now wall frame).muted = hub.muted.handleFrame now wall frame := by
  rw [handleFrame, handleFrame]
  split <;> rfl

/-- The inbox does not matter to the handling of frames. -/
lemma handleFrames_muted (hub : Hub) (frames : List Inbound) (now : Nat) (wall : Int) :
    (hub.handleFrames now wall frames).muted = hub.muted.handleFrames now wall frames := by
  rw [handleFrames, handleFrames]
  induction frames generalizing hub with
  | nil => rfl
  | cons frame frames ih => rw [List.foldl_cons, List.foldl_cons, ih, handleFrame_muted]

/-- The inbox does not matter to a tick. -/
lemma tick_muted (hub : Hub) (now : Nat) (wall : Int) :
    (hub.tick now wall).muted = hub.muted.tick now wall := by
  rw [tick, tick]
  rfl

namespace Deaf

variable {gate : Gate} {hub : Hub}

/-- A deaf hub only empties its inbox when it obeys what waits there. -/
lemma drain_eq_muted (deaf : Deaf gate hub) : hub.drain = hub.muted := by
  have ignored : hub.station.receiveAll hub.pin hub.inbox.waiting = hub.station :=
    Station.receiveAll_of_refused hub.pin (deaf.same.symm ▸ deaf.refused)
  rw [drain, Inbox.takeAll]
  dsimp only
  rw [ignored, muted]

/-- Frames leave a deaf hub deaf. -/
lemma handleFrames (deaf : Deaf gate hub) (frames : List Inbound) (now : Nat) (wall : Int) :
    Deaf gate (hub.handleFrames now wall frames) where
  same := (handleFrames_gate hub frames now wall).trans deaf.same
  refused := by
    rw [handleFrames_inbox]
    exact deaf.refused

/-- A cycle of a deaf hub is the cycle of the hub without messages, and leaves it deaf. -/
lemma cycle (deaf : Deaf gate hub) (now : Nat) (wall : Int) :
    Deaf gate (hub.cycle now wall) ∧ (hub.cycle now wall).muted = hub.muted.cycle now wall := by
  let polled := { hub with board := hub.board.poll.2 }
  let served := polled.handleFrames now wall hub.board.poll.1
  -- Both hubs handle the same frames, and then both have nothing left to obey.
  have listens : Deaf gate polled := { deaf with }
  have deaf : Deaf gate served := listens.handleFrames _ now wall
  have whole : hub.cycle now wall = served.muted.tick now wall :=
    congrArg (Hub.tick · now wall) deaf.drain_eq_muted
  have silent : hub.muted.cycle now wall = served.muted.tick now wall :=
    congrArg (fun hub => (drain hub).tick now wall) (handleFrames_muted polled _ now wall).symm
  rw [whole, silent]
  refine ⟨⟨(tick_gate _ now wall).trans deaf.same, ?_⟩, tick_muted _ now wall⟩
  rw [tick]
  exact fun _ mem => absurd mem List.not_mem_nil

/-- What happens to a deaf hub happens as if there were no messages, and leaves it deaf as long as
no message of an admitted number arrives. -/
lemma after (deaf : Deaf gate hub) {happening : Happening}
    (refused : ∀ sms, happening = .message sms → gate.admits sms.number = false) :
    Deaf gate (hub.after happening) ∧
      (hub.after happening).muted =
        hub.muted.run ([happening].filter fun happening => !happening.isMessage) := by
  cases happening with
  | connects socket peer now => exact ⟨{ deaf with }, rfl⟩
  | device number deed => exact ⟨{ deaf with }, rfl⟩
  | message sms =>
    refine ⟨{ deaf with refused := fun other mem => ?_ }, rfl⟩
    cases List.mem_append.1 mem with
    | inl mem => exact deaf.refused other mem
    | inr mem =>
      rw [List.mem_singleton.1 mem]
      exact refused sms rfl
  | cycle now wall => exact deaf.cycle now wall

/-- A deaf hub runs as if there were no messages, as long as none of an admitted number arrives. -/
lemma run (deaf : Deaf gate hub) {happenings : List Happening}
    (refused : ∀ sms, .message sms ∈ happenings → gate.admits sms.number = false) :
    (hub.run happenings).muted =
      hub.muted.run (happenings.filter fun happening => !happening.isMessage) := by
  induction happenings generalizing hub with
  | nil => rfl
  | cons happening happenings ih =>
    obtain ⟨deaf, muted⟩ := deaf.after fun sms same => refused sms (same ▸ List.mem_cons_self)
    have ih := ih deaf fun sms mem => refused sms (List.mem_cons_of_mem _ mem)
    rw [run_cons, ih, muted, ← run_append, ← List.filter_append, List.singleton_append]

end Deaf

/-- What happens to a locked hub happens as if nobody but members had sent messages: without any,
there are the same modes, records, counters, numbers, state file, replies and sent messages. -/
theorem run_without_messages {id : DeviceId} {pin : String} {surroundings : Station}
    {counter : UInt64} {now : Nat} {hub : Hub}
    (reaches : (start id pin surroundings counter now).Reaches hub)
    (locked : hub.station.gate.locked)
    (waiting : ∀ sms ∈ hub.inbox.waiting, sms.number ∉ hub.station.gate.whitelist)
    (happenings : List Happening)
    (arriving : ∀ sms, .message sms ∈ happenings → sms.number ∉ hub.station.gate.whitelist) :
    { hub.run happenings with inbox := {} } =
      { hub with inbox := {} }.run (happenings.filter fun happening => !happening.isMessage) := by
  have guarded := guarded_of_reaches reaches
  have stranger (number : String) (h : number ∉ hub.station.gate.whitelist) :
      hub.station.gate.admits number = false := by
    rw [← Bool.not_eq_true, Gate.admits_of_locked guarded locked]
    exact h
  have deaf : Deaf hub.station.gate hub := ⟨rfl, fun sms mem => stranger _ (waiting sms mem)⟩
  exact deaf.run fun sms mem => stranger _ (arriving sms mem)

/-- A stranger wants to open a locked hub, and nothing is different for it. -/
theorem run_without_messages_of_stranger :
    let hub := (start (.ofNat 1) "1234" (.fresh (.text "whitelist=3310203040506\n")) 0 0).run
      [.message { number := "3310203040506", text := "lock" }, .cycle 0 0]
    let unlock : Sms := { number := "0000000000", text := "UNLOCK 1234" }
    { hub.run [.message unlock, .cycle 50 50] with inbox := {} } =
      { hub with inbox := {} }.run [.cycle 50 50] := by
  intro hub unlock
  have locked : hub.station.gate.locked := by decide +kernel
  have waiting : ∀ sms ∈ hub.inbox.waiting, sms.number ∉ hub.station.gate.whitelist := by
    decide +kernel
  have stranger : unlock.number ∉ hub.station.gate.whitelist := by decide +kernel
  apply run_without_messages (reaches_run _ _) locked waiting [.message unlock, .cycle 50 50]
  intro sms mem
  cases mem with
  | head => exact stranger
  | tail _ mem => cases List.mem_singleton.1 mem

end Hub

end HeatingHub
