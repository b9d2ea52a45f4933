import HeatingHub.Launch
import HeatingHub.Proofs.Command.Pin
import HeatingHub.Proofs.Hub.Act
import HeatingHub.Proofs.Station.Lock

/-!
# The lock of a hub

Every hub that is reached from a start is guarded (`guarded_of_reaches`), since it starts unlocked.
From there the discipline of the lock follows act by act: only members move the lock, nobody changes
the whitelist while it is locked, and a member can always open it again (`lock_discipline`). For this
the PIN has to be a row of digits, and no call of the program runs a hub with any other PIN: such a
hub is never locked for good (`opens_of_running`).
-/

namespace HeatingHub.Hub

variable {id : DeviceId} {pin : String} {surroundings : Station} {counter : UInt64} {now : Nat}
  {hub : Hub}

/-- A hub that is reached from a start is guarded. -/
lemma guarded_of_reaches (reaches : (start id pin surroundings counter now).Reaches hub) :
    hub.station.gate.Guarded := by
  induction reaches with
  | refl =>
    intro locked
    rw [start, Station.load_unlocked] at locked
    cases locked
  | act _ act ih => exact (act_turn _ act).guarded ih

/-- A cycle in which the text `UNLOCK` and the PIN of a member waits alone opens the hub. -/
lemma cycle_unlock (hub : Hub) {number : String} (digits : Config.isPin hub.pin)
    (guarded : hub.station.gate.Guarded) (locked : hub.station.gate.locked)
    (member : number ∈ hub.station.gate.whitelist)
    (alone : hub.inbox = { waiting := [{ number, text := "UNLOCK " ++ hub.pin }] }) (now : Nat)
    (wall : Int) : (hub.cycle now wall).station.gate.locked = false := by
  let polled := { hub with board := hub.board.poll.2 }
  let served := polled.handleFrames now wall hub.board.poll.1
  have gate : served.station.gate = hub.station.gate := handleFrames_gate polled _ now wall
  have pin : served.pin = hub.pin := handleFrames_pin polled _ now wall
  have inbox : served.inbox = hub.inbox := handleFrames_inbox now wall polled _
  show (served.drain.tick now wall).station.gate.locked = false
  rw [tick_gate, drain, inbox, alone, pin]
  rw [← gate] at guarded locked member
  exact Station.receive_unlock digits guarded locked member

/-- A member opens a locked hub to everybody: the text `UNLOCK` and the PIN do it as soon as they are
received, and a cycle receives them if no other message waits. -/
lemma opened_by_member {number : String} (digits : Config.isPin hub.pin)
    (guarded : hub.station.gate.Guarded) (locked : hub.station.gate.locked)
    (member : number ∈ hub.station.gate.whitelist) :
    let unlock : Sms := { number, text := "UNLOCK " ++ hub.pin }
    let opened := hub.station.receive hub.pin unlock
    (opened.gate.locked = false ∧ ∀ other, opened.gate.admits other) ∧
      (hub.inbox = {} → ∀ now wall,
        let opened := (hub.run [.message unlock, .cycle now wall]).station
        opened.gate.locked = false ∧ ∀ other, opened.gate.admits other) := by
  refine ⟨?_, fun empty now wall => ?_⟩
  · have unlocked := Station.receive_unlock digits guarded locked member
    exact ⟨unlocked, Gate.admits_of_unlocked unlocked⟩
  · let waiting := hub.after (.message { number, text := "UNLOCK " ++ hub.pin })
    have alone : waiting.inbox = { waiting := [{ number, text := "UNLOCK " ++ hub.pin }] } :=
      congrArg (Inbox.enqueue · _) empty
    have unlocked : (waiting.cycle now wall).station.gate.locked = false :=
      cycle_unlock waiting digits guarded locked member alone now wall
    exact ⟨unlocked, Gate.admits_of_unlocked unlocked⟩

/-- A hub that was started with a row of digits for its PIN keeps the discipline of the lock: a
locked hub has a member, only members move the lock, nothing changes the whitelist of a locked hub,
and each of its members can open it to everybody. -/
theorem lock_discipline (digits : Config.isPin pin)
    (reaches : (start id pin surroundings counter now).Reaches hub) :
    -- (a) A locked hub has a member.
    (hub.station.gate.locked → hub.station.gate.whitelist ≠ ∅) ∧
    -- (b) Only members lock it, by `LOCK`, and unlock it, by `UNLOCK` and the PIN.
    (∀ act, hub.station.gate.locked = false → (hub.act act).station.gate.locked →
      ∃ sms, hub.heard act = some sms ∧ Command.content sms.text = "LOCK".toList ∧
        sms.number ∈ hub.station.gate.whitelist) ∧
    (∀ act, hub.station.gate.locked → (hub.act act).station.gate.locked = false →
      ∃ sms, hub.heard act = some sms ∧
        (Text.words (Command.content sms.text)).map String.ofList = ["UNLOCK", pin] ∧
        sms.number ∈ hub.station.gate.whitelist) ∧
    -- (c) Nothing changes the whitelist while it is locked.
    (∀ act, hub.station.gate.locked →
      (hub.act act).station.gate.whitelist = hub.station.gate.whitelist) ∧
    -- (d) There is a member, and each member can open the hub to everybody.
    (hub.station.gate.locked → (∃ number, number ∈ hub.station.gate.whitelist) ∧
      ∀ number ∈ hub.station.gate.whitelist,
        let unlock : Sms := { number, text := "UNLOCK " ++ pin }
        let opened := hub.station.receive hub.pin unlock
        (opened.gate.locked = false ∧ ∀ other, opened.gate.admits other) ∧
          (hub.inbox = {} → ∀ now wall,
            let opened := (hub.run [.message unlock, .cycle now wall]).station
            opened.gate.locked = false ∧ ∀ other, opened.gate.admits other)) := by
  have guarded := guarded_of_reaches reaches
  have same : hub.pin = pin := reaches.pin
  refine ⟨fun locked => ?_, fun act before after => ?_, fun act before after => ?_,
    fun act locked => ?_, fun locked => ⟨guarded locked, fun number member => ?_⟩⟩
  · obtain ⟨number, member⟩ := guarded locked
    exact Std.ExtTreeSet.ne_empty_of_mem member
  · exact (hub.act_turn act).lock_inv before after
  · rw [← same]
    exact (hub.act_turn act).unlock_inv guarded before after
  · exact (hub.act_turn act).whitelist_of_locked locked
  · rw [← same] at digits ⊢
    exact opened_by_member digits guarded locked member

/-- A member locks a hub, and any member opens it again. -/
theorem lock_discipline_of_locked :
    let hub := (start (.ofNat 1) "1234" (.fresh (.text "whitelist=3310203040506\n")) 0 0).run
      [.message { number := "3310203040506", text := "lock" }, .cycle 0 0]
    hub.station.gate.locked ∧ ∃ number ∈ hub.station.gate.whitelist,
      (hub.station.receive hub.pin { number, text := "UNLOCK 1234" }).gate.locked = false := by
  intro hub
  have locked : hub.station.gate.locked := by decide +kernel
  have digits : Config.isPin "1234" := by decide
  obtain ⟨-, -, -, -, opens⟩ := lock_discipline digits (reaches_run _ _)
  obtain ⟨⟨number, member⟩, opened⟩ := opens locked
  exact ⟨locked, number, member, (opened number member).1.1⟩

/-! ## The hubs of the program -/

/-- A call of the program runs a hub only with a row of digits for its PIN. -/
lemma isPin_of_running {arguments : List String} {premises : Premises} {config : Config}
    (running : Launch.call arguments premises = .running config) : Config.isPin config.pin := by
  rw [Launch.call] at running
  split at running
  · cases running
  · cases running
  · cases running
  · split at running
    · cases running
    · next configured =>
      split at running
      · cases running
      · cases running
        exact configure_isPin configured

/-- No hub that the program runs is ever locked for good: while it is locked it has a member, and
each of its members can open it to everybody. -/
theorem opens_of_running {arguments : List String} {premises : Premises} {config : Config}
    (running : Launch.call arguments premises = .running config)
    (reaches : (premises.hub config counter now).Reaches hub) (locked : hub.station.gate.locked) :
    (∃ number, number ∈ hub.station.gate.whitelist) ∧
      ∀ number ∈ hub.station.gate.whitelist,
        let unlock : Sms := { number, text := "UNLOCK " ++ config.pin }
        let opened := hub.station.receive hub.pin unlock
        (opened.gate.locked = false ∧ ∀ other, opened.gate.admits other) ∧
          (hub.inbox = {} → ∀ now wall,
            let opened := (hub.run [.message unlock, .cycle now wall]).station
            opened.gate.locked = false ∧ ∀ other, opened.gate.admits other) := by
  have same : hub.pin = config.pin := reaches.pin
  have guarded := guarded_of_reaches reaches
  have digits : Config.isPin hub.pin := same ▸ isPin_of_running running
  rw [← same]
  exact ⟨guarded locked, fun _ member => opened_by_member digits guarded locked member⟩

-- Already a call without arguments, on a machine without files, runs a hub.
example : Launch.call [] {} = .running {} := by decide +kernel

end HeatingHub.Hub
