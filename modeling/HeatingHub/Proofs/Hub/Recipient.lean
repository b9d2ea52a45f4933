import HeatingHub.Proofs.Hub.Confirmation
import HeatingHub.Proofs.Hub.Request
import HeatingHub.Proofs.Hub.Traffic

/-!
# Who is sent messages

A hub sends messages to two kinds of numbers. Whoever is admitted is answered (`obey_answered`), and
alerts go to the emergency phone (`Station.Warns`), which is always a phone number. What an act
sends is therefore owed to the number that it goes to (`act_owes`), and nobody else is ever sent
anything (`nobody_else_texted`).
-/

namespace HeatingHub

namespace Station

/-- The dispatch is an alert to the emergency phone, which is the same when it is sent. -/
structure IsAlert (station : Station) (dispatch : Dispatch) : Prop where
  occasion : dispatch.occasion = .alert
  number : station.gate.emergency = some dispatch.sms.number
  setting : dispatch.settings.emergency = some dispatch.sms.number

/-- The gate stays as it is, and all that is sent are alerts. -/
structure Warns (station next : Station) : Prop where
  gate : next.gate = station.gate
  log : ∃ sent, next.post.log = station.post.log ++ sent ∧
    ∀ dispatch ∈ sent, station.IsAlert dispatch

/-! ## Alerts -/

/-- A change that sends nothing and leaves the gate alone warns nobody. -/
lemma warns_of_quiet {station next : Station} (gate : next.gate = station.gate)
    (post : next.post = station.post) : Warns station next where
  gate := gate
  log := by
    refine ⟨[], ?_, nofun⟩
    rw [post, List.append_nil]

/-- To do nothing warns nobody. -/
lemma Warns.refl (station : Station) : Warns station station :=
  warns_of_quiet rfl rfl

/-- Two changes that send nothing but alerts send nothing but alerts. -/
lemma Warns.trans {station next last : Station} (first : Warns station next)
    (second : Warns next last) : Warns station last where
  gate := second.gate.trans first.gate
  log := by
    obtain ⟨sent, log, alerts⟩ := first.log
    obtain ⟨sent', log', alerts'⟩ := second.log
    refine ⟨sent ++ sent', by rw [log', log, List.append_assoc], fun dispatch mem => ?_⟩
    cases List.mem_append.1 mem with
    | inl mem => exact alerts dispatch mem
    | inr mem =>
      obtain ⟨occasion, number, setting⟩ := alerts' dispatch mem
      exact ⟨occasion, first.gate ▸ number, setting⟩

/-- An alert goes to the emergency phone. -/
lemma alert_warns (station : Station) (text : String) : Warns station (station.alert text) := by
  rw [alert]
  split
  · next number found =>
    refine ⟨rfl, [_], rfl, fun dispatch mem => ?_⟩
    cases List.mem_singleton.1 mem
    exact ⟨rfl, found, found⟩
  · exact .refl station

/-- A mass command warns nobody by itself. -/
lemma setAll_warns (station : Station) (mode : Mode) : Warns station (station.setAll mode) :=
  warns_of_quiet (setFleet_gate _ _) (station.setAll_revises mode).post

end Station

namespace Watch

open Station (Warns alert_warns setAll_warns warns_of_quiet)

/-- A check of the link sends nothing but alerts. -/
lemma checkLink_warns (watch : Watch) (station : Station) :
    Warns station (watch.checkLink station).2 := by
  have asked : Warns station (station.ask (·.link)).2 := warns_of_quiet rfl rfl
  rw [checkLink]
  dsimp only
  split
  · exact asked
  · dsimp only
    split
    · exact asked.trans (alert_warns _ _)
    · exact asked
  · dsimp only
    split
    · exact asked.trans (alert_warns _ _)
    · exact asked

/-- A verdict on a part sends nothing but alerts. -/
lemma judge_warns (streak : Streak) (healthy : Bool) (subject : String) (station : Station) :
    Warns station (judge streak healthy subject station).2 := by
  rw [judge]
  split
  · dsimp only
    split
    · exact alert_warns _ _
    · exact .refl station
  · dsimp only
    split
    · exact setAll_warns _ _
    · exact .refl station

/-- The duty for the link sends nothing but alerts. -/
lemma linkDuty_warns (now : Nat) (watch : Watch) (station : Station) :
    Warns station (watch.linkDuty now station).2 := by
  rw [linkDuty]
  split
  · exact checkLink_warns _ _
  · exact .refl station

/-- The duty for the modem sends nothing but alerts. -/
lemma modemDuty_warns (now : Nat) (watch : Watch) (station : Station) :
    Warns station (watch.modemDuty now station).2 := by
  have asked : Warns station (station.ask (·.modem)).2 := warns_of_quiet rfl rfl
  rw [modemDuty]
  split
  · exact asked.trans (judge_warns _ _ _ _)
  · exact .refl station

/-- The duty for the message daemon sends nothing but alerts. -/
lemma daemonDuty_warns (now : Nat) (watch : Watch) (station : Station) :
    Warns station (watch.daemonDuty now station).2 := by
  have asked : Warns station (station.ask (·.daemon)).2 := warns_of_quiet rfl rfl
  rw [daemonDuty]
  split
  · exact asked.trans (judge_warns _ _ _ _)
  · exact .refl station

/-- A sweep for lost devices sends nothing but alerts. -/
lemma sweepLost_warns (station : Station) (wall : Int) :
    Warns station (sweepLost station wall).2 := by
  have dropped : Warns station
      { station with fleet := (station.fleet.sweepLost wall lostThreshold).2 } :=
    warns_of_quiet rfl rfl
  rw [sweepLost]
  dsimp only
  split
  · exact dropped
  · exact dropped.trans (alert_warns _ _)

/-- The duty for lost devices sends nothing but alerts. -/
lemma lostDuty_warns (now : Nat) (wall : Int) (watch : Watch) (station : Station) :
    Warns station (watch.lostDuty now wall station).2 := by
  rw [lostDuty]
  dsimp only
  split
  · exact sweepLost_warns _ _
  · exact .refl station

/-- The notice of a start is nothing but an alert. -/
lemma bootDuty_warns (now : Nat) (watch : Watch) (station : Station) :
    Warns station (watch.bootDuty now station).2 := by
  rw [bootDuty]
  dsimp only
  split
  · exact alert_warns _ _
  · exact .refl station

end Watch

namespace Hub

/-- To serve a request sends nothing but alerts. -/
lemma served_warns (hub : Hub) (wall : Int) (frame : Inbound) :
    hub.station.Warns (hub.served wall frame) := by
  have recorded : hub.station.Warns (hub.recorded wall frame) :=
    Station.warns_of_quiet rfl rfl
  rw [served]
  split
  · exact recorded.trans (Station.alert_warns _ _)
  · exact recorded

/-- To handle a frame sends nothing but alerts. -/
lemma handleFrame_warns (hub : Hub) (now : Nat) (wall : Int) (frame : Inbound) :
    hub.station.Warns (hub.handleFrame now wall frame).station := by
  by_cases request : Frame.IsRequest frame.bytes
  · obtain ⟨delivered, part, answered⟩ := hub.handleFrame_answered now wall request
    rw [answered.station]
    exact hub.served_warns wall frame
  · rw [hub.handleFrame_of_other now wall request]
    exact .refl _

/-! ## Acts -/

/-- An act at which no message is heard sends nothing but alerts. -/
lemma act_warns (hub : Hub) {act : Act} (silent : hub.heard act = none) :
    hub.station.Warns (hub.act act).station := by
  cases act with
  | handles frame now wall => exact hub.handleFrame_warns now wall frame
  | obeys =>
    rw [heard, List.head?_eq_none_iff] at silent
    rw [Hub.act, obeyNext, Inbox.pop, silent]
    exact .refl _
  | checksLink now => exact Watch.linkDuty_warns _ _ _
  | checksModem now => exact Watch.modemDuty_warns _ _ _
  | checksDaemon now => exact Watch.daemonDuty_warns _ _ _
  | sweepsLost now wall => exact Watch.lostDuty_warns _ _ _ _
  | announces now => exact Watch.bootDuty_warns _ _ _
  | _ => exact .refl _

/-- Only to obey the oldest message is to hear one. -/
lemma act_of_heard {hub : Hub} {act : Act} {sms : Sms} (heard : hub.heard act = some sms) :
    hub.act act =
      { hub with inbox := hub.inbox.pop.2, station := hub.station.receive hub.pin sms } := by
  cases act with
  | obeys =>
    rw [Hub.heard] at heard
    rw [Hub.act, obeyNext, Inbox.pop, heard]
  | _ => cases heard

/-- What an act of a hub may send, and to whom: an answer to the sender whom it obeys, or an alert to
the emergency phone while it obeys nobody. -/
inductive Owes (hub : Hub) (act : Act) (dispatch : Dispatch) : Prop
  | reply {sms : Sms} (heard : hub.heard act = some sms)
      (admitted : hub.station.gate.admits sms.number) (occasion : dispatch.occasion = .reply)
      (number : dispatch.sms.number = sms.number)
  | alert (silent : hub.heard act = none) (alert : hub.station.IsAlert dispatch)
      (phone : isPhoneNumber dispatch.sms.number.toList)

/-- A message is answered by texts to its sender. There are none if the sender is not admitted, and
some otherwise, unless the host reboots. -/
lemma sends_of_heard {hub : Hub} {act : Act} {sms : Sms} (heard : hub.heard act = some sms) :
    (∀ dispatch ∈ hub.sends act, dispatch.occasion = .reply ∧ dispatch.sms.number = sms.number) ∧
    (hub.station.gate.admits sms.number = false → hub.sends act = []) ∧
    (hub.sends act = [] → hub.station.gate.admits sms.number →
      hub.station.Reboots (Command.parse sms.text)) := by
  obtain ⟨texts, replies, refused, silent⟩ := hub.station.receive_answered hub.pin sms
  have sent : (hub.sends act).map (fun dispatch => (dispatch.occasion, dispatch.sms)) =
      texts.map fun text => (.reply, { number := sms.number, text }) := by
    have log := hub.act_log act
    rw [act_of_heard heard] at log
    rw [Station.Replies, Post.tried, log, List.map_append] at replies
    exact List.append_cancel_left replies
  have alike : hub.sends act = [] ↔ texts = [] := by
    rw [← List.map_eq_nil_iff, sent, List.map_eq_nil_iff]
  refine ⟨fun dispatch mem => ?_, fun closed => alike.2 (refused closed), fun none =>
    silent (alike.1 none)⟩
  have listed := List.mem_map_of_mem (f := fun dispatch => (dispatch.occasion, dispatch.sms)) mem
  rw [sent] at listed
  obtain ⟨text, -, same⟩ := List.mem_map.1 listed
  obtain ⟨occasion, answer⟩ := Prod.mk.inj same
  rw [← answer]
  exact ⟨occasion.symm, rfl⟩

/-- Whatever an act of a hub with valid settings sends, it owes to the number that it goes to. -/
theorem act_owes {hub : Hub} (valid : hub.station.settings.Valid) {act : Act}
    {dispatch : Dispatch} (sent : dispatch ∈ hub.sends act) : hub.Owes act dispatch := by
  cases heard : hub.heard act with
  | none =>
    obtain ⟨alerts, log, owed⟩ := (hub.act_warns heard).log
    rw [sends_of_log log] at sent
    have alert := owed dispatch sent
    exact .alert heard alert (valid.emergency _ alert.number)
  | some sms =>
    obtain ⟨answers, closed, -⟩ := sends_of_heard heard
    obtain ⟨occasion, number⟩ := answers dispatch sent
    refine .reply heard ?_ occasion number
    -- Had the sender not been admitted, nothing would have been sent.
    by_contra refused
    rw [closed ((Bool.not_eq_true _).mp refused)] at sent
    exact List.not_mem_nil sent

/-! ## Runs -/

/-- Every message that a hub has sent after some acts is owed by one of these acts, or was sent
before them. -/
lemma owed_of_mem_log {first : Hub} (valid : ∀ acts, (first.perform acts).station.settings.Valid)
    {acts : List Act} {dispatch : Dispatch}
    (mem : dispatch ∈ (first.perform acts).station.post.log) :
    dispatch ∈ first.station.post.log ∨
      ∃ earlier act later, acts = earlier ++ act :: later ∧
        dispatch ∈ (first.perform earlier).sends act ∧
        (first.perform earlier).Owes act dispatch := by
  induction acts generalizing first with
  | nil => exact .inl mem
  | cons act rest ih =>
    have traced := @ih (first.act act) (fun acts => valid (act :: acts)) mem
    obtain now | ⟨earlier, other, later, rfl, sent, owed⟩ := traced
    · rw [act_log, List.mem_append] at now
      cases now with
      | inl old => exact .inl old
      | inr sent => exact .inr ⟨[], act, rest, rfl, sent, act_owes (valid []) sent⟩
    · exact .inr ⟨act :: earlier, other, later, rfl, sent, owed⟩

/-- Every message that a hub tries to send in a run is owed by one of its acts: it answers the
sender of the message that the act obeys, whom the gate admits at that moment, or it is an alert to
the phone number that is the emergency phone at that moment. A message of a sender who is not
admitted is dropped, and that is all. A message of a sender who is admitted is answered, to the
sender only, unless the host reboots. -/
theorem nobody_else_texted (id : DeviceId) (pin : String) (surroundings : Station)
    (counter : UInt64) (now : Nat) (acts : List Act) :
    let first := start id pin surroundings counter now
    let hub := first.perform acts
    (∀ dispatch ∈ hub.station.post.log, dispatch ∈ surroundings.post.log ∨
      ∃ earlier act later, acts = earlier ++ act :: later ∧
        dispatch ∈ (first.perform earlier).sends act ∧
        (first.perform earlier).Owes act dispatch) ∧
    ∀ act sms, hub.heard act = some sms →
      (hub.station.gate.admits sms.number = false →
        hub.sends act = [] ∧ hub.act act = { hub with inbox := hub.inbox.pop.2 }) ∧
      (hub.station.gate.admits sms.number →
        ¬ hub.station.Reboots (Command.parse sms.text) → hub.sends act ≠ []) ∧
      ∀ dispatch ∈ hub.sends act,
        dispatch.occasion = .reply ∧ dispatch.sms.number = sms.number := by
  intro first hub
  have valid (acts : List Act) : (first.perform acts).station.settings.Valid :=
    valid_of_reaches (Reaches.refl.perform acts)
  refine ⟨fun dispatch mem => ?_, fun act sms heard => ?_⟩
  · have owed := owed_of_mem_log valid mem
    rwa [show first.station.post = surroundings.post from surroundings.load_post] at owed
  · obtain ⟨answers, closed, silent⟩ := sends_of_heard heard
    refine ⟨fun refused => ⟨closed refused, ?_⟩, fun admitted stays none => ?_, answers⟩
    · rw [act_of_heard heard, Station.receive, refused, if_neg Bool.false_ne_true]
    · exact stays (silent none admitted)

/-- A member locks the hub, a stranger then asks for help, and the start is announced. -/
theorem nobody_else_texted_of_stranger :
    let file := .text "whitelist=3310203040506\nemergency_phone=0612345678\n"
    let first := start (.ofNat 1) "1234" (.fresh file) 0 0
    let acts : List Act :=
      [.message { number := "3310203040506", text := "lock" }, .obeys,
        .message { number := "0000000000", text := "help" }, .obeys, .announces Watch.bootDelay]
    let hub := first.perform acts
    hub.station.post.tried.map (·.2.number) = ["3310203040506", "0612345678"] ∧
      ∀ dispatch ∈ hub.station.post.log,
        ∃ earlier act later, acts = earlier ++ act :: later ∧
          (first.perform earlier).Owes act dispatch := by
  intro file first acts hub
  refine ⟨by decide +kernel, fun dispatch mem => ?_⟩
  obtain ⟨owed, -⟩ := nobody_else_texted (.ofNat 1) "1234" (.fresh file) 0 0 acts
  obtain old | ⟨earlier, act, later, split, -, owed⟩ := owed dispatch mem
  · cases old
  · exact ⟨earlier, act, later, split, owed⟩

end Hub

end HeatingHub
