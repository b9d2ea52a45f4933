import HeatingHub.Proofs.Hub.Recipient
import HeatingHub.Proofs.Settings.RoundTrip
import HeatingHub.Proofs.Sms.Header

/-!
# No text becomes a head

Whoever sends the hub a message settles, through the answers that repeat parts of it or show what is
stored, much of the texts that the hub sends. These stay in the bodies of the files that they are
left in: whoever is answered was read from the first line of a file (`heard_of_message`), and
whoever is alerted has a phone number, so that all that a hub sends is sealed
(`texts_stay_in_bodies`).
-/

namespace HeatingHub.Hub

open Spool (Sealed sealed_of_line)

/-- A phone number stands on one line. -/
lemma sealed_of_isPhoneNumber {sms : Sms} (phone : isPhoneNumber sms.number.toList) : Sealed sms :=
  sealed_of_line (Text.not_mem_of_allDigits (allDigits_of_isPhoneNumber phone) rfl)

/-! ## Where the messages come from -/

/-- A message that waits after an act waited before it, or it has just arrived. -/
lemma act_waiting (hub : Hub) {act : Act} {sms : Sms} (mem : sms ∈ (hub.act act).inbox.waiting) :
    sms ∈ hub.inbox.waiting ∨ act = .message sms := by
  cases act with
  | message new =>
    obtain old | same := List.mem_append.1 mem
    · exact .inl old
    · exact .inr (congrArg Act.message (List.mem_singleton.1 same).symm)
  | handles frame now wall =>
    rw [Hub.act, handleFrame_inbox] at mem
    exact .inl mem
  | obeys =>
    rw [Hub.act, obeyNext, Inbox.pop] at mem
    left
    cases waiting : hub.inbox.waiting with
    | nil =>
      rw [waiting] at mem
      cases mem
    | cons first rest =>
      rw [waiting] at mem
      exact List.mem_cons_of_mem _ mem
  | _ => exact .inl mem

/-- What waits after some acts has arrived in one of them, or waited before. -/
lemma perform_waiting {hub : Hub} {acts : List Act} {sms : Sms}
    (mem : sms ∈ (hub.perform acts).inbox.waiting) :
    sms ∈ hub.inbox.waiting ∨ .message sms ∈ acts := by
  induction acts generalizing hub with
  | nil => exact .inl mem
  | cons act rest ih =>
    obtain waited | arrived := @ih (hub.act act) mem
    · obtain old | rfl := hub.act_waiting waited
      · exact .inl old
      · exact .inr List.mem_cons_self
    · exact .inr (List.mem_cons_of_mem _ arrived)

/-- Only messages that have arrived are heard. -/
lemma heard_of_message {id : DeviceId} {pin : String} {surroundings : Station} {counter : UInt64}
    {now : Nat} {acts : List Act} {act : Act} {sms : Sms}
    (heard : ((start id pin surroundings counter now).perform acts).heard act = some sms) :
    .message sms ∈ acts := by
  cases act with
  | obeys =>
    obtain waited | arrived := perform_waiting (List.mem_of_mem_head? heard)
    · cases waited
    · exact arrived
  | _ => cases heard

/-! ## What is sent -/

/-- What an act owes is sealed, if all that is heard comes from senders on one line. -/
lemma Owes.sealed {hub : Hub} {act : Act} {dispatch : Dispatch} (owed : hub.Owes act dispatch)
    (line : ∀ sms, hub.heard act = some sms → '\n' ∉ sms.number.toList) : Sealed dispatch.sms := by
  cases owed with
  | reply heard _ _ number => exact sealed_of_line (number ▸ line _ heard)
  | alert _ _ phone => exact sealed_of_isPhoneNumber phone

/-- Let all messages that a hub takes be read from files. Then all that it tries to send is sealed:
its recipient stands on one line, and its file has a head of one line, which is that of its
recipient, and a body that is its text.

All answers of any station to any message from a file are sealed in this way, and so are all alerts
of a station with valid settings. A send that succeeds leaves the file that is spoken of, and
different messages to recipients on one line have different files. -/
theorem texts_stay_in_bodies (id : DeviceId) (pin : String) (surroundings : Station)
    (counter : UInt64) (now : Nat) (acts : List Act)
    (read : ∀ sms, .message sms ∈ acts → ∃ content, Sms.ofContent? content = some sms) :
    (∀ dispatch ∈ ((start id pin surroundings counter now).perform acts).station.post.log,
      dispatch ∈ surroundings.post.log ∨ Sealed dispatch.sms) ∧
    (∀ content sms, Sms.ofContent? content = some sms → ∀ (station : Station) (secret : String),
      ∃ texts, Station.Replies sms.number station texts (station.receive secret sms) ∧
        ∀ text ∈ texts, Sealed { number := sms.number, text }) ∧
    (∀ station : Station, station.settings.Valid → ∀ text,
      ∃ alerts, (station.alert text).post.tried = station.post.tried ++ alerts ∧
        ∀ alert ∈ alerts, Sealed alert.2) ∧
    (∀ (spool : Spool) sms refusal, (spool.send sms refusal).1 = .ok () →
      ∃ entries, spool.entries = some entries ∧ (spool.send sms refusal).2.entries =
        some (entries.insert spool.nextName (.file (Spool.content sms)))) ∧
    ∀ first second : Sms, '\n' ∉ first.number.toList → '\n' ∉ second.number.toList →
      Spool.content first = Spool.content second → first = second := by
  refine ⟨fun dispatch mem => ?_, fun content sms read station secret => ?_,
    fun station valid text => ?_, fun spool sms refusal sent => ?_,
    fun first second line line' => (sealed_of_line line).eq (sealed_of_line line')⟩
  · have valid (acts : List Act) :
        ((start id pin surroundings counter now).perform acts).station.settings.Valid :=
      valid_of_reaches (Reaches.refl.perform acts)
    obtain old | ⟨earlier, act, later, rfl, -, owed⟩ := owed_of_mem_log valid mem
    · rw [start, surroundings.load_post] at old
      exact .inl old
    · refine .inr (owed.sealed fun sms heard => ?_)
      obtain ⟨content, read⟩ := read sms (List.mem_append_left _ (heard_of_message heard))
      exact Sms.line_of_content read
  · obtain ⟨texts, replies, -⟩ := station.receive_answered secret sms
    have line : '\n' ∉ sms.number.toList := Sms.line_of_content read
    exact ⟨texts, replies, fun text _ => sealed_of_line line⟩
  · refine ⟨station.alerts text, station.alert_tried text, fun alert mem => ?_⟩
    obtain ⟨number, found, rfl⟩ := List.mem_map.1 mem
    exact sealed_of_isPhoneNumber (valid.emergency number (Option.mem_toList.1 found))
  · obtain ⟨entries, there, -, whole⟩ := Spool.send_ok sent
    exact ⟨entries, there, whole⟩

/-- The state file has a line like that of a recipient behind a blank line, and a member has it
shown. -/
theorem texts_stay_in_bodies_of_shown :
    let file := "whitelist=3310203040506\n\nTo: 0000000000\n\nstay\n"
    let sms : Sms := { number := "3310203040506", text := "debug filestate" }
    let content := "From: 3310203040506\n\ndebug filestate\n".toList
    let hub := (start (.ofNat 1) "1234" (.fresh (.text file)) 0 0).perform [.message sms, .obeys]
    Sms.ofContent? content = some sms ∧
      hub.station.post.log.map (·.sms) = [{ number := "3310203040506", text := file }] ∧
      ∀ dispatch ∈ hub.station.post.log,
        Spool.sections? (Spool.content dispatch.sms) =
          some (["To: " ++ dispatch.sms.number], dispatch.sms.text ++ "\n") := by
  intro file sms content hub
  have received : Sms.ofContent? content = some sms := by decide +kernel
  have read : ∀ other, .message other ∈ [Act.message sms, .obeys] →
      ∃ content, Sms.ofContent? content = some other := by
    intro other mem
    cases mem with
    | head => exact ⟨content, received⟩
    | tail _ mem =>
      cases mem with
      | tail _ mem => cases mem
  refine ⟨received, by decide +kernel, fun dispatch mem => ?_⟩
  obtain ⟨sealed, -⟩ :=
    texts_stay_in_bodies (.ofNat 1) "1234" (.fresh (.text file)) 0 0 [.message sms, .obeys] read
  obtain old | sealed := sealed dispatch mem
  · cases old
  · exact sealed.sections

end HeatingHub.Hub
