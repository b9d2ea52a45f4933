import HeatingHub.Proofs.Station.Obedience
import HeatingHub.Proofs.Text.Cut

/-!
# What a station tries to send

Whatever becomes of a message, to send it is an attempt, and the attempts are what the station costs
its owner (`Post.tried`). An alert is one attempt if there is an emergency phone and none otherwise
(`alert_tried`). A message is answered by one attempt at most, unless it shows the log of the host,
whose end is sent in parts (`receive_replies`), of which there are up to five (`length_logTexts`).
Every command is answered, but for one to which the host reboots (`obey_answered`).
-/

namespace HeatingHub

/-- The messages that were tried to be sent, with their occasions, oldest first. -/
def Post.tried (post : Post) : List (Occasion × Sms) :=
  post.log.map fun dispatch => (dispatch.occasion, dispatch.sms)

namespace Station

/-- To send a message is to try to send it. -/
lemma send_tried (station : Station) (occasion : Occasion) (sms : Sms) :
    (station.send occasion sms).post.tried = station.post.tried ++ [(occasion, sms)] :=
  List.map_append

/-- What is tried for an alert: a message to the emergency phone if there is one. -/
def alerts (station : Station) (text : String) : List (Occasion × Sms) :=
  station.gate.emergency.toList.map fun number => (.alert, { number, text })

/-- An alert is tried if there is an emergency phone. -/
lemma alert_tried (station : Station) (text : String) :
    (station.alert text).post.tried = station.post.tried ++ station.alerts text := by
  rw [alert, alerts]
  cases station.gate.emergency with
  | none => exact (List.append_nil _).symm
  | some number => exact station.send_tried _ _

/-! ## Answers -/

/-- The next station has tried to send these texts to a number, and nothing else. -/
def Replies (number : String) (station : Station) (texts : List String) (next : Station) : Prop :=
  next.post.tried =
    station.post.tried ++ texts.map fun text => (Occasion.reply, ({ number, text } : Sms))

/-- A reply tries to send its text to the number. -/
lemma reply_replies {station asked : Station} (post : asked.post = station.post)
    (number text : String) : Replies number station [text] (asked.reply number text) := by
  rw [Replies, reply, send_tried, post]
  rfl

/-- To do nothing replies with no text. -/
lemma replies_nil (station : Station) (number : String) : Replies number station [] station :=
  (List.append_nil _).symm

/-- Replies with several texts are tried one after the other. -/
lemma replyAll_replies {station asked : Station} (post : asked.post = station.post)
    (number : String) (texts : List (List Char)) :
    Replies number station (texts.map String.ofList) (asked.replyAll number texts) := by
  rw [replyAll]
  induction texts generalizing station asked with
  | nil =>
    rw [Replies, List.foldl_nil, post]
    exact (List.append_nil _).symm
  | cons text texts ih =>
    have first := reply_replies post number (String.ofList text)
    have others := @ih (asked.reply number (String.ofList text)) _ rfl
    rw [Replies] at first others
    rw [Replies, List.foldl_cons, others, first, List.append_assoc]
    rfl

/-- To change the whitelist is answered by one message. -/
lemma editWhitelist_replies (station : Station) (secret number pin : String)
    (change : Station → String × Station) (post : (change station).2.post = station.post) :
    ∃ text, Replies number station [text] (station.editWhitelist secret number pin change) := by
  rw [editWhitelist]
  split
  · exact ⟨_, reply_replies rfl _ _⟩
  · split
    · exact ⟨_, reply_replies rfl _ _⟩
    · exact ⟨_, reply_replies post _ _⟩

/-- The command is to reboot, and the host does so. -/
def Reboots (station : Station) (command : Command) : Prop :=
  command = .debug .reboot ∧ station.host.now.reboot = .ok ()

/-- Where there is an answer, it does not matter whether the host reboots. -/
lemma Replies.answered {station next : Station} {number text : String}
    (replies : Replies number station [text] next) (command : Command) :
    ∃ answer : Option String, Replies number station answer.toList next ∧
      (answer = none → station.Reboots command) :=
  ⟨some text, replies, fun none => absurd none (Option.some_ne_none text)⟩

/-- All commands but the one for the log are answered by one message, unless the host reboots. -/
lemma obey_replies (station : Station) (secret number : String) {command : Command}
    (other : command ≠ .debug .log) :
    ∃ answer : Option String,
      Replies number station answer.toList (station.obey secret number command) ∧
        (answer = none → station.Reboots command) := by
  cases command with
  | all word => exact (reply_replies (station.setAll_revises _).post _ _).answered _
  | heater name word =>
    exact (reply_replies (station.setOverride_revises _ _).post _ _).answered _
  | lock =>
    rw [obey]
    split <;> exact (reply_replies rfl _ _).answered _
  | unlock pin =>
    rw [obey]
    split <;> exact (reply_replies rfl _ _).answered _
  | addPhone pin phone =>
    obtain ⟨text, replies⟩ := station.editWhitelist_replies secret number pin
      (fun station => (addedText phone (station.addPhone phone).1, (station.addPhone phone).2))
      (station.addPhone_revises phone).post
    exact replies.answered _
  | removePhone pin phone =>
    obtain ⟨text, replies⟩ := station.editWhitelist_replies secret number pin
      (fun station =>
        (removedText phone (station.removePhone phone).1, (station.removePhone phone).2))
      (station.removePhone_revises phone).post
    exact replies.answered _
  | setEmergencyPhone pin phone =>
    rw [obey]
    split
    · exact (reply_replies rfl _ _).answered _
    · exact (reply_replies (setGate_post _ _ _) _ _).answered _
  | removeEmergencyPhone =>
    exact (reply_replies station.clearEmergency_revises.post _ _).answered _
  | debug topic =>
    cases topic with
    | log => exact absurd rfl other
    | reboot =>
      -- Only a reboot that has begun leaves the sender without an answer.
      rw [obey, debug]
      dsimp only
      split
      · next done => exact ⟨none, station.replies_nil number, fun _ => ⟨rfl, done⟩⟩
      · apply Replies.answered
        exact reply_replies rfl _ _
    | _ =>
      apply Replies.answered
      exact reply_replies rfl _ _
  | _ =>
    apply Replies.answered
    exact reply_replies rfl _ _

/-- The command for the log is answered by the texts that the log makes. -/
lemma obey_log_replies (station : Station) (secret number : String) :
    Replies number station ((logTexts station.host.now.logs).map String.ofList)
      (station.obey secret number (.debug .log)) :=
  replyAll_replies rfl _ _

/-! ## The log -/

/-- The texts for a log that is not empty are the pieces of its end. -/
lemma logTexts_of_ne_empty {logs : String} (some : logs ≠ "") :
    logTexts (.ok logs) = Text.pieces logPartWidth (Text.keepLast logWidth logs.toList) := by
  rw [logTexts]
  exact if_neg (mt String.isEmpty_iff.1 some)

/-- The end of a log that is sent makes one text at least, and five at most. -/
lemma length_logTexts {logs : String} (some : logs ≠ "") :
    1 ≤ (logTexts (.ok logs)).length ∧ (logTexts (.ok logs)).length ≤ 5 := by
  have wide : 4 ≤ logPartWidth := by decide
  have kept : Text.keepLast logWidth logs.toList ≠ [] :=
    Text.keepLast_ne_nil (by decide) fun none => some (String.toList_eq_nil_iff.1 none)
  have filled := Text.width_of_pieces wide kept
  have width := Text.width_keepLast logWidth logs.toList
  rw [logTexts_of_ne_empty some]
  refine ⟨?_, ?_⟩
  · rw [Text.pieces_of_ne_nil wide kept]
    exact Nat.succ_pos _
  · simp only [logPartWidth, logWidth] at filled width ⊢
    omega

/-- Whatever the host has for a log, the command for it is answered. -/
lemma logTexts_ne_nil (logs : Except Fault String) : logTexts logs ≠ [] := by
  cases logs with
  | error fault => exact List.cons_ne_nil _ _
  | ok logs =>
    by_cases none : logs = ""
    · rw [none]
      exact List.cons_ne_nil _ _
    · exact List.length_pos_iff.1 (length_logTexts none).1

/-- Every command is answered, unless the host reboots. -/
theorem obey_answered (station : Station) (secret number : String) (command : Command) :
    ∃ texts, Replies number station texts (station.obey secret number command) ∧
      (texts = [] → station.Reboots command) := by
  by_cases log : command = .debug .log
  · rw [log]
    refine ⟨_, station.obey_log_replies secret number, fun none => ?_⟩
    exact absurd (List.map_eq_nil_iff.1 none) (logTexts_ne_nil _)
  · obtain ⟨answer, replies, silent⟩ := station.obey_replies secret number log
    exact ⟨_, replies, fun none => silent (Option.toList_eq_nil_iff.1 none)⟩

/-- A message is answered to its sender, unless the gate does not admit the sender or the host
reboots. -/
lemma receive_answered (station : Station) (secret : String) (sms : Sms) :
    ∃ texts, Replies sms.number station texts (station.receive secret sms) ∧
      (station.gate.admits sms.number = false → texts = []) ∧
      (texts = [] → station.gate.admits sms.number → station.Reboots (Command.parse sms.text)) := by
  rw [receive]
  split
  · next admitted =>
    obtain ⟨texts, replies, silent⟩ := station.obey_answered secret sms.number _
    refine ⟨texts, replies, fun refused => ?_, fun none _ => silent none⟩
    exact absurd (refused.symm.trans admitted) Bool.false_ne_true
  · next refused =>
    exact ⟨[], station.replies_nil _, fun _ => rfl, fun _ admitted => absurd admitted refused⟩

/-- A sender who is admitted asks for the log, and the host has this one to show. -/
structure ShowsLog (station : Station) (sms : Sms) (logs : String) : Prop where
  admitted : station.gate.admits sms.number
  asked : Command.parse sms.text = .debug .log
  readable : station.host.now.logs = .ok logs
  filled : logs ≠ ""

/-- A station answers a message by the end of a log, or else by one text or none. -/
theorem receive_replies (station : Station) (secret : String) (sms : Sms) :
    (∃ logs, station.ShowsLog sms logs ∧
      Replies sms.number station ((logTexts (.ok logs)).map String.ofList)
        (station.receive secret sms)) ∨
    (∀ logs, ¬ station.ShowsLog sms logs) ∧
      ∃ answer : Option String,
        Replies sms.number station answer.toList (station.receive secret sms) := by
  rw [receive]
  split
  · next admitted =>
    by_cases asked : Command.parse sms.text = .debug .log
    · have replies := station.obey_log_replies secret sms.number
      rw [asked]
      cases answer : station.host.now.logs with
      | error fault =>
        rw [answer] at replies
        refine .inr ⟨fun logs shows => ?_, some _, replies⟩
        cases answer.symm.trans shows.readable
      | ok logs =>
        rw [answer] at replies
        -- An empty log has an answer of its own.
        by_cases none : logs = ""
        · rw [none] at replies answer
          refine .inr ⟨fun logs shows => ?_, some _, replies⟩
          cases answer.symm.trans shows.readable
          exact shows.filled rfl
        · exact .inl ⟨logs, ⟨admitted, asked, answer, none⟩, replies⟩
    · obtain ⟨answer, replies, -⟩ := station.obey_replies secret sms.number asked
      exact .inr ⟨fun logs shows => asked shows.asked, answer, replies⟩
  · next refused =>
    exact .inr ⟨fun logs shows => refused shows.admitted, none, station.replies_nil _⟩

/-- A station that shows its log replies with the texts for it. -/
lemma ShowsLog.replies {station : Station} {sms : Sms} {logs : String}
    (shows : station.ShowsLog sms logs) (secret : String) :
    Replies sms.number station ((logTexts (.ok logs)).map String.ofList)
      (station.receive secret sms) := by
  obtain ⟨found, shows', replies⟩ | ⟨other, -⟩ := station.receive_replies secret sms
  · cases shows.readable.symm.trans shows'.readable
    exact replies
  · exact absurd shows (other logs)

end Station

end HeatingHub
