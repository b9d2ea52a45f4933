import HeatingHub.Proofs.Station.Coupling
import HeatingHub.Proofs.Station.Loading

/-!
# Stations whose saves end differently

A save may succeed on one disk and fail on another. Stations on such disks are coupled: the disks
may be any, and the posts have sent equally many messages and accept the same ones (`apart`). What
is sent from some moment on is the same as well, but for the file that stands on the disk then
(`tracing`). The one answer that tells the file is the same but for its text
(`Alike.receive_veiled`). What a disk holds in the end is what was stored last
(`StateFile.storing`).
-/

namespace HeatingHub

/-- A dispatch without what an observer could have seen of the file. When the file was asked for,
that takes away the text of the answer, and with it whether such a text was accepted. -/
def Dispatch.veil (asked : Bool) (dispatch : Dispatch) : Dispatch :=
  if asked then
    { dispatch with sms := { dispatch.sms with text := "" }, accepted := true, file := .missing }
  else { dispatch with file := .missing }

/-- The file once these settings were stored in it, one after the other. -/
def StateFile.storing (file : StateFile) (stored : List Settings) : StateFile :=
  stored.getLast?.elim file fun settings => .text settings.render

/-- What is stored later is stored in what was stored before. -/
lemma StateFile.storing_append (file : StateFile) (first rest : List Settings) :
    file.storing (first ++ rest) = (file.storing first).storing rest := by
  rw [storing, storing, List.getLast?_append]
  cases rest.getLast? <;> rfl

namespace Station

/-- What a station stores when it loads. -/
lemma load_file (station : Station) :
    station.load.disk.file = station.disk.file.storing
      (if station.disk.file = .missing ∧ station.disk.accepts station.disk.saves then
        [station.load.settings] else []) := by
  rw [station.load_disk]
  by_cases missing : station.disk.file = .missing
  · have ready : station.disk.ready = station.disk.accepts station.disk.saves := by
      rw [Disk.ready, missing]
      exact Bool.and_true _
    rw [if_pos missing, Disk.save, ready]
    by_cases accepted : station.disk.accepts station.disk.saves
    · rw [if_pos accepted, if_pos ⟨missing, accepted⟩]
      rfl
    · rw [if_neg accepted, if_neg (mt And.right accepted)]
      rfl
  · rw [if_neg missing, if_neg (mt And.left missing)]
    rfl

/-! ## Coupled stations -/

/-- The disks may be any, and the posts agree in what they accept and have sent equally much. -/
def apart : Coupling where
  disks _ _ := True
  posts post other := other.accepts = post.accepts ∧ other.log.length = post.log.length
  save _ _ := id
  send sms occasion settings {_ _ _ _} _ := fun ⟨accepts, length⟩ => by
    refine ⟨accepts, ?_⟩
    rw [Post.send, Post.send, List.length_append, List.length_append, length]
    rfl

/-- The posts are apart, and what they have sent since they had these logs is the same, as far as
it shows under the veil. -/
structure Traces (asked : Bool) (before before' : List Dispatch) (post other : Post) : Prop where
  accepts : other.accepts = post.accepts
  length : other.log.length = post.log.length
  sent : ∃ sent sent' : List Dispatch, post.log = before ++ sent ∧ other.log = before' ++ sent' ∧
    sent'.map (Dispatch.veil asked) = sent.map (Dispatch.veil asked)

/-- Posts that send texts that are the same under the veil keep the same traces. -/
lemma Traces.send {asked : Bool} {before before' : List Dispatch} {post other : Post}
    (traces : Traces asked before before' post other) (number : String) {text text' : String}
    (same : asked = false → text' = text) (occasion : Occasion) (settings : Settings)
    (file file' : StateFile) :
    Traces asked before before' (post.send { number, text } occasion settings file)
      (other.send { number, text := text' } occasion settings file') where
  accepts := traces.accepts
  length := by
    rw [Post.send, Post.send, List.length_append, List.length_append, traces.length]
    rfl
  sent := by
    obtain ⟨sent, sent', log, log', equal⟩ := traces.sent
    rw [Post.send, Post.send, Post.ready, Post.ready, traces.accepts, traces.length, log, log']
    refine ⟨_, _, List.append_assoc _ _ _, List.append_assoc _ _ _, ?_⟩
    rw [List.map_append, List.map_append, equal]
    cases asked with
    | true => rfl
    | false =>
      rw [same rfl]
      rfl

/-- The disks may be any, and the posts are traced. -/
def tracing (asked : Bool) (before before' : List Dispatch) : Coupling where
  disks _ _ := True
  posts := Traces asked before before'
  save _ _ := id
  send sms occasion settings {disk disk' _ _} _ := fun traces =>
    traces.send sms.number (fun _ => rfl) occasion settings disk.file disk'.file

/-- Under the veil the answers to a message that asks for the file are the same, whatever the file
is. -/
lemma Alike.receive_veiled {before before' : List Dispatch} {station other : Station}
    (alike : Alike (tracing true before before') station other) (secret : String) {sms : Sms}
    (asks : Command.parse sms.text = .debug .fileState) :
    Alike (tracing true before before') (station.receive secret sms)
      (other.receive secret sms) := by
  rw [Station.receive, Station.receive, alike.gate, asks]
  split
  · refine { alike with post := ?_ }
    rw [Station.obey, Station.obey, Station.debug, Station.debug, Station.reply, Station.reply,
      Station.send, Station.send, alike.settings]
    exact alike.post.send sms.number (fun shown => absurd shown.symm Bool.false_ne_true) _ _ _ _
  · exact alike

end Station

end HeatingHub
