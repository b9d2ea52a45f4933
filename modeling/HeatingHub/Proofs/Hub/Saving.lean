import HeatingHub.Proofs.Hub.Coupling
import HeatingHub.Proofs.Station.Saving

/-!
# Failed saves stay on the disk

Let two hubs start from the same file in the same surroundings, except that their disks go along
with other saves. At every act they have the same in memory, on their connections and among their
replies, and they send the same messages, up to the text that tells the file to who asks for it. On
the disk, each hub has the settings that it had when a save last succeeded, exactly as they are
printed, or else the file that it started with (`saves_stay_on_disk`).
-/

namespace HeatingHub.Hub

open Station (apart tracing)

/-- The hub without its disk and its post. -/
def memory (hub : Hub) : Hub :=
  { hub with station := hub.station.memory }

/-- The act is to obey a message that asks for the state file. -/
def asksFile (hub : Hub) (act : Act) : Bool :=
  (hub.heard act).any fun sms => Command.parse sms.text = .debug .fileState

/-- What an act sends, without what could have been seen of the file. -/
def shows (hub : Hub) (act : Act) : List Dispatch :=
  (hub.sends act).map (Dispatch.veil (hub.asksFile act))

/-- The act saves the settings, and the disk goes along. -/
def stores (hub : Hub) (act : Act) : Bool :=
  hub.station.disk.ready && hub.station.disk.saves < (hub.act act).station.disk.saves

/-- The settings that an act stores, which are those behind it. -/
def storedBy (hub : Hub) (act : Act) : List Settings :=
  if hub.stores act then [(hub.act act).station.settings] else []

/-- The settings that acts store, one after the other. -/
def stored (hub : Hub) : List Act → List Settings
  | [] => []
  | act :: rest => hub.storedBy act ++ (hub.act act).stored rest

/-! ## The file -/

/-- The file changes only when an act stores the settings. -/
lemma act_file (hub : Hub) (act : Act) :
    (hub.act act).station.disk.file = hub.station.disk.file.storing (hub.storedBy act) := by
  rw [storedBy, stores]
  obtain same | saved := (hub.act_turn act).disk
  · rw [same, decide_eq_false (Nat.lt_irrefl _), Bool.and_false]
    rfl
  · rw [saved, Disk.save, decide_eq_true (Nat.lt_succ_self _), Bool.and_true]
    cases hub.station.disk.ready <;> rfl

/-- The file after some acts is what was stored last in them. -/
lemma perform_file (hub : Hub) (acts : List Act) :
    (hub.perform acts).station.disk.file = hub.station.disk.file.storing (hub.stored acts) := by
  induction acts generalizing hub with
  | nil => rfl
  | cons act acts ih =>
    rw [perform, List.foldl_cons, ← perform, ih, act_file, stored, StateFile.storing_append]

/-! ## Two runs -/

section

variable {hub other : Hub}

/-- An act asks for the state file exactly if it hears the command that does. -/
lemma asksFile_iff {act : Act} :
    hub.asksFile act ↔
      ∃ sms, hub.heard act = some sms ∧ Command.parse sms.text = .debug .fileState := by
  rw [asksFile, Option.any_eq_true]
  simp only [decide_eq_true_eq]

/-- Under the veil a message that asks for the file is obeyed alike. -/
lemma Alike.act_veiled {before before' : List Dispatch}
    (alike : Alike (tracing true before before') hub other) {act : Act} (asks : hub.asksFile act) :
    Alike (tracing true before before') (hub.act act) (other.act act) := by
  obtain ⟨sms, heard, asked⟩ := asksFile_iff.1 asks
  cases act with
  | obeys =>
    cases alike with
    | intro alike =>
      rw [Hub.heard] at heard
      rw [Hub.act, Hub.act, obeyNext, obeyNext, Inbox.pop, heard]
      exact .intro (alike.receive_veiled _ asked)
  | _ => cases heard

/-- An act shows the same on whatever disk, and leaves the same in memory. -/
lemma Alike.act_shows (alike : Alike apart hub other) (act : Act) :
    Alike apart (hub.act act) (other.act act) ∧ other.shows act = hub.shows act := by
  -- From before the act on, what is sent is traced under the veil that the act needs.
  have traced : Alike (tracing (hub.asksFile act) hub.station.post.log other.station.post.log)
      hub other :=
    alike.recouple trivial ⟨alike.station.post.1, alike.station.post.2, [], [],
      (List.append_nil _).symm, (List.append_nil _).symm, rfl⟩
  have acted : Alike (tracing (hub.asksFile act) hub.station.post.log other.station.post.log)
      (hub.act act) (other.act act) := by
    cases asks : hub.asksFile act with
    | true =>
      rw [asks] at traced
      exact traced.act_veiled asks
    | false =>
      rw [asks] at traced
      rw [← Bool.not_eq_true, asksFile_iff] at asks
      exact traced.act act fun sms heard asked => absurd ⟨sms, heard, asked⟩ asks
  obtain ⟨accepts, length, sent, sent', log, log', same⟩ := acted.station.post
  refine ⟨acted.recouple trivial ⟨accepts, length⟩, ?_⟩
  rw [shows, shows, sends_of_log log, sends_of_log log', ← same, asksFile, alike.heard,
    ← asksFile]

/-- No act takes hubs apart that differ in their disks and in what they show of the file only. -/
lemma apart_lasting : Lasting apart :=
  fun alike act => (alike.act_shows act).1

/-- Such hubs stay so when they perform the same acts. -/
lemma Alike.perform (alike : Alike apart hub other) (acts : List Act) :
    Alike apart (hub.perform acts) (other.perform acts) :=
  apart_lasting.perform alike acts

/-- The same happenings consist of the same acts for such hubs. -/
lemma Alike.actsOf (alike : Alike apart hub other) (happenings : List Happening) :
    other.actsOf happenings = hub.actsOf happenings :=
  apart_lasting.actsOf alike happenings

/-- Hubs that are alike have the same memory. -/
lemma Alike.memory {coupling : Station.Coupling} (alike : Alike coupling hub other) :
    other.memory = hub.memory := by
  cases alike with
  | intro alike => exact congrArg (fun station => { hub with station }) alike.memory

end

/-- Let two hubs start from the same file, in the same surroundings except that the disk of each
goes along with saves of its own. Then the same happenings consist of the same acts, and after any
acts the hubs have the same in memory, and the next act shows the same, where the answer to a
message that asks for the file may have another text. The file of a hub holds the settings that were
stored last, at the start or by an act, or else it is the file that the hub started from; and what
is sent shows it as it was before the act or as it is after it. -/
theorem saves_stay_on_disk (id : DeviceId) (pin : String) (file : StateFile)
    (saves saves' : Nat → Bool) (sends : Nat → Sms → Bool) (host : Host) (counter : UInt64)
    (now : Nat) :
    let hub := start id pin
      { disk := { file, accepts := saves }, post := { accepts := sends }, host } counter now
    let other := start id pin
      { disk := { file, accepts := saves' }, post := { accepts := sends }, host } counter now
    (∀ happenings, other.actsOf happenings = hub.actsOf happenings) ∧
    (∀ acts, (other.perform acts).memory = (hub.perform acts).memory ∧
      ∀ act, (other.perform acts).shows act = (hub.perform acts).shows act) ∧
    ∀ acts, (hub.perform acts).station.disk.file =
        file.storing ((if file = .missing ∧ saves 0 then [hub.station.settings] else []) ++
          hub.stored acts) ∧
      ∀ act, ∀ dispatch ∈ (hub.perform acts).sends act,
        dispatch.file = (hub.perform acts).station.disk.file ∨
          dispatch.file = ((hub.perform acts).act act).station.disk.file := by
  intro hub other
  have alike : Alike apart hub other :=
    .intro (Station.Alike.load ⟨rfl, rfl, rfl, trivial, rfl, rfl⟩ rfl)
  refine ⟨alike.actsOf, fun acts => ?_, fun acts => ⟨?_, fun act dispatch mem => ?_⟩⟩
  · have alike := alike.perform acts
    exact ⟨alike.memory, fun act => (alike.act_shows act).2⟩
  · rw [perform_file, StateFile.storing_append]
    exact congrArg (StateFile.storing · _) (Station.load_file _)
  · obtain ⟨sent, log, shows⟩ := ((hub.perform acts).act_turn act).log
    rw [Hub.sends, log, List.drop_left] at mem
    exact shows dispatch mem

/-- A command that one hub stores and another one cannot store is known to both, and answered. -/
theorem saves_stay_on_disk_of_full_disk :
    let sms : Sms := { number := "3310203040506", text := "heater boiler eco" }
    let hub := start (.ofNat 1) "1234"
      { disk := { file := .missing }, post := {}, host := .healthy } 0 0
    let other := start (.ofNat 1) "1234"
      { disk := { file := .missing, accepts := (· = 0) }, post := {}, host := .healthy } 0 0
    let acts : List Act := [.message sms, .obeys]
    (hub.perform acts).station.disk.file ≠ (other.perform acts).station.disk.file ∧
      (other.perform acts).memory = (hub.perform acts).memory ∧
      ∃ dispatch ∈ (hub.perform [.message sms]).sends .obeys,
        dispatch.file = (hub.perform [.message sms]).station.disk.file ∨
          dispatch.file = (hub.perform acts).station.disk.file := by
  intro sms hub other acts
  have answered : (hub.perform [.message sms]).sends .obeys ≠ [] := by decide +kernel
  have unlike : (hub.perform acts).station.disk.file ≠ (other.perform acts).station.disk.file := by
    decide +kernel
  have law := saves_stay_on_disk (.ofNat 1) "1234" .missing (fun _ => true) (· = 0)
    (fun _ _ => true) .healthy 0 0
  obtain ⟨-, same, file⟩ := law
  obtain ⟨dispatch, mem⟩ := List.exists_mem_of_ne_nil _ answered
  refine ⟨unlike, (same acts).1, dispatch, mem, ?_⟩
  have acted : hub.perform acts = (hub.perform [.message sms]).act .obeys := rfl
  rw [acted]
  unfold hub
  exact (file [.message sms]).2 .obeys dispatch mem

end HeatingHub.Hub
