import HeatingHub.Proofs.Hub.Coupling
import HeatingHub.Proofs.Station.Loading

/-!
# Failed messages are not noticed

Whether a message gets through is up to the post, and nobody tells the hub. Stations whose posts go
along with other messages are coupled by what they have *tried* to send, each message at the same
moment and in the same state (`tryingAlike`). So two such hubs are the same at every act in all but
the receipts of their messages (`refusals_invisible`).
-/

namespace HeatingHub

/-- A dispatch without what became of it. -/
def Dispatch.withoutReceipt (dispatch : Dispatch) : Dispatch :=
  { dispatch with accepted := true }

/-- A post without what it goes along with, and without what became of its messages. -/
def Post.withoutReceipts (post : Post) : Post :=
  { log := post.log.map Dispatch.withoutReceipt }

/-- A hub as it is for everybody who cannot see what becomes of its messages. -/
def Hub.withoutReceipts (hub : Hub) : Hub :=
  { hub with station.post := hub.station.post.withoutReceipts }

/-- Posts have tried the same messages when they do so once more, whatever becomes of the last. -/
lemma Post.withoutReceipts_send {post other : Post}
    (same : other.withoutReceipts = post.withoutReceipts) (sms : Sms) (occasion : Occasion)
    (settings : Settings) (file : StateFile) :
    (other.send sms occasion settings file).withoutReceipts =
      (post.send sms occasion settings file).withoutReceipts := by
  have tried : other.log.map Dispatch.withoutReceipt = post.log.map Dispatch.withoutReceipt :=
    congrArg Post.log same
  rw [withoutReceipts, withoutReceipts, send, send, List.map_append, List.map_append, tried]
  rfl

namespace Station

/-- The disks are the same, and the posts have tried the same messages. -/
def tryingAlike : Coupling where
  disks disk other := other = disk
  posts post other := other.withoutReceipts = post.withoutReceipts
  save settings _ _ same := congrArg (Disk.save · settings) same
  send sms occasion settings disk disk' post post' same tried := by
    rw [same]
    exact Post.withoutReceipts_send tried sms occasion settings disk.file

/-- Stations that differ in their posts only show the same text of the state file. -/
lemma Alike.fileStateText {station other : Station} (alike : Alike tryingAlike station other) :
    other.fileStateText = station.fileStateText := by
  have disk : other.disk = station.disk := alike.disk
  rw [Station.fileStateText, Station.fileStateText, disk]

end Station

namespace Hub

open Station (tryingAlike)

variable {hub other : Hub}

/-- The disks are the same, so that even the answer that tells the file is. -/
lemma tryingAlike_lasting : Lasting tryingAlike :=
  fun alike act => alike.act act fun _ _ _ => alike.station.fileStateText

/-- Hubs that differ in their posts only are the same without their receipts. -/
lemma Alike.withoutReceipts (alike : Alike tryingAlike hub other) :
    other.withoutReceipts = hub.withoutReceipts := by
  cases alike with
  | @intro station alike =>
    obtain ⟨fleet, gate, host, disk, post⟩ := alike
    rw [Hub.withoutReceipts, Hub.withoutReceipts]
    dsimp only
    rw [fleet, gate, host, disk, post]

/-- Let two hubs start in the same surroundings, except that the post of each goes along with
messages of its own choice. Then the same happenings consist of the same acts, and after any acts
the hubs are the same in all but what became of their messages: they have the same settings,
records, counters, lock and streaks, the same state file, connections and replies, and they have
tried to send the same messages to the same numbers, at the same moments. -/
theorem refusals_invisible (id : DeviceId) (pin : String) (surroundings : Station)
    (accepts : Nat → Sms → Bool) (counter : UInt64) (now : Nat) :
    let hub := start id pin surroundings counter now
    let other := start id pin { surroundings with post.accepts := accepts } counter now
    (∀ happenings, other.actsOf happenings = hub.actsOf happenings ∧
      (other.run happenings).withoutReceipts = (hub.run happenings).withoutReceipts) ∧
    ∀ acts, (other.perform acts).withoutReceipts = (hub.perform acts).withoutReceipts := by
  intro hub other
  have alike : Alike tryingAlike hub other :=
    .intro (Station.Alike.load ⟨rfl, rfl, rfl, rfl, rfl⟩ rfl)
  have performed (acts : List Act) :
      (other.perform acts).withoutReceipts = (hub.perform acts).withoutReceipts :=
    (tryingAlike_lasting.perform alike acts).withoutReceipts
  refine ⟨fun happenings => ?_, performed⟩
  have acts := tryingAlike_lasting.actsOf alike happenings
  refine ⟨acts, ?_⟩
  rw [run_eq_perform, run_eq_perform, acts]
  exact performed _

/-- A member is answered and the start is announced, or none of this gets through. -/
theorem refusals_invisible_of_outage :
    let surroundings := Station.fresh (.text "emergency_phone=3310203040506\n")
    let outage := { surroundings with post.accepts := fun _ _ => false }
    let happenings : List Happening :=
      [.message { number := "3310203040506", text := "heater boiler eco" }, .cycle 0 0,
        .cycle Watch.bootDelay 0]
    let hub := (start (.ofNat 1) "1234" surroundings 0 0).run happenings
    let other := (start (.ofNat 1) "1234" outage 0 0).run happenings
    hub.station.post.sent.length = 2 ∧ other.station.post.sent = [] ∧
      other.withoutReceipts = hub.withoutReceipts := by
  intro surroundings outage happenings hub other
  refine ⟨by decide +kernel, by decide +kernel, ?_⟩
  have runs := (refusals_invisible (.ofNat 1) "1234" surroundings (fun _ _ => false) 0 0).1
  exact (runs happenings).2

end Hub

end HeatingHub
