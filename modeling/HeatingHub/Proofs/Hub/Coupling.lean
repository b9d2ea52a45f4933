import HeatingHub.Proofs.Hub.Act
import HeatingHub.Proofs.Watch.Coupling

/-!
# Hubs with coupled stations

Two hubs are alike when they are the same but for their stations, and these are alike. An act keeps
them alike (`Alike.act`), as long as they show the same file when a message asks for it, and the
same happenings consist of the same acts for both (`Alike.acts`). A coupling is *lasting* when every
act keeps hubs alike up to it; then so do all acts, and whole runs consist of the same acts
(`Lasting.perform`, `Lasting.actsOf`).
-/

namespace HeatingHub.Hub

open Station (Coupling)

/-- Two hubs are the same, except that their stations are only alike. -/
inductive Alike (coupling : Coupling) (hub : Hub) : Hub → Prop
  | intro {station : Station} (alike : Station.Alike coupling hub.station station) :
      Alike coupling hub { hub with station }

variable {coupling : Coupling} {hub other : Hub}

/-- Hubs that are alike have stations that are alike. -/
lemma Alike.station (alike : Alike coupling hub other) :
    Station.Alike coupling hub.station other.station := by
  cases alike
  assumption

/-- Hubs stay alike when their stations are put into other surroundings that another coupling
allows. -/
lemma Alike.recouple (alike : Alike coupling hub other) {coupling' : Coupling}
    (disks : coupling'.disks hub.station.disk other.station.disk)
    (posts : coupling'.posts hub.station.post other.station.post) :
    Alike coupling' hub other := by
  cases alike with
  | intro alike => exact .intro { alike with disk := disks, post := posts }

/-- The same happening consists of the same acts. -/
lemma Alike.acts (alike : Alike coupling hub other) (happening : Happening) :
    other.acts happening = hub.acts happening := by
  cases alike
  rfl

/-- Hubs that are alike hear the same message in an act. -/
lemma Alike.heard (alike : Alike coupling hub other) (act : Act) :
    other.heard act = hub.heard act := by
  cases alike
  rfl

/-! ## Frames -/

/-- Hubs stay alike when they send the same reply. -/
lemma Alike.sendReply (alike : Alike coupling hub other) (connection : Nat) (mode : Mode) :
    Alike coupling (hub.sendReply connection mode) (other.sendReply connection mode) := by
  cases alike with
  | intro alike => exact .intro alike

/-- Both hubs find the same mode for a request, and stay alike when they record it. -/
lemma Alike.recordRequest (alike : Alike coupling hub other) (header : Header)
    (name address : Option String) (wall : Int) :
    (other.recordRequest header name address wall).1 =
        (hub.recordRequest header name address wall).1 ∧
      Alike coupling (hub.recordRequest header name address wall).2
        (other.recordRequest header name address wall).2 := by
  cases alike with
  | intro alike =>
    rw [Hub.recordRequest, Hub.recordRequest]
    dsimp only
    rw [alike.fleet]
    refine ⟨rfl, .intro ?_⟩
    dsimp only
    split
    · exact (alike.withFleet _).alert _
    · exact alike.withFleet _

/-- Hubs stay alike when they handle the same frame. -/
lemma Alike.handleFrame (alike : Alike coupling hub other) (now : Nat) (wall : Int)
    (frame : Inbound) :
    Alike coupling (hub.handleFrame now wall frame) (other.handleFrame now wall frame) := by
  rw [Hub.handleFrame, Hub.handleFrame]
  split
  · next header name _ =>
    have touched : Alike coupling { hub with board := hub.board.touch frame.connection now }
        { other with board := other.board.touch frame.connection now } := by
      cases alike with
      | intro alike => exact .intro alike
    obtain ⟨same, recorded⟩ := touched.recordRequest header name frame.peer wall
    dsimp only
    rw [same]
    exact recorded.sendReply _ _
  · exact alike

/-! ## Acts -/

/-- Hubs stay alike by a duty at which the watch comes to the same over both stations. -/
lemma Alike.of_agree {done done' : Watch × Station} (agree : Station.Agree coupling done done') :
    Alike coupling { hub with watch := done.1, station := done.2 }
      { hub with watch := done'.1, station := done'.2 } := by
  obtain ⟨same, alike⟩ := agree
  rw [same]
  exact .intro alike

/-- An act keeps hubs alike, if they show the same file when the act is to obey a message that asks
for it. -/
theorem Alike.act (alike : Alike coupling hub other) (act : Act)
    (files : ∀ sms, hub.heard act = some sms → Command.parse sms.text = .debug .fileState →
      other.station.fileStateText = hub.station.fileStateText) :
    Alike coupling (hub.act act) (other.act act) := by
  cases alike with
  | intro alike =>
    cases act with
    | handles frame now wall => exact (Alike.intro alike).handleFrame now wall frame
    | obeys =>
      rw [Hub.heard] at files
      rw [Hub.act, Hub.act, obeyNext, obeyNext, Inbox.pop]
      cases waiting : hub.inbox.waiting.head? with
      | none => exact .intro alike
      | some sms => exact .intro (alike.receive _ (files sms waiting))
    | checksLink now => exact .of_agree (Watch.linkDuty_agree alike now _)
    | checksModem now => exact .of_agree (Watch.modemDuty_agree alike now _)
    | checksDaemon now => exact .of_agree (Watch.daemonDuty_agree alike now _)
    | sweepsLost now wall => exact .of_agree (Watch.lostDuty_agree alike now wall _)
    | announces now => exact .of_agree (Watch.bootDuty_agree alike now _)
    | _ => exact .intro alike

/-! ## Runs -/

/-- Hubs that are alike up to the coupling stay so at every act. -/
def Lasting (coupling : Coupling) : Prop :=
  ∀ {hub other : Hub}, Alike coupling hub other → ∀ act,
    Alike coupling (hub.act act) (other.act act)

/-- Over a lasting coupling hubs stay alike when they perform the same acts. -/
lemma Lasting.perform (lasting : Lasting coupling) (alike : Alike coupling hub other)
    (acts : List Act) : Alike coupling (hub.perform acts) (other.perform acts) := by
  induction acts generalizing hub other with
  | nil => exact alike
  | cons act acts ih => exact ih (lasting alike act)

/-- Over a whole run, the same happenings consist of the same acts. -/
lemma Lasting.actsOf (lasting : Lasting coupling) (alike : Alike coupling hub other)
    (happenings : List Happening) : other.actsOf happenings = hub.actsOf happenings := by
  induction happenings generalizing hub other with
  | nil => rfl
  | cons happening happenings ih =>
    have after : Alike coupling (hub.after happening) (other.after happening) := by
      rw [after_eq_perform, after_eq_perform, alike.acts]
      exact lasting.perform alike _
    rw [Hub.actsOf, Hub.actsOf, alike.acts, ih after]

end HeatingHub.Hub
