import HeatingHub.Station.Obey
import Mathlib.Tactic.Lemma

/-!
# Coupled stations

Two stations with the same fleet, gate and host may lie in other surroundings: on another disk, or
with another post. A *coupling* says how far disks and posts may be apart, in a way that saving the
same settings and sending the same messages keeps. Whatever a station does then keeps two stations
alike up to the coupling (`Alike.obey`, `Alike.receive`, …), since nothing that it decides depends
on its disk or its post. There is one exception: the answer to `DEBUG FILESTATE` is read off the
disk.
-/

namespace HeatingHub.Station

/-- How far two disks and two posts may be apart. -/
structure Coupling where
  disks : Disk → Disk → Prop
  posts : Post → Post → Prop
  save (settings : Settings) {disk disk' : Disk} :
    disks disk disk' → disks (disk.save settings) (disk'.save settings)
  send (sms : Sms) (occasion : Occasion) (settings : Settings) {disk disk' : Disk}
    {post post' : Post} :
    disks disk disk' → posts post post' →
      posts (post.send sms occasion settings disk.file)
        (post'.send sms occasion settings disk'.file)

/-- Two stations are the same, except that disks and posts are apart as the coupling allows. -/
structure Alike (coupling : Coupling) (station other : Station) : Prop where
  fleet : other.fleet = station.fleet
  gate : other.gate = station.gate
  host : other.host = station.host
  disk : coupling.disks station.disk other.disk
  post : coupling.posts station.post other.post

/-- The station without its surroundings but the host. -/
def memory (station : Station) : Station :=
  { station with disk := { file := .missing }, post := {} }

/-- Both stations come to the same result and stay alike. -/
def Agree {α : Type} (coupling : Coupling) (done other : α × Station) : Prop :=
  other.1 = done.1 ∧ Alike coupling done.2 other.2

namespace Alike

variable {coupling : Coupling} {station other : Station} (alike : Alike coupling station other)

include alike

/-- Stations that are alike have the same settings. -/
lemma settings : other.settings = station.settings := by
  rw [Station.settings, alike.fleet, alike.gate]
  rfl

/-- Stations that are alike have the same memory. -/
lemma memory : other.memory = station.memory := by
  rw [Station.memory, Station.memory, alike.fleet, alike.gate, alike.host]

/-! ## Changes -/

/-- Both stations use another fleet. -/
lemma withFleet (fleet : Fleet) :
    Alike coupling { station with fleet } { other with fleet } :=
  { alike with fleet := rfl }

/-- Both stations use another gate. -/
lemma withGate (gate : Gate) : Alike coupling { station with gate } { other with gate } :=
  { alike with gate := rfl }

/-- Both stations save. -/
lemma save : Alike coupling station.save other.save where
  fleet := alike.fleet
  gate := alike.gate
  host := alike.host
  disk := by
    rw [Station.save, Station.save, alike.settings]
    exact coupling.save _ alike.disk
  post := alike.post

/-- Both stations change their fleet in the same way. -/
lemma setFleet (change : Bool × Fleet) :
    Alike coupling (station.setFleet change) (other.setFleet change) := by
  rw [Station.setFleet, Station.setFleet]
  split
  · exact (alike.withFleet _).save
  · exact alike.withFleet _

/-- Both stations change their gate in the same way. -/
lemma setGate (changed : Bool) (gate : Gate) :
    Alike coupling (station.setGate changed gate) (other.setGate changed gate) := by
  rw [Station.setGate, Station.setGate]
  split
  · exact (alike.withGate _).save
  · exact alike.withGate _

/-- Both stations set all heaters to a mode. -/
lemma setAll (mode : Mode) : Alike coupling (station.setAll mode) (other.setAll mode) := by
  rw [Station.setAll, Station.setAll, alike.fleet]
  exact alike.setFleet _

/-- Both stations set one heater to a mode. -/
lemma setOverride (name : String) (mode : Mode) :
    Alike coupling (station.setOverride name mode) (other.setOverride name mode) := by
  rw [Station.setOverride, Station.setOverride, alike.fleet]
  exact alike.setFleet _

/-- Both stations set the lock. -/
lemma setLocked (locked : Bool) :
    Alike coupling (station.setLocked locked) (other.setLocked locked) := by
  rw [Station.setLocked, Station.setLocked, alike.gate]
  exact alike.withGate _

/-- Both stations add a phone, and report the same. -/
lemma addPhone (number : String) :
    Agree coupling (station.addPhone number) (other.addPhone number) := by
  rw [Station.addPhone, Station.addPhone, alike.gate]
  exact ⟨rfl, alike.setGate _ _⟩

/-- Both stations remove a phone, and report the same. -/
lemma removePhone (number : String) :
    Agree coupling (station.removePhone number) (other.removePhone number) := by
  rw [Station.removePhone, Station.removePhone, alike.gate]
  exact ⟨rfl, alike.setGate _ _⟩

/-- Both stations set the emergency phone, and report the same. -/
lemma setEmergency (number : String) :
    Agree coupling (station.setEmergency number) (other.setEmergency number) := by
  rw [Station.setEmergency, Station.setEmergency, alike.gate]
  exact ⟨rfl, alike.setGate _ _⟩

/-- Both stations forget the emergency phone, and report the same. -/
lemma clearEmergency : Agree coupling station.clearEmergency other.clearEmergency := by
  rw [Station.clearEmergency, Station.clearEmergency, alike.gate]
  exact ⟨rfl, alike.setGate _ _⟩

/-! ## Loading -/

/-- Both stations adopt the same settings. -/
lemma adopt (settings : Settings) :
    Alike coupling (station.adopt settings) (other.adopt settings) :=
  { alike with fleet := rfl, gate := rfl }

/-- Both stations load their settings, if they have the same file. -/
lemma load (same : other.disk.file = station.disk.file) :
    Alike coupling station.load other.load := by
  rw [Station.load, Station.load, same]
  split
  · exact alike.adopt _
  · exact (alike.adopt _).save
  · exact alike.adopt _

/-! ## Messages -/

/-- Both stations are told the same when they ask for the vitals. -/
lemma ask {α : Type} (question : Vitals → α) :
    Agree coupling (station.ask question) (other.ask question) := by
  rw [Station.ask, Station.ask, alike.host]
  exact ⟨rfl, { alike with host := rfl }⟩

/-- Both stations send the same message. -/
lemma send (occasion : Occasion) (sms : Sms) :
    Alike coupling (station.send occasion sms) (other.send occasion sms) where
  fleet := alike.fleet
  gate := alike.gate
  host := alike.host
  disk := alike.disk
  post := by
    rw [Station.send, Station.send, alike.settings]
    exact coupling.send sms occasion _ alike.disk alike.post

/-- Both stations send the same reply. -/
lemma reply (number text : String) :
    Alike coupling (station.reply number text) (other.reply number text) :=
  alike.send _ _

/-- Both stations send the same alert. -/
lemma alert (text : String) : Alike coupling (station.alert text) (other.alert text) := by
  rw [Station.alert, Station.alert, alike.gate]
  split
  · exact alike.send _ _
  · exact alike

/-- Both stations send the same replies. -/
lemma replyAll (number : String) (texts : List (List Char)) :
    Alike coupling (station.replyAll number texts) (other.replyAll number texts) := by
  rw [Station.replyAll, Station.replyAll]
  induction texts generalizing station other with
  | nil => exact alike
  | cons text texts ih => exact ih (alike.reply number _)

end Alike

/-- Both stations answer the same once they have come to the same result. -/
lemma Agree.reply {coupling : Coupling} {α : Type} {done other : α × Station}
    (agree : Agree coupling done other) (number : String) (text : α → String) :
    Alike coupling (done.2.reply number (text done.1)) (other.2.reply number (text other.1)) := by
  rw [agree.1]
  exact agree.2.reply _ _

namespace Alike

variable {coupling : Coupling} {station other : Station} (alike : Alike coupling station other)

include alike

/-! ## Obeying -/

/-- Both stations answer a command to edit the whitelist, with an edit on which they agree. -/
lemma editWhitelist (secret number pin : String) (change : Station → String × Station)
    (agree : Agree coupling (change station) (change other)) :
    Alike coupling (station.editWhitelist secret number pin change)
      (other.editWhitelist secret number pin change) := by
  rw [Station.editWhitelist, Station.editWhitelist, alike.gate]
  split
  · exact alike.reply _ _
  · split
    · exact alike.reply _ _
    · exact agree.reply number id

/-- Both stations show a topic, the state file if both have the same text for it. -/
lemma debug (number : String) {topic : Topic}
    (files : topic = .fileState → other.fileStateText = station.fileStateText) :
    Alike coupling (station.debug number topic) (other.debug number topic) := by
  cases topic with
  | state =>
    rw [Station.debug, Station.debug, Station.stateText, Station.stateText, alike.fleet]
    exact alike.reply _ _
  | fileState =>
    rw [Station.debug, Station.debug, files rfl]
    exact alike.reply _ _
  | uptime => exact (alike.ask (·.uptime)).reply number (·.toOption.getD "unknown")
  | wifi => exact (alike.ask (·.wifi)).reply number wifiText
  | log =>
    obtain ⟨same, asked⟩ := alike.ask (·.logs)
    rw [Station.debug, Station.debug]
    dsimp only
    rw [same]
    exact asked.replyAll _ _
  | reboot =>
    obtain ⟨same, asked⟩ := alike.ask (·.reboot)
    rw [Station.debug, Station.debug]
    dsimp only
    rw [same]
    split
    · exact asked
    · exact asked.reply _ _

/-- Alike stations obey a command alike, if they show the same file when they are asked for it. -/
theorem obey (secret number : String) {command : Command}
    (files : command = .debug .fileState → other.fileStateText = station.fileStateText) :
    Alike coupling (station.obey secret number command) (other.obey secret number command) := by
  cases command with
  | all word => exact (alike.setAll _).reply _ _
  | heater name word => exact (alike.setOverride _ _).reply _ _
  | getDefault =>
    rw [Station.obey, Station.obey, alike.fleet]
    exact alike.reply _ _
  | getHeater name =>
    rw [Station.obey, Station.obey, alike.fleet]
    exact alike.reply _ _
  | getIp => exact (alike.ask (·.publicIp)).reply number addressText
  | lock =>
    rw [Station.obey, Station.obey, alike.gate]
    split
    · exact (alike.setLocked _).reply _ _
    · exact alike.reply _ _
  | unlock pin =>
    rw [Station.obey, Station.obey]
    split
    · exact (alike.setLocked _).reply _ _
    · exact alike.reply _ _
  | addPhone pin phone =>
    obtain ⟨same, changed⟩ := alike.addPhone phone
    exact alike.editWhitelist secret number pin
      (fun station => (addedText phone (station.addPhone phone).1, (station.addPhone phone).2))
      ⟨congrArg (addedText phone) same, changed⟩
  | removePhone pin phone =>
    obtain ⟨same, changed⟩ := alike.removePhone phone
    exact alike.editWhitelist secret number pin
      (fun station =>
        (removedText phone (station.removePhone phone).1, (station.removePhone phone).2))
      ⟨congrArg (removedText phone) same, changed⟩
  | setEmergencyPhone pin phone =>
    rw [Station.obey, Station.obey]
    split
    · exact alike.reply _ _
    · exact (alike.setEmergency phone).reply number fun valid =>
        if valid then phone ++ " set as emergency phone number." else invalidNumberText phone
  | removeEmergencyPhone =>
    exact alike.clearEmergency.reply number fun old =>
      if old.isSome then "Emergency phone removed" else "No emergency phone configured"
  | debug topic => exact alike.debug number fun same => files (congrArg Command.debug same)
  | _ => exact alike.reply _ _

/-- Alike stations receive a message alike, if they show the same file when it asks for it. -/
theorem receive (secret : String) {sms : Sms}
    (files : Command.parse sms.text = .debug .fileState →
      other.fileStateText = station.fileStateText) :
    Alike coupling (station.receive secret sms) (other.receive secret sms) := by
  rw [Station.receive, Station.receive, alike.gate]
  split
  · exact alike.obey _ _ files
  · exact alike

end Alike

end HeatingHub.Station
