import HeatingHub.Proofs.Station.Loading
import HeatingHub.Proofs.Station.Turn

/-!
# The file mirrors the settings

As long as no save has failed, the state file holds the settings in memory, and it did so whenever a
message was sent (`Mirrored`). A station that starts without a file or with a text for its file is
mirrored (`load_mirrored`), to rest and to keep the settings leaves it mirrored, and so does every
turn (`Mirrored.turn`).
-/

namespace HeatingHub

namespace Disk

/-- No save has failed so far. -/
def AllSaved (disk : Disk) : Prop :=
  ∀ number < disk.saves, disk.accepts number

/-- If no save has failed after one more, then none had before, and the last one did not. -/
lemma AllSaved.of_save {disk : Disk} {settings : Settings} (saved : (disk.save settings).AllSaved) :
    disk.AllSaved ∧ disk.accepts disk.saves :=
  ⟨fun number less => saved number (Nat.lt_succ_of_lt less), saved _ (Nat.lt_succ_self _)⟩

/-- A save does not put a directory in the place of the file. -/
lemma save_file_ne_blocked {disk : Disk} (settings : Settings) (free : disk.file ≠ .blocked) :
    (disk.save settings).file ≠ .blocked := by
  rw [save]
  dsimp only
  split
  · intro other
    cases other
  · exact free

/-- If no save has failed after one more, then the file holds what it saved. -/
lemma load_save {disk : Disk} {settings : Settings} (free : disk.file ≠ .blocked)
    (valid : settings.Valid) (saved : (disk.save settings).AllSaved) :
    (disk.save settings).file.load = .ok (some settings) := by
  apply load_save_of_ready valid
  rw [ready, saved.of_save.2, Bool.true_and]
  exact decide_eq_true free

end Disk

/-- A file holds the settings, and so does every station that loads it. -/
def StateFile.Mirrors (file : StateFile) (settings : Settings) : Prop :=
  file.load = .ok (some settings) ∧
    ∀ station : Station, station.disk.file = file → station.load.settings = settings

/-- What a file holds is what every station loads from it. -/
lemma StateFile.mirrors_iff {file : StateFile} {settings : Settings} :
    file.Mirrors settings ↔ file.load = .ok (some settings) := by
  refine ⟨And.left, fun h => ⟨h, fun station same => ?_⟩⟩
  rw [← same] at h
  exact Station.load_settings h

namespace Station

/-- As long as no save has failed, the file holds the settings, and held them at each dispatch. -/
structure Mirrored (station : Station) : Prop where
  valid : station.settings.Valid
  free : station.disk.file ≠ .blocked
  file : station.disk.AllSaved → station.disk.file.load = .ok (some station.settings)
  log : station.disk.AllSaved →
    ∀ dispatch ∈ station.post.log, dispatch.file.load = .ok (some dispatch.settings)

/-- A mirrored station stays so while it rests. -/
lemma Mirrored.rests {station next : Station} (mirrored : station.Mirrored)
    (rests : Rests station next) : next.Mirrored where
  valid := rests.settings.symm ▸ mirrored.valid
  free := rests.disk.symm ▸ mirrored.free
  file := by
    rw [rests.disk, rests.settings]
    exact mirrored.file
  log := by
    rw [rests.disk]
    intro saved dispatch mem
    obtain ⟨sent, log, shows⟩ := rests.log
    rw [log] at mem
    cases List.mem_append.1 mem with
    | inl mem => exact mirrored.log saved dispatch mem
    | inr mem =>
      -- What is sent now shows the file as it is, which holds the settings as they are.
      rw [(shows dispatch mem).1, (shows dispatch mem).2]
      exact mirrored.file saved

/-- A mirrored station stays so when it keeps its settings on the disk, as long as they are
valid. -/
lemma Mirrored.keeps {station next : Station} (mirrored : station.Mirrored)
    (keeps : Keeps station next) (valid : next.settings.Valid) : next.Mirrored := by
  obtain ⟨post, ⟨same, disk⟩ | disk⟩ := keeps
  · refine ⟨valid, disk.symm ▸ mirrored.free, ?_, ?_⟩
    · rw [disk, same]
      exact mirrored.file
    · rw [disk, post]
      exact mirrored.log
  · refine ⟨valid, ?_, ?_, ?_⟩
    · rw [disk]
      exact Disk.save_file_ne_blocked _ mirrored.free
    · rw [disk]
      exact Disk.load_save mirrored.free valid
    · rw [disk, post]
      exact fun saved => mirrored.log saved.of_save.1

/-- A turn leaves a station mirrored. -/
theorem Mirrored.turn {secret : String} {heard : Option Sms} {station next : Station}
    (mirrored : station.Mirrored) (turn : Turn secret station heard next) : next.Mirrored := by
  have valid := turn.valid mirrored.valid
  cases turn with
  | rests rests => exact mirrored.rests rests
  | fallsBack rests => exact (mirrored.rests rests).keeps (setAll_revises _ _).keeps valid
  | ignores => exact mirrored
  | obeys _ rests =>
    refine Mirrored.rests ?_ rests
    exact mirrored.keeps (station.enact_keeps _ _ _) (enact_valid mirrored.valid _ _ _)

/-- A station that starts without a file, or with any text for its file, is mirrored. -/
lemma load_mirrored {station : Station} (unsent : station.post.log = [])
    (start : station.disk.file = .missing ∨ ∃ content, station.disk.file = .text content) :
    station.load.Mirrored := by
  have log : ∀ dispatch ∈ station.load.post.log,
      dispatch.file.load = .ok (some dispatch.settings) := by
    rw [load_post, unsent]
    exact fun _ mem => absurd mem List.not_mem_nil
  -- A missing file is written with the first settings, and one that is there is left alone.
  rcases start with missing | ⟨content, text⟩
  · have free : station.disk.file ≠ .blocked := by
      rw [missing]
      decide
    have settings : station.load.settings = (station.adopt {}).settings := by
      rw [load, missing]
      rfl
    have saved : station.load.disk = station.disk.save (station.adopt {}).settings := by
      rw [load, missing]
      rfl
    refine ⟨station.load_valid, ?_, ?_, fun _ => log⟩
    · rw [saved]
      exact Disk.save_file_ne_blocked _ free
    · rw [saved, ← settings]
      exact Disk.load_save free station.load_valid
  · have held : station.disk.file.load = .ok (some (Settings.parse content)) := by
      rw [text]
      rfl
    have same : station.load.disk = station.disk := by
      rw [load, held]
      rfl
    refine ⟨station.load_valid, ?_, ?_, fun _ => log⟩
    · rw [same, text]
      intro other
      cases other
    · rw [same, load_settings held]
      exact fun _ => held

end Station

end HeatingHub
