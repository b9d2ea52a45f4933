import HeatingHub.Proofs.Fleet
import HeatingHub.Sms.Spool
import Mathlib.Data.List.Nodup
import Std.Data.String.ToNat

/-!
# All or nothing in the spool

A send is refused at some step, or the whole file is there (`send_sends`). A file is put under a
name in which the number of the send stands; numbers are never given twice, whatever becomes of the
sends (`names_nodup`), so that no message ever takes the place of another one that still waits
(`Fresh.after`). A send that fails leaves the directory as it was, and one that succeeds adds one
new file (`left_whole_or_not`).
-/

namespace HeatingHub

/-- What happens to a spool. -/
inductive SpoolDeed
  /-- The modem's node is there from now on, or is not. -/
  | modem (present : Bool)
  /-- The message daemon takes a file away. -/
  | takes (name : String)
  | sends (sms : Sms) (refusal : SpoolStep → Option IoFault)

/-- The steps of a send in their order: a file is written in five pieces. -/
def SpoolStep.all : List SpoolStep :=
  .create :: (List.range 5).map .write ++ [.flush, .move]

namespace Spool

/-- The spool after something has happened to it. -/
def after (spool : Spool) : SpoolDeed → Spool
  | .modem present => { spool with hasModem := present }
  | .takes name => { spool with entries := spool.entries.map (·.erase name) }
  | .sends sms refusal => (spool.send sms refusal).2

/-- The spool after one thing after the other has happened to it. -/
def perform (spool : Spool) (deeds : List SpoolDeed) : Spool :=
  deeds.foldl after spool

/-- The name of the next message's file. -/
def nextName (spool : Spool) : String :=
  fileName spool.process spool.next

/-- The name that a deed uses up, if it is a send while there is a modem. -/
def named (spool : Spool) : SpoolDeed → List String
  | .sends _ _ => if spool.hasModem then [spool.nextName] else []
  | _ => []

/-- The names that are used up by deeds one after the other. -/
def names (spool : Spool) : List SpoolDeed → List String
  | [] => []
  | deed :: rest => spool.named deed ++ (spool.after deed).names rest

/-- No message that is still to come has the name of something in the directory, unless this is a
directory itself, over which nothing is moved. -/
def Fresh (spool : Spool) : Prop :=
  ∀ entries, spool.entries = some entries → ∀ number, spool.next ≤ number → ∀ entry,
    entries[fileName spool.process number]? = some entry → entry = .directory

/-- What a send says, and what it makes of the spool. -/
inductive Sends (spool : Spool) (sms : Sms) (refusal : SpoolStep → Option IoFault) :
    Except Fault Unit × Spool → Prop
  | absent (absent : spool.hasModem = false) :
      Sends spool sms refusal (.error (.modemMissing spool.modemNode), spool)
  | refused (present : spool.hasModem) {step : SpoolStep} (mem : step ∈ SpoolStep.all)
      {cause : IoFault} (refused : refusal step = some cause) :
      Sends spool sms refusal (.error (.io cause), { spool with next := spool.next + 1 })
  | missing (present : spool.hasModem) (missing : spool.entries = none) :
      Sends spool sms refusal (.error (.io .notFound), { spool with next := spool.next + 1 })
  | blocked (present : spool.hasModem)
      {entries : Std.ExtTreeMap String SpoolEntry} (there : spool.entries = some entries)
      (blocked : entries[spool.nextName]? = some SpoolEntry.directory) :
      Sends spool sms refusal (.error (.io .isDirectory), { spool with next := spool.next + 1 })
  | left (present : spool.hasModem) (permitted : ∀ step ∈ SpoolStep.all, refusal step = none)
      {entries : Std.ExtTreeMap String SpoolEntry} (there : spool.entries = some entries)
      (free : entries[spool.nextName]? ≠ some SpoolEntry.directory) :
      Sends spool sms refusal
        (.ok (),
          { spool with
            next := spool.next + 1
            entries := some (entries.insert spool.nextName (.file (content sms))) })

/-! ## Drafts -/

/-- All pieces are written, or the first one that is refused ends the writing. -/
lemma writePieces_cases (refusal : SpoolStep → Option IoFault) (written : String) (number : Nat)
    (pieces : List String) :
    (writePieces refusal written number pieces = .ok (pieces.foldl (· ++ ·) written) ∧
      ∀ index < pieces.length, refusal (.write (number + index)) = none) ∨
    ∃ index < pieces.length, ∃ cause, refusal (.write (number + index)) = some cause ∧
      writePieces refusal written number pieces = .error cause := by
  induction pieces generalizing written number with
  | nil => exact .inl ⟨rfl, nofun⟩
  | cons piece rest ih =>
    cases first : refusal (.write number) with
    | some cause =>
      refine .inr ⟨0, Nat.succ_pos _, cause, first, ?_⟩
      rw [writePieces, first]
      rfl
    | none =>
      have more : writePieces refusal written number (piece :: rest) =
          writePieces refusal (written ++ piece) (number + 1) rest := by
        rw [writePieces, first]
        rfl
      rw [more]
      obtain ⟨whole, permitted⟩ | ⟨index, inside, cause, refused, failed⟩ :=
        ih (written ++ piece) (number + 1)
      · refine .inl ⟨whole, fun index inside => ?_⟩
        cases index with
        | zero => exact first
        | succ index =>
          rw [← Nat.succ_add_eq_add_succ]
          exact permitted index (Nat.lt_of_succ_lt_succ inside)
      · refine .inr ⟨index + 1, Nat.succ_lt_succ inside, cause, ?_, failed⟩
        rw [← Nat.succ_add_eq_add_succ]
        exact refused

/-- The pieces of a message make up its content. -/
lemma foldl_pieces (sms : Sms) : (pieces sms).foldl (· ++ ·) "" = content sms := by
  rw [pieces, content]
  simp only [List.foldl_cons, List.foldl_nil, String.empty_append]

/-- A draft is the whole file, unless one of its steps is refused. -/
lemma draft_cases (sms : Sms) (refusal : SpoolStep → Option IoFault) :
    (draft sms refusal = .ok (content sms) ∧
      ∀ step ∈ SpoolStep.all, step ≠ .move → refusal step = none) ∨
    ∃ step ∈ SpoolStep.all, ∃ cause, refusal step = some cause ∧
      draft sms refusal = .error cause := by
  cases create : refusal .create with
  | some cause =>
    refine .inr ⟨.create, List.mem_cons_self, cause, create, ?_⟩
    rw [draft, create]
    rfl
  | none =>
    have start : draft sms refusal =
        (writePieces refusal "" 0 (pieces sms)).bind fun written =>
          (permit (refusal .flush)).bind fun _ => .ok written := by
      rw [draft, create]
      rfl
    rw [start]
    obtain ⟨whole, permitted⟩ | ⟨index, inside, cause, refused, failed⟩ :=
      writePieces_cases refusal "" 0 (pieces sms)
    · rw [whole, foldl_pieces]
      cases flush : refusal .flush with
      | some cause => exact .inr ⟨.flush, by decide, cause, flush, rfl⟩
      | none =>
        refine .inl ⟨rfl, fun step mem other => ?_⟩
        -- All steps but the move are the creation, a write, or the flush.
        rw [SpoolStep.all, List.cons_append, List.mem_cons, List.mem_append, List.mem_map] at mem
        obtain rfl | ⟨index, inside, rfl⟩ | mem := mem
        · exact create
        · rw [← Nat.zero_add index]
          exact permitted index (List.mem_range.1 inside)
        · simp only [List.mem_cons, List.not_mem_nil, or_false] at mem
          obtain rfl | rfl := mem
          · exact flush
          · exact absurd rfl other
    · rw [Nat.zero_add] at refused
      refine .inr ⟨.write index, ?_, cause, refused, by rw [failed]; rfl⟩
      exact List.mem_cons_of_mem _ (List.mem_append_left _
        (List.mem_map_of_mem (List.mem_range.2 inside)))

/-! ## Sends -/

/-- A send says and does one of five things. -/
theorem send_sends (spool : Spool) (sms : Sms) (refusal : SpoolStep → Option IoFault) :
    spool.Sends sms refusal (spool.send sms refusal) := by
  obtain ⟨modemNode, process, hasModem, entries, next⟩ := spool
  rw [send]
  split
  · next absent => exact .absent (by simpa using absent)
  · next there =>
    have present : hasModem := by simpa using there
    dsimp only
    obtain ⟨whole, permitted⟩ | ⟨step, mem, cause, refused, failed⟩ := draft_cases sms refusal
    · rw [whole]
      dsimp only
      cases move : refusal .move with
      | some cause => exact .refused present (by decide) move
      | none =>
        have allowed : ∀ step ∈ SpoolStep.all, refusal step = none := by
          intro step mem
          by_cases last : step = .move
          · rw [last, move]
          · exact permitted step mem last
        cases entries with
        | none => exact .missing present rfl
        | some entries =>
          dsimp only [place]
          split
          · next blocked => exact .blocked present rfl blocked
          · next free => exact .left present allowed rfl free
    · rw [failed]
      exact .refused present mem refused

section

variable {spool : Spool} {sms : Sms} {refusal : SpoolStep → Option IoFault}

/-- Without a modem nothing is sent and the spool stays as it is. -/
lemma send_of_absent (absent : spool.hasModem = false) :
    spool.send sms refusal = (.error (.modemMissing spool.modemNode), spool) := by
  rw [send, absent]
  rfl

/-- A send that fails leaves the directory as it was. -/
lemma send_error {fault : Fault} (failed : (spool.send sms refusal).1 = .error fault) :
    (spool.send sms refusal).2.entries = spool.entries := by
  have sends := spool.send_sends sms refusal
  generalize spool.send sms refusal = answer at failed sends
  cases sends with
  | left => cases failed
  | _ => rfl

/-- A send that succeeds leaves the whole file in the directory. -/
lemma send_ok (sent : (spool.send sms refusal).1 = .ok ()) :
    ∃ entries, spool.entries = some entries ∧
      entries[spool.nextName]? ≠ some SpoolEntry.directory ∧
      (spool.send sms refusal).2.entries =
        some (entries.insert spool.nextName (.file (content sms))) := by
  have sends := spool.send_sends sms refusal
  generalize spool.send sms refusal = answer at sent sends
  cases sends with
  | left _ _ there free => exact ⟨_, there, free, rfl⟩
  | _ => cases sent

/-- A send succeeds exactly if nothing stands against it. -/
lemma send_ok_iff :
    (spool.send sms refusal).1 = .ok () ↔
      spool.hasModem ∧ (∀ step ∈ SpoolStep.all, refusal step = none) ∧
        ∃ entries, spool.entries = some entries ∧
          entries[spool.nextName]? ≠ some SpoolEntry.directory := by
  have sends := spool.send_sends sms refusal
  generalize spool.send sms refusal = answer at sends
  constructor
  · intro sent
    cases sends with
    | left present permitted there free => exact ⟨present, permitted, _, there, free⟩
    | _ => cases sent
  · rintro ⟨present, permitted, entries, there, free⟩
    cases sends with
    | absent absent =>
      rw [absent] at present
      cases present
    | refused _ mem refused =>
      rw [permitted _ mem] at refused
      cases refused
    | missing _ missing =>
      rw [missing] at there
      cases there
    | blocked _ there' blocked =>
      rw [there] at there'
      cases there'
      exact absurd blocked free
    | left => rfl

end

/-! ## Names -/

/-- The files of different messages have different names. -/
lemma fileName_injective (process : Nat) : Function.Injective (fileName process) := by
  intro first second same
  have numbers : (toString first).toList = (toString second).toList := by
    have texts := congrArg String.toList same
    simp only [fileName, String.toList_append] at texts
    exact List.append_cancel_left texts
  exact Nat.repr_injective (String.toList_inj.1 numbers)

/-- No deed changes the process that writes to a spool. -/
lemma after_process (spool : Spool) (deed : SpoolDeed) :
    (spool.after deed).process = spool.process := by
  cases deed with
  | sends sms refusal =>
    have sends := spool.send_sends sms refusal
    rw [after]
    generalize spool.send sms refusal = answer at sends
    cases sends <;> rfl
  | _ => rfl

/-- A deed uses up the next number, or none. -/
lemma after_next (spool : Spool) (deed : SpoolDeed) :
    (spool.after deed).next = spool.next + (spool.named deed).length ∧
      spool.named deed =
        (List.range' spool.next (spool.named deed).length).map (fileName spool.process) := by
  cases deed with
  | sends sms refusal =>
    have sends := spool.send_sends sms refusal
    rw [after, named]
    generalize spool.send sms refusal = answer at sends
    cases sends with
    | absent absent =>
      rw [absent]
      exact ⟨rfl, rfl⟩
    | refused present | missing present | blocked present | left present =>
      rw [if_pos present]
      exact ⟨rfl, rfl⟩
  | _ => exact ⟨rfl, rfl⟩

/-- The numbers that are used up are given one after the other. -/
lemma names_eq (spool : Spool) (deeds : List SpoolDeed) :
    spool.names deeds =
      (List.range' spool.next (spool.names deeds).length).map (fileName spool.process) := by
  induction deeds generalizing spool with
  | nil => rfl
  | cons deed rest ih =>
    obtain ⟨next, named⟩ := spool.after_next deed
    have others := ih (spool.after deed)
    rw [after_process, next] at others
    rw [names, List.length_append, ← List.range'_append_1, List.map_append, ← named, ← others]

/-- No name is used up twice. -/
theorem names_nodup (spool : Spool) (deeds : List SpoolDeed) : (spool.names deeds).Nodup := by
  rw [names_eq]
  exact List.Nodup.map (fileName_injective spool.process) List.nodup_range'

/-- The names that deeds use up are those of the first ones and those of the rest. -/
lemma names_append (spool : Spool) (first rest : List SpoolDeed) :
    spool.names (first ++ rest) = spool.names first ++ (spool.perform first).names rest := by
  induction first generalizing spool with
  | nil => rfl
  | cons deed first ih => rw [List.cons_append, names, ih, names, List.append_assoc]; rfl

/-! ## The directory -/

/-- No message takes the place of another one, and what the daemon takes away makes room only. -/
lemma Fresh.after {spool : Spool} (fresh : spool.Fresh) (deed : SpoolDeed) :
    (spool.after deed).Fresh := by
  cases deed with
  | modem present => exact fresh
  | takes name =>
    intro entries there number coming entry found
    obtain ⟨old, before, rfl⟩ := Option.map_eq_some_iff.1 there
    rw [Std.ExtTreeMap.getElem?_erase] at found
    split at found
    · cases found
    · exact fresh old before number coming entry found
  | sends sms refusal =>
    have sends := spool.send_sends sms refusal
    rw [Spool.after]
    generalize spool.send sms refusal = answer at sends
    cases sends with
    | absent => exact fresh
    | refused | missing | blocked =>
      intro entries there number coming
      exact fresh entries there number (Nat.le_of_succ_le coming)
    | left _ _ there =>
      intro entries there' number coming entry found
      cases there'
      -- The new file has a number before all that are coming.
      have other : fileName spool.process number ≠ spool.nextName := fun same =>
        Nat.ne_of_gt coming (fileName_injective _ same)
      rw [getElem?_insert_eq, if_neg other] at found
      exact fresh _ there number (Nat.le_of_succ_le coming) entry found

/-- Deeds leave a fresh spool fresh. -/
lemma Fresh.perform {spool : Spool} (fresh : spool.Fresh) (deeds : List SpoolDeed) :
    (spool.perform deeds).Fresh := by
  induction deeds generalizing spool with
  | nil => exact fresh
  | cons deed rest ih => exact ih (fresh.after deed)

/-- What can be moved to the next name is moved to a free one. -/
lemma Fresh.free {spool : Spool} (fresh : spool.Fresh)
    {entries : Std.ExtTreeMap String SpoolEntry} (there : spool.entries = some entries)
    (free : entries[spool.nextName]? ≠ some SpoolEntry.directory) :
    entries[spool.nextName]? = none := by
  by_contra taken
  obtain ⟨entry, found⟩ := Option.ne_none_iff_exists'.1 taken
  exact free (found.trans (congrArg some (fresh entries there _ (Nat.le_refl _) entry found)))

/-- Among sends, comings and goings of the modem, and files that the daemon takes away, let a message
be sent. If that fails, the directory is as it was. Without a modem it always fails, and no number is
used up. If it succeeds, there is one new file, which has the whole message, and all else in the
directory is as it was. It succeeds exactly if there are a modem and a directory, no step is refused,
and no directory has the name of the file. And of all the sends no two use up the same name. -/
theorem left_whole_or_not (spool : Spool) (fresh : spool.Fresh) (earlier later : List SpoolDeed)
    (sms : Sms) (refusal : SpoolStep → Option IoFault) :
    let before := spool.perform earlier
    let result := (before.send sms refusal).1
    let left := (before.send sms refusal).2
    (∀ fault, result = .error fault → left.entries = before.entries) ∧
    (before.hasModem = false →
      result = .error (.modemMissing before.modemNode) ∧ left = before) ∧
    (result = .ok () → ∃ entries, before.entries = some entries ∧
      entries[before.nextName]? = none ∧
      left.entries = some (entries.insert before.nextName
        (.file ("To: " ++ sms.number ++ "\n\n" ++ sms.text ++ "\n")))) ∧
    (result = .ok () ↔ before.hasModem ∧ (∀ step ∈ SpoolStep.all, refusal step = none) ∧
      ∃ entries, before.entries = some entries ∧
        entries[before.nextName]? ≠ some SpoolEntry.directory) ∧
    (before.hasModem → spool.names (earlier ++ .sends sms refusal :: later) =
      spool.names earlier ++ before.nextName :: left.names later) ∧
    (spool.names (earlier ++ .sends sms refusal :: later)).Nodup := by
  intro before result left
  have fresh : before.Fresh := fresh.perform earlier
  refine ⟨fun fault failed => send_error failed, fun absent => ?_, fun sent => ?_, send_ok_iff,
    fun present => ?_, spool.names_nodup _⟩
  · have refused : before.send sms refusal = (.error (.modemMissing before.modemNode), before) :=
      send_of_absent absent
    exact ⟨congrArg Prod.fst refused, congrArg Prod.snd refused⟩
  · obtain ⟨entries, there, free, whole⟩ := send_ok sent
    exact ⟨entries, there, fresh.free there free, whole⟩
  · rw [names_append, names, named, if_pos present]
    rfl

/-- Of three messages the first finds no modem and the second is cut short, and only the third is
left, as a file of its own. -/
theorem left_whole_or_not_of_cut :
    let spool : Spool := { modemNode := "/dev/ttyUSB2", process := 7 }
    let sms : Sms := { number := "+49123", text := "on" }
    let cut (step : SpoolStep) : Option IoFault :=
      if step = .write 3 then some .permissionDenied else none
    let plugged := spool.perform [.sends sms fun _ => none, .modem true]
    let before := plugged.after (.sends sms cut)
    spool.Fresh ∧ (plugged.send sms cut).1 ≠ .ok () ∧
      (before.send sms fun _ => none).1 = .ok () ∧
      (before.send sms fun _ => none).2.entries =
        some ((∅ : Std.ExtTreeMap String SpoolEntry).insert "sms_7_1" (.file "To: +49123\n\non\n")) ∧
      ["sms_7_0", "sms_7_1"].Nodup := by
  intro spool sms cut plugged before
  have fresh : spool.Fresh := by
    rintro entries ⟨⟩ number - entry found
    simp at found
  obtain ⟨-, -, -, whole, -, -⟩ := left_whole_or_not spool fresh
    [.sends sms fun _ => none, .modem true] [] sms cut
  obtain ⟨-, -, left, succeeds, -, names⟩ := left_whole_or_not spool fresh
    [.sends sms fun _ => none, .modem true, .sends sms cut] [] sms fun _ => none
  have sent : (before.send sms fun _ => none).1 = .ok () :=
    succeeds.2 ⟨rfl, fun _ _ => rfl, ∅, rfl, by simp⟩
  have first : plugged.nextName = "sms_7_0" := by decide +kernel
  have second : before.nextName = "sms_7_1" := by decide +kernel
  refine ⟨fresh, fun sent => ?_, sent, ?_, ?_⟩
  · cases (whole.1 sent).2.1 (.write 3) (by decide)
  · obtain ⟨entries, ⟨⟩, -, entry⟩ := left sent
    rw [← second]
    exact entry
  · rw [← first, ← second]
    exact names

end Spool

end HeatingHub
