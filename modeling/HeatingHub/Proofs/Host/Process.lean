import HeatingHub.Host.Machine
import HeatingHub.Proofs.Text.Line
import HeatingHub.Proofs.Text.Slice

/-!
# Names of processes

The system writes the name of a process as it is, between parentheses, and the name may have
parentheses in it too. So it is what stands between the first opening and the last closing
parenthesis (`processName?_eq_some_iff`). Who looks for these byte by byte finds them at the ends of
characters, whatever the text is (`nameIn?_eq`).

The daemon is running exactly if some process that the machine shows has its name
(`daemonRunning_iff`).
-/

namespace HeatingHub

/-- The name stands between the first opening and the last closing parenthesis of the text. -/
inductive Enclosed (name : List Char) : List Char → Prop
  | intro {before behind : List Char} (opening : '(' ∉ before) (closing : ')' ∉ behind) :
    Enclosed name (before ++ '(' :: (name ++ ')' :: behind))

/-- The status line of a process with this name: its number, the name in parentheses, and what the
system has to say of it. -/
inductive StatusOf (name : List Char) : List Char → Prop
  | line {number rest : List Char} (opening : '(' ∉ number) (closing : ')' ∉ rest) :
    StatusOf name (number ++ " (".toList ++ name ++ ") ".toList ++ rest)

/-- The name in a status that is cut out byte by byte: `some none` if there is no name, and nothing
if the bytes found are no places to cut at. -/
def nameIn? (status : String) : Option (Option String) :=
  match Text.firstAt? '(' status.toList, Text.lastAt? ')' status.toList with
  | some first, some last =>
    if first < last then (Text.part? status (first + 1) last).map some else some none
  | _, _ => some none

variable {name status : List Char}

/-- A character that is in a text has a last place there. -/
lemma exists_last_of_mem {c : Char} {text : List Char} (mem : c ∈ text) :
    ∃ before behind, text = before ++ c :: behind ∧ c ∉ behind := by
  obtain ⟨behind, before, turned, last⟩ := List.eq_append_cons_of_mem (List.mem_reverse.2 mem)
  refine ⟨before.reverse, behind.reverse, ?_, mt List.mem_reverse.1 last⟩
  rw [← List.reverse_inj, turned]
  simp

/-- The status of a process has its name in brackets. -/
lemma StatusOf.enclosed (h : StatusOf name status) : Enclosed name status := by
  obtain @⟨number, rest, opening, closing⟩ := h
  have opening' : '(' ∉ number ++ [' '] := by simpa using opening
  have closing' : ')' ∉ ' ' :: rest := by simpa using closing
  have whole : number ++ " (".toList ++ name ++ ") ".toList ++ rest =
      (number ++ [' ']) ++ '(' :: (name ++ ')' :: ' ' :: rest) := by simp
  rw [whole]
  exact .intro opening' closing'

/-- The name that is read is the one that is enclosed. -/
lemma processName?_eq_some_iff : processName? status = some name ↔ Enclosed name status := by
  constructor
  · intro read
    obtain ⟨⟨before, inside⟩, opens, read⟩ := Option.bind_eq_some_iff.1 read
    obtain ⟨⟨behind, turned⟩, closes, same⟩ := Option.map_eq_some_iff.1 read
    obtain ⟨rfl, opening⟩ := Text.splitOnce_eq_some_iff.1 opens
    obtain ⟨whole, closing⟩ := Text.splitOnce_eq_some_iff.1 closes
    have inner : inside = name ++ ')' :: behind.reverse := by
      rw [← List.reverse_inj, whole, ← same]
      simp
    rw [inner]
    exact .intro opening (mt List.mem_reverse.1 closing)
  · rintro @⟨before, behind, opening, closing⟩
    have turned : (name ++ ')' :: behind).reverse = behind.reverse ++ ')' :: name.reverse := by simp
    rw [processName?, Text.splitOnce_append_cons _ opening, Option.bind_some, turned,
      Text.splitOnce_append_cons _ (mt List.mem_reverse.1 closing), Option.map_some,
      List.reverse_reverse]

/-- The bytes of the parentheses around a name are found in order, and the name is cut out between
them. -/
lemma Enclosed.nameIn? (h : Enclosed name status) :
    nameIn? (String.ofList status) = some (some (String.ofList name)) := by
  obtain @⟨before, behind, opening, closing⟩ := h
  have cut := Text.part?_append (String.ofList (before ++ ['('])) (String.ofList (')' :: behind))
    (String.ofList name)
  have whole : before ++ '(' :: (name ++ ')' :: behind) =
      before ++ ['('] ++ name ++ ')' :: behind := by simp
  have first : Text.width (before ++ ['(']) = Text.width before + 1 := by
    rw [Text.width_append]
    rfl
  have last : Text.lastAt? ')' (before ++ ['('] ++ name ++ ')' :: behind) =
      some (Text.width (before ++ ['('] ++ name)) := Text.lastAt?_append_cons _ closing
  have order : Text.width before < Text.width (before ++ ['('] ++ name) := by
    rw [Text.width_append, first]
    omega
  rw [← String.ofList_append, ← String.ofList_append, Text.utf8ByteSize_ofList,
    Text.utf8ByteSize_ofList, first] at cut
  rw [HeatingHub.nameIn?, String.toList_ofList, Text.firstAt?_append_cons opening, whole, last]
  dsimp only
  rw [if_pos order, cut, Option.map_some]

/-- No place is looked for that is none, whether there is a name or not. -/
lemma nameIn?_eq (status : String) :
    nameIn? status = some ((processName? status.toList).map String.ofList) := by
  cases read : processName? status.toList with
  | some name =>
    have enclosed := (processName?_eq_some_iff.1 read).nameIn?
    rwa [String.ofList_toList] at enclosed
  | none =>
    have nothing : ∀ name, ¬ Enclosed name status.toList := fun name enclosed =>
      nomatch read.symm.trans (processName?_eq_some_iff.2 enclosed)
    rw [nameIn?]
    by_cases opens : '(' ∈ status.toList
    · obtain ⟨before, inside, whole, opening⟩ := List.eq_append_cons_of_mem opens
      have unclosed : ')' ∉ inside := by
        intro closes
        obtain ⟨name, behind, rfl, closing⟩ := exists_last_of_mem closes
        exact nothing name (whole ▸ .intro opening closing)
      rw [whole, Text.firstAt?_append_cons opening]
      by_cases closes : ')' ∈ before
      · -- The last closing parenthesis stands before the first opening one.
        obtain ⟨start, between, rfl, closing⟩ := exists_last_of_mem closes
        have last : Text.lastAt? ')' (start ++ ')' :: (between ++ '(' :: inside)) =
            some (Text.width start) := Text.lastAt?_append_cons start (by simp [closing, unclosed])
        have order : ¬ Text.width (start ++ ')' :: between) < Text.width start := by
          rw [Text.width_append]
          omega
        rw [List.append_assoc, List.cons_append, last]
        exact if_neg order
      · rw [Text.lastAt?_of_not_mem (by simp [closes, unclosed])]
        rfl
    · rw [Text.firstAt?_of_not_mem opens]
      rfl

/-! ## The daemon -/

namespace Machine

/-- The file with the status of the process that has this directory. -/
def statusFile (machine : Machine) (entry : List Char) : String :=
  joinPath (joinPath machine.processesDir (String.ofList entry)) "stat"

/-- The machine shows this status of a process: the process has a directory whose name is a number
of 32 bits, and its status can be read. -/
structure Shows (machine : Machine) (entry status : List Char) : Prop where
  listed : entry ∈ machine.files.children machine.processesDir
  number : (Text.readNat? 10 Text.greatest32 entry).isSome
  readable : machine.files.readText (machine.statusFile entry) = .ok status

variable {machine : Machine}

/-- An entry is the daemon's exactly if its status can be read and has the daemon's name in
brackets. -/
lemma runsDaemon_iff {entry : List Char} :
    machine.runsDaemon entry ↔ ∃ status,
      machine.files.readText (machine.statusFile entry) = .ok status ∧
        Enclosed machine.daemonProcess.toList status := by
  unfold runsDaemon statusFile
  dsimp only
  cases machine.files.readText _ with
  | ok status => simp [processName?_eq_some_iff]
  | error fault => simp

/-- The daemon is running if some process that the machine shows has its name. -/
lemma daemonRunning_iff :
    machine.daemonRunning ↔ ∃ entry status, machine.Shows entry status ∧
      Enclosed machine.daemonProcess.toList status := by
  rw [daemonRunning, List.any_eq_true]
  constructor
  · rintro ⟨entry, mem, runs⟩
    obtain ⟨listed, number⟩ := List.mem_filter.1 mem
    obtain ⟨status, readable, enclosed⟩ := runsDaemon_iff.1 runs
    exact ⟨entry, status, ⟨listed, number, readable⟩, enclosed⟩
  · rintro ⟨entry, status, shows, enclosed⟩
    exact ⟨entry, List.mem_filter.2 ⟨shows.listed, shows.number⟩,
      runsDaemon_iff.2 ⟨status, shows.readable, enclosed⟩⟩

/-- The name of a process is found again in its status, whatever characters it has. Where the bytes
of the first opening and of the last closing parenthesis are in this order, in any text at all, the
name can be cut out between them. So if all processes that a machine shows have a status of this
form, the daemon is running exactly if one of them has its name. -/
theorem names_recovered :
    (∀ number name rest, '(' ∉ number → ')' ∉ rest →
      processName? (number ++ " (".toList ++ name ++ ") ".toList ++ rest) = some name) ∧
    (∀ status, nameIn? status = some ((processName? status.toList).map String.ofList)) ∧
    ∀ machine : Machine,
      (∀ entry status, machine.Shows entry status → ∃ name, StatusOf name status) →
      (machine.daemonRunning ↔ ∃ entry status, machine.Shows entry status ∧
        StatusOf machine.daemonProcess.toList status) := by
  refine ⟨fun number name rest opening closing => ?_, nameIn?_eq, fun machine shaped => ?_⟩
  · exact processName?_eq_some_iff.2 (StatusOf.line opening closing).enclosed
  · rw [daemonRunning_iff]
    constructor
    · rintro ⟨entry, status, shows, enclosed⟩
      obtain ⟨name, line⟩ := shaped entry status shows
      have same := (processName?_eq_some_iff.2 line.enclosed).symm.trans
        (processName?_eq_some_iff.2 enclosed)
      exact ⟨entry, status, shows, Option.some.inj same ▸ line⟩
    · rintro ⟨entry, status, shows, line⟩
      exact ⟨entry, status, shows, line.enclosed⟩

/-- A daemon whose name has parentheses and a line break in it, and a process that only looks like
it. -/
theorem names_recovered_of_parentheses :
    let machine : Machine :=
      { interface := "wlan0", daemonProcess := "a) (b\n", logUnit := "",
        files := { files := [("/proc/7/stat", Text.encode "7 (b) S 1".toList),
          ("/proc/812/stat", Text.encode "812 (a) (b\n) S 1".toList)] } }
    machine.daemonRunning ∧ processName? "812 (a) (b\n) S 1".toList = some "a) (b\n".toList := by
  intro machine
  obtain ⟨read, -, running⟩ := names_recovered
  have other : StatusOf ['b'] "7 (b) S 1".toList :=
    @StatusOf.line _ ['7'] "S 1".toList (by decide) (by decide)
  have daemon : StatusOf "a) (b\n".toList "812 (a) (b\n) S 1".toList :=
    @StatusOf.line _ "812".toList "S 1".toList (by decide) (by decide)
  have listed : machine.files.children machine.processesDir = [['7'], "812".toList] := by
    decide +kernel
  have first : machine.files.readText (machine.statusFile ['7']) = .ok "7 (b) S 1".toList := by
    decide +kernel
  have second : machine.files.readText (machine.statusFile "812".toList) =
      .ok "812 (a) (b\n) S 1".toList := by
    decide +kernel
  have shows : machine.Shows "812".toList "812 (a) (b\n) S 1".toList :=
    ⟨by rw [listed]; decide, by decide, second⟩
  refine ⟨(running machine fun entry status shows => ?_).2 ⟨_, _, shows, daemon⟩,
    read "812".toList "a) (b\n".toList "S 1".toList (by decide) (by decide)⟩
  have mem := shows.listed
  rw [listed, List.mem_cons, List.mem_singleton] at mem
  obtain rfl | rfl := mem
  · cases first.symm.trans shows.readable
    exact ⟨_, other⟩
  · cases second.symm.trans shows.readable
    exact ⟨_, daemon⟩

end Machine

end HeatingHub
