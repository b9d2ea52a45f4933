import HeatingHub.Proofs.Fleet
import HeatingHub.Proofs.Settings.RoundTrip
import Mathlib.Data.List.Induction
import Mathlib.Data.List.ReduceOption

/-!
# What a state file says

A state file is read entry by entry, but what it says does not hang on all of their order. An entry
is about one subject at most, which its key names (`Entry.About`), and the settings that a file
makes are those that its entries *describe* (`DescribedBy`): the last entry about the default mode
or about a heater counts, every entry about the whitelist adds its numbers, and of the entries about
the emergency phone the last one that can be taken counts. Each entry keeps the description
(`DescribedBy.concat`), and a description fits one state of the settings only. A line about nothing
and the order of two lines about different subjects are no part of it.
-/

namespace HeatingHub

/-- What a line of a state file can be about. -/
inductive Subject
  | default
  /-- The mode of the heater with this name in upper case. -/
  | heater (name : String)
  | whitelist
  | emergency
  deriving DecidableEq

namespace Entry

/-- An entry is about the setting that its key names, where a heater may be named in any case of
its letters. -/
inductive About (entry : Entry) : Subject → Prop
  | default (key : entry.key = defaultKey) : About entry .default
  | heater {name : List Char} (named : isHeaterName name) (key : entry.key = heaterKey name) :
      About entry (.heater (String.ofList (Text.upper name)))
  | whitelist (key : entry.key = whitelistKey) : About entry .whitelist
  | emergency (key : entry.key = emergencyKey) : About entry .emergency

/-- The subject of an entry, if its key names one. -/
def subject? (entry : Entry) : Option Subject :=
  if entry.key = defaultKey then some .default
  else match entry.heater? with
    | some name =>
      if isHeaterName name then some (.heater (String.ofList (Text.upper name))) else none
    | none =>
      if entry.key = whitelistKey then some .whitelist
      else if entry.key = emergencyKey then some .emergency
      else none

/-- A key names a heater exactly if it is the key for that name. -/
lemma heater?_eq_some_iff {entry : Entry} {name : List Char} :
    entry.heater? = some name ↔ entry.key = heaterKey name := by
  constructor
  · intro found
    obtain ⟨rest, head, tail⟩ := Option.bind_eq_some_iff.1 found
    have head := List.isPrefixOf?_eq_some_iff_append_eq.1 head
    have tail := List.isSuffixOf?_eq_some_iff_append_eq.1 tail
    rw [heaterKey, List.append_assoc, tail, head]
  · intro key
    have read := heater?_heaterKey name entry.value
    rwa [← key] at read

/-- No key of a heater is the key for the default. -/
lemma heaterKey_ne_defaultKey (name : List Char) : heaterKey name ≠ defaultKey :=
  fun same => absurd (List.cons.inj same).1 (by decide)

/-- The subject that an entry is about is the one that its key names. -/
lemma about_iff {entry : Entry} {subject : Subject} :
    entry.About subject ↔ entry.subject? = some subject := by
  constructor
  · intro about
    obtain ⟨key, value⟩ := entry
    cases about with
    | heater named spelled =>
      obtain rfl : key = _ := spelled
      rw [subject?, if_neg (heaterKey_ne_defaultKey _), heater?_heaterKey]
      exact if_pos named
    | default spelled | whitelist spelled | emergency spelled =>
      obtain rfl : key = _ := spelled
      rfl
  · intro found
    rw [subject?] at found
    split at found
    · next key =>
      cases found
      exact .default key
    · split at found
      · next name read =>
        split at found
        · next named =>
          cases found
          exact .heater named (heater?_eq_some_iff.1 read)
        · cases found
      · split at found
        · next key =>
          cases found
          exact .whitelist key
        · split at found
          · next key =>
            cases found
            exact .emergency key
          · cases found

/-- Whether an entry is about a subject can be computed. -/
instance (entry : Entry) (subject : Subject) : Decidable (entry.About subject) :=
  decidable_of_iff (entry.subject? = some subject) about_iff.symm

/-! ## What an entry says about its subject -/

/-- The value of an entry can be taken for an emergency phone or for none. -/
def Settles (entry : Entry) : Prop :=
  entry.value = [] ∨ isPhoneNumber entry.value

/-- Whether an entry settles the emergency phone can be computed. -/
instance (entry : Entry) : Decidable entry.Settles :=
  inferInstanceAs (Decidable (_ ∨ _))

/-- The emergency phone that a value names, or none if it is empty. -/
def phone (entry : Entry) : Option String :=
  if entry.value = [] then none else some (String.ofList entry.value)

/-- A value names a mode by its word, and every other value names the safe one. -/
lemma mode_eq_iff {entry : Entry} {mode : Mode} :
    entry.mode = mode ↔
      entry.value = mode.word.toList ∨
        mode = .safe ∧ ∀ other : Mode, entry.value ≠ other.word.toList := by
  have known (other : Mode) (word : entry.value = other.word.toList) : entry.mode = other := by
    rw [Entry.mode, word, String.ofList_toList, Mode.ofWord?_word, Option.getD_some]
  by_cases unknown : ∀ other : Mode, entry.value ≠ other.word.toList
  · have missing : Mode.ofWord? (String.ofList entry.value) = none := by
      refine List.find?_eq_none.2 fun other _ same => unknown other ?_
      rw [beq_iff_eq.1 same, String.toList_ofList]
    rw [Entry.mode, missing, Option.getD_none]
    exact ⟨fun safe => .inr ⟨safe.symm, unknown⟩,
      fun either => either.elim (fun word => absurd word (unknown mode)) fun safe => safe.1.symm⟩
  · obtain ⟨other, word⟩ := not_forall_not.1 unknown
    constructor
    · rintro rfl
      rw [known other word]
      exact .inl word
    · rintro (word | ⟨-, unknown⟩)
      · exact known mode word
      · exact absurd word (unknown other)

/-- A line is cut at its first equals sign, and its two parts are trimmed. -/
lemma ofLine?_eq_some_iff {line : List Char} {entry : Entry} :
    ofLine? line = some entry ↔
      ∃ key value, line = key ++ '=' :: value ∧ '=' ∉ key ∧
        entry = { key := Text.trim key, value := Text.trim value } := by
  rw [ofLine?, Option.map_eq_some_iff]
  constructor
  · rintro ⟨⟨key, value⟩, split, rfl⟩
    obtain ⟨shape, apart⟩ := Text.splitOnce_eq_some_iff.1 split
    exact ⟨key, value, shape, apart, rfl⟩
  · rintro ⟨key, value, shape, apart, rfl⟩
    exact ⟨(key, value), Text.splitOnce_eq_some_iff.2 ⟨shape, apart⟩, rfl⟩

/-- An entry lists a phone number, between its commas. -/
def Lists (entry : Entry) (number : String) : Prop :=
  isPhoneNumber number.toList ∧
    ∃ part ∈ Text.splitAt ',' entry.value, Text.trim part = number.toList

/-- The numbers that an entry lists are its numbers. -/
lemma lists_iff {entry : Entry} {number : String} :
    entry.Lists number ↔ number.toList ∈ entry.numbers := by
  rw [Lists, numbers, List.mem_filter, List.mem_map, and_comm]

/-- The entries about a subject, in their order. -/
def allAbout (subject : Subject) (entries : List Entry) : List Entry :=
  entries.filter (·.About subject)

/-- The entries about a subject are found in front and behind. -/
lemma allAbout_append (subject : Subject) (front back : List Entry) :
    allAbout subject (front ++ back) = allAbout subject front ++ allAbout subject back :=
  List.filter_append _ _

/-- A single entry is about the subject that its key names. -/
lemma allAbout_singleton (subject : Subject) (entry : Entry) :
    allAbout subject [entry] = if entry.subject? = some subject then [entry] else [] := by
  simp only [allAbout, List.filter_cons, List.filter_nil, about_iff, decide_eq_true_iff]

/-- An entry at the end is the last one about its own subject, and about no other. -/
lemma allAbout_concat (subject : Subject) (entries : List Entry) (entry : Entry) :
    allAbout subject (entries ++ [entry]) =
      if entry.subject? = some subject then allAbout subject entries ++ [entry]
      else allAbout subject entries := by
  rw [allAbout_append, allAbout_singleton]
  split
  · rfl
  · exact List.append_nil _

/-! ## Line after line -/

/-- The entries of a text, in the order of their lines. -/
def listOf (text : String) : List Entry :=
  (Text.lines text.toList).filterMap ofLine?

/-- A line is an entry about the subject. -/
def Concerns (line : List Char) (subject : Subject) : Prop :=
  ∃ entry, ofLine? line = some entry ∧ entry.About subject

/-- The lines of the text say what these lines say, one by one. -/
def ReadsLike (text : String) (lines : List (List Char)) : Prop :=
  (Text.lines text.toList).map ofLine? = lines.map ofLine?

/-- Whether a text reads like some lines can be computed. -/
instance (text : String) (lines : List (List Char)) : Decidable (ReadsLike text lines) :=
  inferInstanceAs (Decidable (_ = _))

/-- A text that reads like some lines has their entries. -/
lemma ReadsLike.listOf {text : String} {lines : List (List Char)} (reads : ReadsLike text lines) :
    listOf text = lines.filterMap ofLine? := by
  have same := congrArg (List.filterMap id) reads
  rwa [List.filterMap_map, List.filterMap_map] at same

/-- A carriage return at the end of a line says nothing. -/
lemma ofLine?_concat_return (line : List Char) : ofLine? (line ++ ['\r']) = ofLine? line := by
  rw [ofLine?, ofLine?, Text.splitOnce_concat (by decide), Option.map_map]
  have trimmed (value : List Char) : Text.trim (value ++ ['\r']) = Text.trim value :=
    Text.trim_concat_blank (by decide) value
  simp only [Function.comp_def, trimmed]

/-- Lines are found again in a text that ends each of them with a line feed. -/
lemma readsLike_ended {lines : List (List Char)} (feed : ∀ line ∈ lines, '\n' ∉ line) :
    ReadsLike (String.ofList (lines.flatMap (· ++ ['\n']))) lines := by
  rw [ReadsLike, String.toList_ofList]
  induction lines with
  | nil => rfl
  | cons line lines ih =>
    have first := feed line List.mem_cons_self
    have ih := ih fun other mem => feed other (List.mem_cons_of_mem _ mem)
    have shape : (line :: lines).flatMap (· ++ ['\n']) =
        line ++ '\n' :: lines.flatMap (· ++ ['\n']) := by
      rw [List.flatMap_cons, List.append_assoc, List.singleton_append]
    rw [shape, List.map_cons, ← ih]
    -- The reader takes a carriage return at the end of the line along with the feed.
    by_cases last : line.getLast? = some '\r'
    · obtain ⟨line, rfl⟩ := List.getLast?_eq_some_iff.1 last
      have inner : '\n' ∉ line := fun mem => first (List.mem_append_left _ mem)
      rw [List.append_assoc, List.singleton_append, Text.lines_append_return _ inner,
        List.map_cons, ofLine?_concat_return]
    · rw [Text.lines_append_cons _ first last, List.map_cons]

/-- A line is read to at most one entry, and one that is not about the subject adds nothing. -/
lemma allAbout_eq_nil {subject : Subject} {line : List Char} (apart : ¬ Concerns line subject) :
    allAbout subject ([line].filterMap ofLine?) = [] := by
  cases read : ofLine? line with
  | none =>
    rw [List.filterMap_cons_none read]
    rfl
  | some entry =>
    have elsewhere : entry.subject? ≠ some subject :=
      fun found => apart ⟨entry, read, about_iff.2 found⟩
    rw [List.filterMap_cons_some read, List.filterMap_nil, allAbout_singleton, if_neg elsewhere]

/-- A line that is not about a subject can be put between the entries about it. -/
lemma allAbout_insert {subject : Subject} {line : List Char} (front back : List (List Char))
    (apart : ¬ Concerns line subject) :
    allAbout subject ((front ++ line :: back).filterMap ofLine?) =
      allAbout subject ((front ++ back).filterMap ofLine?) := by
  rw [← List.singleton_append, List.filterMap_append, List.filterMap_append,
    List.filterMap_append, allAbout_append, allAbout_append, allAbout_append,
    allAbout_eq_nil apart, List.nil_append]

end Entry

namespace Settings

/-- An entry changes the setting that it is about. -/
lemma apply_eq (settings : Settings) (entry : Entry) :
    settings.apply entry = match entry.subject? with
      | some .default => { settings with defaultMode := entry.mode }
      | some (.heater name) =>
        { settings with overrides := settings.overrides.insert name entry.mode }
      | some .whitelist =>
        { settings with
          whitelist := entry.numbers.foldl (fun numbers number =>
            numbers.insert (String.ofList number)) settings.whitelist }
      | some .emergency =>
        { settings with emergency := if entry.Settles then entry.phone else settings.emergency }
      | none => settings := by
  rw [apply, Entry.subject?]
  split
  · rfl
  · cases entry.heater? with
    | some name =>
      dsimp only
      split <;> rfl
    | none =>
      dsimp only
      split
      · rfl
      · split
        · simp only [Entry.phone, Entry.Settles, List.isEmpty_iff]
          by_cases empty : entry.value = []
          · simp only [empty, true_or, if_true]
          · simp only [empty, false_or, if_false]
            split <;> rfl
        · rfl

/-- The settings are those that the entries describe. The default mode and the modes of heaters
are given by the last entry about them, the whitelist by all entries about it, and the emergency
phone by the last entry about it that names a phone number or nothing. -/
structure DescribedBy (settings : Settings) (entries : List Entry) : Prop where
  default : settings.defaultMode =
    ((Entry.allAbout .default entries).getLast?.map Entry.mode).getD .safe
  heater (name : String) : settings.overrides[name]? =
    (Entry.allAbout (.heater name) entries).getLast?.map Entry.mode
  whitelist (number : String) : number ∈ settings.whitelist ↔
    ∃ entry ∈ Entry.allAbout .whitelist entries, entry.Lists number
  emergency : settings.emergency =
    ((Entry.allAbout .emergency entries).filter (·.Settles)).getLast?.bind Entry.phone

/-! ## One entry after the other -/

/-- A number is on a list after others were put there exactly if it was before, or is one of
them. -/
lemma mem_foldl_insert {whitelist : Std.ExtTreeSet String} {numbers : List (List Char)}
    {number : String} :
    number ∈ numbers.foldl (fun numbers number => numbers.insert (String.ofList number))
        whitelist ↔ number ∈ whitelist ∨ number.toList ∈ numbers := by
  induction numbers generalizing whitelist with
  | nil => simp
  | cons first numbers ih =>
    have same : String.ofList first = number ↔ number.toList = first := by
      rw [← String.toList_inj, String.toList_ofList, eq_comm]
    rw [List.foldl_cons, ih, Std.ExtTreeSet.mem_insert, Std.LawfulEqCmp.compare_eq_iff_eq, same,
      List.mem_cons, or_comm (a := number.toList = first), or_assoc]

/-- No entries at all describe the defaults. -/
lemma default_describedBy : DescribedBy {} [] where
  default := rfl
  heater _ := Std.ExtTreeMap.getElem?_empty
  whitelist number := by simp [Entry.allAbout, Std.ExtTreeSet.not_mem_empty]
  emergency := rfl

/-- One more entry at the end is described by what it makes of the settings. -/
lemma DescribedBy.concat {settings : Settings} {entries : List Entry}
    (described : settings.DescribedBy entries) (entry : Entry) :
    (settings.apply entry).DescribedBy (entries ++ [entry]) where
  default := by
    -- Only an entry about a part itself changes this part and the list of its entries.
    rw [apply_eq, Entry.allAbout_concat]
    rcases entry.subject? with _ | (_ | _ | _ | _) <;> simp [described.default]
  heater name := by
    rw [apply_eq, Entry.allAbout_concat]
    rcases entry.subject? with _ | (_ | other | _ | _)
    case some.heater =>
      by_cases same : other = name
      · simp [same]
      · simp [getElem?_insert_eq, same, Ne.symm same, described.heater]
    all_goals simp [described.heater]
  whitelist number := by
    rw [apply_eq, Entry.allAbout_concat]
    rcases entry.subject? with _ | (_ | _ | _ | _)
    case some.whitelist =>
      simp [mem_foldl_insert, described.whitelist, Entry.lists_iff, or_and_right, exists_or]
    all_goals simp [described.whitelist]
  emergency := by
    rw [apply_eq, Entry.allAbout_concat]
    rcases entry.subject? with _ | (_ | _ | _ | _)
    case some.emergency =>
      by_cases settles : entry.Settles
      · simp [settles]
      · simp [settles, described.emergency]
    all_goals simp [described.emergency]

/-- Settings to which entries are applied one after the other are described by these entries. -/
lemma foldl_describedBy (entries : List Entry) : (entries.foldl apply {}).DescribedBy entries := by
  induction entries using List.reverseRecOn with
  | nil => exact default_describedBy
  | append_singleton entries entry ih =>
    rw [List.foldl_append]
    exact ih.concat entry

/-- Entries describe one state of the settings only. -/
lemma DescribedBy.unique {settings other : Settings} {entries : List Entry}
    (described : settings.DescribedBy entries) (described' : other.DescribedBy entries) :
    settings = other := by
  obtain ⟨mode, overrides, whitelist, emergency⟩ := settings
  obtain ⟨mode', overrides', whitelist', emergency'⟩ := other
  congr 1
  · exact described.default.trans described'.default.symm
  · apply Std.ExtTreeMap.ext_getElem?
    exact fun name => (described.heater name).trans (described'.heater name).symm
  · apply Std.ExtTreeSet.ext_mem
    exact fun number => (described.whitelist number).trans (described'.whitelist number).symm
  · exact described.emergency.trans described'.emergency.symm

/-- Only the entries about each subject, in their order, are part of a description. -/
lemma DescribedBy.congr {settings : Settings} {entries others : List Entry}
    (described : settings.DescribedBy entries)
    (same : ∀ subject, Entry.allAbout subject others = Entry.allAbout subject entries) :
    settings.DescribedBy others where
  default := same .default ▸ described.default
  heater name := same (.heater name) ▸ described.heater name
  whitelist := same .whitelist ▸ described.whitelist
  emergency := same .emergency ▸ described.emergency


/-- The settings that are read from a text are described by its entries. -/
lemma parse_describedBy (text : String) : (parse text).DescribedBy (Entry.listOf text) :=
  foldl_describedBy _

/-- What a text says. Its settings are those that its entries describe, where an entry is what
stands around the first equals sign of a line, without blanks at the ends, and an unknown mode
counts as the safe one. The settings stay the same when a line that is about no setting is put in
between two lines or at an end, and when two lines next to each other that are not about one setting
are exchanged. Any lines make up such a text. -/
theorem parse_eq_iff_described :
    (∀ (text : String) (settings : Settings),
      parse text = settings ↔ settings.DescribedBy (Entry.listOf text)) ∧
    (∀ (line : List Char) (entry : Entry), Entry.ofLine? line = some entry ↔
      ∃ key value, line = key ++ '=' :: value ∧ '=' ∉ key ∧
        entry = { key := Text.trim key, value := Text.trim value }) ∧
    (∀ (entry : Entry) (mode : Mode), entry.mode = mode ↔
      entry.value = mode.word.toList ∨
        mode = .safe ∧ ∀ other : Mode, entry.value ≠ other.word.toList) ∧
    (∀ (text longer : String) (front back : List (List Char)) (line : List Char),
      Entry.ReadsLike text (front ++ back) → Entry.ReadsLike longer (front ++ line :: back) →
        (∀ subject, ¬ Entry.Concerns line subject) → parse longer = parse text) ∧
    (∀ (text other : String) (front back : List (List Char)) (line next : List Char),
      Entry.ReadsLike text (front ++ line :: next :: back) →
        Entry.ReadsLike other (front ++ next :: line :: back) →
          (∀ subject, ¬ (Entry.Concerns line subject ∧ Entry.Concerns next subject)) →
            parse other = parse text) ∧
    ∀ lines : List (List Char), (∀ line ∈ lines, '\n' ∉ line) →
      Entry.ReadsLike (String.ofList (lines.flatMap (· ++ ['\n']))) lines := by
  refine ⟨fun text settings => ⟨?_, ?_⟩, fun _ _ => Entry.ofLine?_eq_some_iff,
    fun _ _ => Entry.mode_eq_iff, ?_, ?_, fun _ => Entry.readsLike_ended⟩
  · rintro rfl
    exact parse_describedBy text
  · exact fun described => (parse_describedBy text).unique described
  · intro text longer front back line reads reads' apart
    refine (parse_describedBy longer).unique ((parse_describedBy text).congr fun subject => ?_)
    rw [reads.listOf, reads'.listOf]
    exact Entry.allAbout_insert front back (apart subject)
  · intro text other front back line next reads reads' apart
    refine (parse_describedBy other).unique ((parse_describedBy text).congr fun subject => ?_)
    rw [reads.listOf, reads'.listOf]
    -- One of the two lines is not about the subject, and wherever it stands it can be left out.
    by_cases concerned : Entry.Concerns line subject
    · have elsewhere : ¬ Entry.Concerns next subject :=
        fun concerned' => apart subject ⟨concerned, concerned'⟩
      rw [Entry.allAbout_insert front _ elsewhere, List.append_cons front line (next :: back),
        Entry.allAbout_insert _ back elsewhere, ← List.append_cons]
    · rw [Entry.allAbout_insert front _ concerned, List.append_cons front next (line :: back),
        Entry.allAbout_insert _ back concerned, ← List.append_cons]

/-- A line about nothing is put in, the lines about two heaters are exchanged, and two lines are
ended. -/
theorem parse_eq_iff_described_of_heaters :
    parse "heater_a_state=on\n# b\nheater_B_state=off\n" =
        parse "heater_a_state=on\nheater_B_state=off\n" ∧
      parse "heater_B_state=off\nheater_a_state=on\n" =
        parse "heater_a_state=on\nheater_B_state=off\n" ∧
      Entry.ReadsLike "heater_a_state=on\r\n# b\n"
        ["heater_a_state=on\r".toList, "# b".toList] := by
  obtain ⟨-, -, -, insert, exchange, ended⟩ := parse_eq_iff_described
  refine ⟨?_, ?_, ended ["heater_a_state=on\r".toList, "# b".toList] (by decide)⟩
  · refine insert "heater_a_state=on\nheater_B_state=off\n" _ ["heater_a_state=on".toList]
      ["heater_B_state=off".toList] "# b".toList ?_ ?_ ?_
    · decide
    · decide
    rintro subject ⟨entry, read, -⟩
    cases read
  · refine exchange "heater_a_state=on\nheater_B_state=off\n" _ [] [] "heater_a_state=on".toList
      "heater_B_state=off".toList ?_ ?_ ?_
    · decide
    · decide
    rintro subject ⟨⟨entry, read, about⟩, other, read', about'⟩
    cases read
    cases read'
    have first : Subject.heater "A" = subject := Option.some.inj (Entry.about_iff.1 about)
    have second : Subject.heater "B" = subject := Option.some.inj (Entry.about_iff.1 about')
    exact absurd (first.trans second.symm) (by decide)

end Settings

end HeatingHub
