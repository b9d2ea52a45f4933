import HeatingHub.Proofs.Settings.Valid
import HeatingHub.Proofs.Text.Line
import HeatingHub.Settings.Printer

/-!
# Settings, read back

Valid settings are found again in the file that was written for them (`parse_render`). A *plain*
entry, without blanks and without an equals sign in its key, comes back from its line
(`Entry.Plain.lines_line`), and all entries of valid settings are plain (`entries_plain`); put over
the defaults one after the other, they make the settings again (`foldl_apply_entries`). Settings
that are not valid do not come back (`parse_render_iff`).
-/

namespace HeatingHub

/-! ## Maps and sets, put together again -/

/-- A map is made again by setting all its entries. -/
lemma foldl_insert_toList (overrides : Overrides) :
    overrides.toList.foldl (fun made entry => made.insert entry.1 entry.2) ∅ = overrides := by
  rw [← Std.ExtTreeMap.insertMany_list_eq_foldl]
  apply Std.ExtTreeMap.ext_getElem?
  intro name
  cases found : overrides[name]? with
  | some mode =>
    exact Std.ExtTreeMap.getElem?_insertMany_list_of_mem Std.ReflCmp.compare_self
      Std.ExtTreeMap.distinct_keys_toList
      (Std.ExtTreeMap.mem_toList_iff_getElem?_eq_some.2 found)
  | none =>
    rw [Std.ExtTreeMap.getElem?_insertMany_list_of_contains_eq_false,
      Std.ExtTreeMap.getElem?_empty]
    rw [Std.ExtTreeMap.map_fst_toList_eq_keys, Std.ExtTreeMap.contains_keys,
      Std.ExtTreeMap.contains_eq_isSome_getElem?, found, Option.isSome_none]

/-- A set is made again by putting all its members in. -/
lemma foldl_insert_members (whitelist : Std.ExtTreeSet String) :
    whitelist.toList.foldl (fun made number => made.insert number) ∅ = whitelist := by
  rw [← Std.ExtTreeSet.insertMany_list_eq_foldl]
  apply Std.ExtTreeSet.ext_contains
  intro number
  rw [Std.ExtTreeSet.contains_insertMany_list, Std.ExtTreeSet.contains_toList,
    Std.ExtTreeSet.contains_empty, Bool.false_or]

/-! ## Plain entries -/

/-- Nothing in an entry could be taken for an end of its line or of its key. -/
structure Entry.Plain (entry : Entry) : Prop where
  key : Text.Solid entry.key
  value : Text.Solid entry.value
  equals : '=' ∉ entry.key

/-- The line of a plain entry is read as a line of its own. -/
lemma Entry.Plain.lines_line {entry : Entry} (plain : entry.Plain) (rest : List Char) :
    Text.lines (entry.line ++ rest) = (entry.key ++ '=' :: entry.value) :: Text.lines rest := by
  have solid : Text.Solid (entry.key ++ '=' :: entry.value) :=
    plain.key.append (plain.value.cons (by decide))
  have shape : entry.line ++ rest = (entry.key ++ '=' :: entry.value) ++ '\n' :: rest := by
    simp [Entry.line]
  rw [shape]
  apply Text.lines_append_cons
  · exact solid.not_mem (by decide)
  · intro last
    exact solid.not_mem (by decide) (List.mem_of_mem_getLast? last)

/-- A plain entry is found again in its line. -/
lemma Entry.Plain.ofLine? {entry : Entry} (plain : entry.Plain) :
    Entry.ofLine? (entry.key ++ '=' :: entry.value) = some entry := by
  rw [Entry.ofLine?, Text.splitOnce_append_cons entry.value plain.equals, Option.map_some,
    plain.key.trim_eq_self, plain.value.trim_eq_self]

/-- Plain entries are found again in their lines, in order. -/
lemma filterMap_ofLine?_lines {entries : List Entry} (plain : ∀ entry ∈ entries, entry.Plain) :
    (Text.lines (entries.flatMap Entry.line)).filterMap Entry.ofLine? = entries := by
  induction entries with
  | nil => rfl
  | cons entry entries ih =>
    have first := plain entry List.mem_cons_self
    rw [List.flatMap_cons, first.lines_line, List.filterMap_cons, first.ofLine?,
      ih fun other mem => plain other (List.mem_cons_of_mem _ mem)]

/-! ## What the entries of settings say -/

/-- A phone number is a row of digits. -/
lemma allDigits_of_isPhoneNumber {number : List Char} (h : isPhoneNumber number) :
    Text.allDigits number := by
  rw [isPhoneNumber, Bool.and_eq_true] at h
  exact h.2

/-- A phone number is not empty. -/
lemma ne_nil_of_isPhoneNumber {number : List Char} (h : isPhoneNumber number) : number ≠ [] := by
  rintro rfl
  cases h

/-- The word of a mode says the mode. -/
lemma Entry.mode_word (key : List Char) (mode : Mode) :
    Entry.mode { key, value := mode.word.toList } = mode := by
  rw [Entry.mode, String.ofList_toList, Mode.ofWord?_word, Option.getD_some]

/-- The name in the key of a heater's mode is found again. -/
lemma Entry.heater?_heaterKey (name value : List Char) :
    Entry.heater? { key := Entry.heaterKey name, value } = some name := by
  rw [Entry.heater?, Entry.heaterKey, List.append_assoc, Text.after?_append, Option.bind_some,
    Text.before?_append]

/-- Phone numbers between commas are found again. -/
lemma Entry.numbers_intercalate {key : List Char} {numbers : List (List Char)}
    (valid : ∀ number ∈ numbers, isPhoneNumber number) :
    Entry.numbers { key, value := [','].intercalate numbers } = numbers := by
  cases numbers with
  | nil => rfl
  | cons number numbers =>
    have apart : ∀ member ∈ number :: numbers, ',' ∉ member := fun member mem =>
      Text.not_mem_of_allDigits (allDigits_of_isPhoneNumber (valid member mem)) rfl
    have trimmed : ∀ member ∈ number :: numbers, Text.trim member = member := fun member mem =>
      (Text.solid_of_allDigits (allDigits_of_isPhoneNumber (valid member mem))).trim_eq_self
    rw [Entry.numbers, Text.splitAt_intercalate apart (List.cons_ne_nil _ _),
      List.map_congr_left trimmed, List.map_id', List.filter_eq_self.2 valid]

namespace Settings

/-- The entry of a default sets it. -/
lemma apply_default (settings : Settings) (mode : Mode) :
    settings.apply { key := Entry.defaultKey, value := mode.word.toList } =
      { settings with defaultMode := mode } := by
  rw [apply, if_pos rfl, Entry.mode_word]

/-- The entry of a heater sets its override. -/
lemma apply_heater (settings : Settings) {name : String} (mode : Mode)
    (named : isUpperName name.toList) :
    settings.apply { key := Entry.heaterKey name.toList, value := mode.word.toList } =
      { settings with overrides := settings.overrides.insert name mode } := by
  have other : Entry.heaterKey name.toList ≠ Entry.defaultKey :=
    fun same => absurd (List.cons.inj same).1 (by decide)
  rw [apply, if_neg other, Entry.heater?_heaterKey]
  dsimp only
  rw [if_pos (Text.isHeaterName_of_isUpperName named), Text.upper_of_isUpperName named,
    String.ofList_toList, Entry.mode_word]

/-- The entries of heaters set all their modes. -/
lemma foldl_apply_heaters (settings : Settings) {modes : List (String × Mode)}
    (named : ∀ entry ∈ modes, isUpperName entry.1.toList) :
    (modes.map fun (name, mode) =>
      ({ key := Entry.heaterKey name.toList, value := mode.word.toList } : Entry)).foldl apply
        settings =
      { settings with
        overrides := modes.foldl (fun made entry => made.insert entry.1 entry.2)
          settings.overrides } := by
  induction modes generalizing settings with
  | nil => rfl
  | cons entry modes ih =>
    have here := apply_heater settings entry.2 (named entry List.mem_cons_self)
    rw [List.map_cons, List.foldl_cons, here,
      ih _ fun other mem => named other (List.mem_cons_of_mem _ mem), List.foldl_cons]

/-- The entry of the whitelist puts all its numbers in. -/
lemma apply_whitelist (settings : Settings) {numbers : List String}
    (valid : ∀ number ∈ numbers, isPhoneNumber number.toList) :
    settings.apply
        { key := Entry.whitelistKey, value := [','].intercalate (numbers.map String.toList) } =
      { settings with
        whitelist := numbers.foldl (fun made number => made.insert number)
          settings.whitelist } := by
  have texts : ∀ text ∈ numbers.map String.toList, isPhoneNumber text := by
    intro text mem
    obtain ⟨number, listed, rfl⟩ := List.mem_map.1 mem
    exact valid number listed
  have unnamed (value : List Char) :
      Entry.heater? { key := Entry.whitelistKey, value } = none := rfl
  have other : Entry.whitelistKey ≠ Entry.defaultKey := by decide
  rw [apply, if_neg other, unnamed]
  dsimp only
  rw [if_pos rfl, Entry.numbers_intercalate texts, List.foldl_map]
  simp only [String.ofList_toList]

/-- The entry of an emergency phone sets it, and an empty one forgets it. -/
lemma apply_emergency (settings : Settings) {emergency : Option String}
    (valid : ∀ number, emergency = some number → isPhoneNumber number.toList) :
    settings.apply { key := Entry.emergencyKey, value := (emergency.getD "").toList } =
      { settings with emergency } := by
  have unnamed (value : List Char) :
      Entry.heater? { key := Entry.emergencyKey, value } = none := rfl
  have other : Entry.emergencyKey ≠ Entry.defaultKey := by decide
  have another : Entry.emergencyKey ≠ Entry.whitelistKey := by decide
  rw [apply, if_neg other, unnamed]
  dsimp only
  rw [if_neg another, if_pos rfl]
  cases emergency with
  | none => rfl
  | some number =>
    have phone := valid number rfl
    rw [Option.getD_some, if_neg, if_pos phone, String.ofList_toList]
    rw [List.isEmpty_iff]
    exact ne_nil_of_isPhoneNumber phone

/-! ## The whole file -/

/-- The word of a mode holds no blank. -/
lemma solid_word (mode : Mode) : Text.Solid mode.word.toList := by
  cases mode <;> decide

/-- Phone numbers with commas between them hold no blank. -/
lemma solid_intercalate {numbers : List (List Char)}
    (valid : ∀ number ∈ numbers, isPhoneNumber number) :
    Text.Solid ([','].intercalate numbers) :=
  Text.solid_intercalate (by decide) fun number mem =>
    Text.solid_of_allDigits (allDigits_of_isPhoneNumber (valid number mem))

/-- The key of a heater holds no blank and no equals sign. -/
lemma heaterKey_plain {name : List Char} (named : isUpperName name) :
    Text.Solid (Entry.heaterKey name) ∧ '=' ∉ Entry.heaterKey name := by
  have letters : Text.allAlphanumeric name := by
    have valid := Text.isHeaterName_of_isUpperName named
    rw [isHeaterName, Bool.and_eq_true] at valid
    exact valid.2
  have head : Text.Solid Entry.heaterHead ∧ '=' ∉ Entry.heaterHead := by decide
  have tail : Text.Solid Entry.heaterTail ∧ '=' ∉ Entry.heaterTail := by decide
  have inner : '=' ∉ name := fun mem => absurd (List.all_eq_true.1 letters _ mem) (by decide)
  refine ⟨(head.1.append (Text.solid_of_allAlphanumeric letters)).append tail.1, ?_⟩
  rw [Entry.heaterKey, List.mem_append, List.mem_append]
  rintro ((mem | mem) | mem)
  · exact head.2 mem
  · exact inner mem
  · exact tail.2 mem

/-- The names of valid settings are upper names, entry by entry. -/
lemma Valid.named {settings : Settings} (valid : settings.Valid) :
    ∀ entry ∈ settings.overrides.toList, isUpperName entry.1.toList := by
  intro entry mem
  apply valid.names
  rw [Std.ExtTreeMap.mem_iff_isSome_getElem?,
    Std.ExtTreeMap.mem_toList_iff_getElem?_eq_some.1 mem, Option.isSome_some]

/-- The numbers of valid settings are phone numbers, member by member. -/
lemma Valid.listed {settings : Settings} (valid : settings.Valid) :
    ∀ number ∈ settings.whitelist.toList, isPhoneNumber number.toList :=
  fun number mem => valid.numbers number (Std.ExtTreeSet.mem_toList.1 mem)

/-- Every entry of valid settings can be read back from its line. -/
lemma entries_plain {settings : Settings} (valid : settings.Valid) :
    ∀ entry ∈ settings.entries, entry.Plain := by
  have default : Text.Solid Entry.defaultKey ∧ '=' ∉ Entry.defaultKey := by decide
  have whitelist : Text.Solid Entry.whitelistKey ∧ '=' ∉ Entry.whitelistKey := by decide
  have emergency : Text.Solid Entry.emergencyKey ∧ '=' ∉ Entry.emergencyKey := by decide
  intro entry mem
  rw [entries, List.mem_append, List.mem_cons, List.mem_map] at mem
  rcases mem with (rfl | ⟨⟨name, mode⟩, mem, rfl⟩) | mem
  · exact ⟨default.1, solid_word _, default.2⟩
  · obtain ⟨solid, equals⟩ := heaterKey_plain (valid.named _ mem)
    exact ⟨solid, solid_word _, equals⟩
  · rw [List.mem_cons, List.mem_singleton] at mem
    rcases mem with rfl | rfl
    · refine ⟨whitelist.1, solid_intercalate fun text mem => ?_, whitelist.2⟩
      obtain ⟨number, listed, rfl⟩ := List.mem_map.1 mem
      exact valid.listed number listed
    · refine ⟨emergency.1, ?_, emergency.2⟩
      cases found : settings.emergency with
      | none => exact fun _ mem => absurd mem List.not_mem_nil
      | some number =>
        exact Text.solid_of_allDigits (allDigits_of_isPhoneNumber (valid.emergency number found))

/-- The entries of valid settings, put over the defaults, make the settings again. -/
lemma foldl_apply_entries {settings : Settings} (valid : settings.Valid) :
    settings.entries.foldl apply {} = settings := by
  -- Each group of entries fills in its own field, in the order in which they are written.
  rw [entries, List.cons_append, List.foldl_cons, apply_default, List.foldl_append,
    foldl_apply_heaters _ valid.named, foldl_insert_toList, List.foldl_cons,
    apply_whitelist _ valid.listed, foldl_insert_members, List.foldl_cons,
    apply_emergency _ valid.emergency, List.foldl_nil]

/-- Valid settings are found again in the file that was written for them. -/
theorem parse_render {settings : Settings} (valid : settings.Valid) :
    parse settings.render = settings := by
  rw [parse, render, String.toList_ofList, filterMap_ofLine?_lines (entries_plain valid),
    foldl_apply_entries valid]

/-- Settings with any texts in them are found again in the file that was written for them exactly if
their names are upper names and their numbers phone numbers. Such are the settings that are read
from any text, so that they are found again once they are written. -/
theorem parse_render_iff :
    (∀ settings : Settings, parse settings.render = settings ↔ settings.Valid) ∧
      ∀ text : String, (parse text).Valid ∧ parse (parse text).render = parse text := by
  refine ⟨fun settings => ⟨fun same => ?_, parse_render⟩, fun text => ?_⟩
  · rw [← same]
    exact parse_valid _
  · exact ⟨parse_valid text, parse_render (parse_valid text)⟩

end Settings

end HeatingHub
