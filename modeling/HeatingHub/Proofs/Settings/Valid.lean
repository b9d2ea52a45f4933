import HeatingHub.Proofs.Text.Letter
import HeatingHub.Settings.Reader

/-!
# Valid settings

Settings are valid when the state file can hold them: the names are upper names and the numbers are
phone numbers. Whatever stands in a file, the settings read from it are valid (`parse_valid`), since
each entry keeps validity (`apply_valid`).
-/

namespace HeatingHub.Settings

/-- The names are upper names, and the numbers are phone numbers. -/
structure Valid (settings : Settings) : Prop where
  names : ∀ name ∈ settings.overrides, isUpperName name.toList
  numbers : ∀ number ∈ settings.whitelist, isPhoneNumber number.toList
  emergency : ∀ number, settings.emergency = some number → isPhoneNumber number.toList

/-- The settings without any entry are valid. -/
lemma default_valid : Valid {} where
  names _ mem := absurd mem Std.ExtTreeMap.not_mem_empty
  numbers _ mem := absurd mem Std.ExtTreeSet.not_mem_empty
  emergency := nofun

/-- Valid overrides stay valid when one more is set. -/
lemma names_insert {overrides : Overrides} {name : String} (mode : Mode)
    (valid : ∀ name : String, name ∈ overrides → isUpperName name.toList)
    (h : isUpperName name.toList) :
    ∀ other : String, other ∈ overrides.insert name mode → isUpperName other.toList := by
  intro other mem
  rw [Std.ExtTreeMap.mem_insert, Std.LawfulEqCmp.compare_eq_iff_eq] at mem
  cases mem with
  | inl same => exact same ▸ h
  | inr mem => exact valid other mem

/-- Valid numbers stay valid when one more is put to them. -/
lemma numbers_insert {whitelist : Std.ExtTreeSet String} {number : String}
    (valid : ∀ number : String, number ∈ whitelist → isPhoneNumber number.toList)
    (h : isPhoneNumber number.toList) :
    ∀ other : String, other ∈ whitelist.insert number → isPhoneNumber other.toList := by
  intro other mem
  rw [Std.ExtTreeSet.mem_insert, Std.LawfulEqCmp.compare_eq_iff_eq] at mem
  cases mem with
  | inl same => exact same ▸ h
  | inr mem => exact valid other mem

/-- The numbers of an entry are phone numbers, and the whitelist stays valid with all of them. -/
lemma numbers_foldl {whitelist : Std.ExtTreeSet String} {numbers : List (List Char)}
    (valid : ∀ number : String, number ∈ whitelist → isPhoneNumber number.toList)
    (h : ∀ number ∈ numbers, isPhoneNumber number) :
    ∀ other : String,
      other ∈ numbers.foldl (fun whitelist number => whitelist.insert (String.ofList number))
        whitelist → isPhoneNumber other.toList := by
  induction numbers generalizing whitelist with
  | nil => exact valid
  | cons number numbers ih =>
    apply ih
    · apply numbers_insert valid
      rw [String.toList_ofList]
      exact h number List.mem_cons_self
    · exact fun other mem => h other (List.mem_cons_of_mem _ mem)

/-- To apply an entry keeps settings valid. -/
lemma apply_valid {settings : Settings} (valid : settings.Valid) (entry : Entry) :
    (settings.apply entry).Valid := by
  rw [apply]
  split
  · exact { valid with }
  · split
    · split
      · next name _ named =>
        refine { valid with names := names_insert _ valid.names ?_ }
        rw [String.toList_ofList]
        exact Text.isUpperName_upper named
      · exact valid
    · split
      · exact { valid with
          numbers := numbers_foldl valid.numbers fun number mem => (List.mem_filter.1 mem).2 }
      · split
        · split
          · exact { valid with emergency := nofun }
          · split
            · next phone =>
              refine { valid with emergency := fun number same => ?_ }
              rw [← Option.some.inj same, String.toList_ofList]
              exact phone
            · exact valid
        · exact valid

/-- The settings that a text describes are valid, whatever the text. -/
lemma parse_valid (text : String) : (parse text).Valid := by
  rw [parse]
  generalize (Text.lines text.toList).filterMap Entry.ofLine? = entries
  suffices h : ∀ settings : Settings, settings.Valid → (entries.foldl apply settings).Valid from
    h {} default_valid
  induction entries with
  | nil => exact fun _ valid => valid
  | cons entry entries ih => exact fun _ valid => ih _ (apply_valid valid entry)

end HeatingHub.Settings
