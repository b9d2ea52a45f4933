import HeatingHub.Fleet
import HeatingHub.Proofs.Text.Letter

/-!
# The modes of a fleet

Of all that a fleet holds, only its modes are settings: the default mode and the overrides. The
changes to the modes say truly whether they changed anything (`setAll_changed`,
`setOverride_changed`), and the bookkeeping on devices never changes them (`request_modes`,
`sweepLost_modes`). Which mode a name has after a change depends on the name alone (`modeOf_setAll`,
`modeOf_setOverride`), and a mass command leaves no other mode anywhere (`setAll_uniform`).
-/

namespace HeatingHub

/-! ## Overrides -/

/-- What is found in a map after an insertion. -/
lemma getElem?_insert_eq {α β : Type} [Ord α] [Std.TransOrd α] [Std.LawfulEqOrd α] [DecidableEq α]
    (map : Std.ExtTreeMap α β) (key other : α) (value : β) :
    (map.insert key value)[other]? = if other = key then some value else map[other]? := by
  rw [Std.ExtTreeMap.getElem?_insert]
  by_cases same : other = key
  · rw [same, if_pos Std.ReflCmp.compare_self, if_pos rfl]
  · rw [if_neg fun equal => same (Std.LawfulEqCmp.eq_of_compare equal).symm, if_neg same]

/-- Setting the mode that a name has already changes nothing. -/
lemma insert_eq_self {overrides : Overrides} {name : String} {mode : Mode}
    (h : overrides[name]? = some mode) : overrides.insert name mode = overrides := by
  apply Std.ExtTreeMap.ext_getElem?
  intro other
  rw [getElem?_insert_eq]
  split
  · next same => rw [same, h]
  · rfl

/-- A test of some override is a test of some entry. -/
lemma any_toList (overrides : Overrides) (test : String → Mode → Bool) :
    overrides.any test = overrides.toList.any fun entry => test entry.1 entry.2 := by
  -- The library has no lemma for this test, so that it is put back into the loop that it is.
  have loop : overrides.any test = Id.run do
      for entry in overrides do
        if test entry.1 entry.2 then return true
      return false := by
    obtain ⟨entries⟩ := overrides
    induction entries using Std.ExtDTreeMap.inductionOn with
    | mk entries => rfl
  rw [loop, Std.ExtTreeMap.forIn_eq_forIn_toList]
  induction overrides.toList with
  | nil => rfl
  | cons entry entries ih =>
    rw [List.any_cons, ← ih]
    cases h : test entry.1 entry.2 <;> simp [h]

/-- Setting one mode for all names changes nothing exactly when all of them have it. -/
lemma map_eq_self_iff (overrides : Overrides) (mode : Mode) :
    overrides.map (fun _ _ => mode) = overrides ↔
      overrides.any (fun _ old => old ≠ mode) = false := by
  rw [any_toList, List.any_eq_false]
  constructor
  · intro same entry mem
    have found := Std.ExtTreeMap.mem_toList_iff_getElem?_eq_some.1 mem
    rw [← same, Std.ExtTreeMap.getElem?_map, Option.map_eq_some_iff] at found
    obtain ⟨_, _, rfl⟩ := found
    simp
  · intro uniform
    apply Std.ExtTreeMap.ext_getElem?
    intro name
    rw [Std.ExtTreeMap.getElem?_map]
    cases found : overrides[name]? with
    | none => rfl
    | some old =>
      have alike := uniform (name, old) (Std.ExtTreeMap.mem_toList_iff_getElem?_eq_some.2 found)
      have same : old = mode := by simpa using alike
      rw [Option.map_some, same]

namespace Fleet

/-! ## Changes to the modes -/

/-- The modes of a fleet: its part of the settings. -/
def modes (fleet : Fleet) : Mode × Overrides :=
  (fleet.defaultMode, fleet.overrides)

/-- A mass command says that it changed something exactly when it changed the modes. -/
lemma setAll_changed (fleet : Fleet) (mode : Mode) :
    (fleet.setAll mode).1 ↔ (fleet.setAll mode).2.modes ≠ fleet.modes := by
  have same : (fleet.setAll mode).2.modes = fleet.modes ↔
      fleet.defaultMode = mode ∧ fleet.overrides.any (fun _ old => old ≠ mode) = false := by
    rw [← map_eq_self_iff, eq_comm (a := fleet.defaultMode)]
    exact Prod.mk.injEq _ _ _ _ ▸ Iff.rfl
  rw [Ne, same, Classical.not_and_iff_not_or_not, Bool.not_eq_false, setAll, Bool.or_eq_true,
    decide_eq_true_eq]

/-- The overrides after the mode of one heater was set, whether or not that changed anything. -/
lemma setOverride_overrides (fleet : Fleet) (name : String) (mode : Mode) :
    (fleet.setOverride name mode).2.overrides =
      fleet.overrides.insert (Text.upperString name) mode := by
  rw [setOverride]
  split
  · next same => exact (insert_eq_self same).symm
  · rfl

/-- An override keeps the default. -/
lemma setOverride_defaultMode (fleet : Fleet) (name : String) (mode : Mode) :
    (fleet.setOverride name mode).2.defaultMode = fleet.defaultMode := by
  rw [setOverride]
  split <;> rfl

/-- A command for one heater says that it changed something exactly when it changed the modes. -/
lemma setOverride_changed (fleet : Fleet) (name : String) (mode : Mode) :
    (fleet.setOverride name mode).1 ↔ (fleet.setOverride name mode).2.modes ≠ fleet.modes := by
  have modes : (fleet.setOverride name mode).2.modes =
      (fleet.defaultMode, fleet.overrides.insert (Text.upperString name) mode) := by
    rw [Fleet.modes, setOverride_defaultMode, setOverride_overrides]
  rw [modes, setOverride]
  split
  · next same =>
    rw [insert_eq_self same]
    exact ⟨nofun, fun other => absurd rfl other⟩
  · next other =>
    refine ⟨fun _ same => other ?_, fun _ => rfl⟩
    rw [← (Prod.mk.inj same).2, Std.ExtTreeMap.getElem?_insert_self]

/-! ## Bookkeeping -/

/-- A request changes no mode that is set. -/
lemma request_modes (fleet : Fleet) (id : DeviceId) (name : Option String) (counter : UInt64)
    (address : Option String) (wall : Int) :
    (fleet.request id name counter address wall).2.modes = fleet.modes :=
  rfl

/-- A sweep for lost devices changes no mode that is set. -/
lemma sweepLost_modes (fleet : Fleet) (wall : Int) (threshold : Nat) :
    (fleet.sweepLost wall threshold).2.modes = fleet.modes :=
  rfl

/-! ## Modes of names -/

/-- The mode of a name depends on the modes that are set only. -/
lemma modeOf_congr {fleet next : Fleet} (h : next.modes = fleet.modes) (who : Option String) :
    next.modeOf who = fleet.modeOf who := by
  obtain ⟨default, overrides⟩ := Prod.mk.inj h
  cases who <;> simp only [modeOf, default, overrides]

/-- The mode for the name of a record depends on the modes that are set only. -/
lemma modeOfRecorded_congr {fleet next : Fleet} (same : next.modes = fleet.modes)
    (name : Option String) : next.modeOfRecorded name = fleet.modeOfRecorded name := by
  obtain ⟨default, overrides⟩ := Prod.mk.inj same
  cases name <;> simp only [modeOfRecorded, default, overrides]

/-- The case of a name does not matter to its mode. -/
lemma modeOf_upperString (fleet : Fleet) (name : String) :
    fleet.modeOf (some (Text.upperString name)) = fleet.modeOf (some name) := by
  rw [modeOf, modeOf, Text.upperString_upperString]

/-- Where all names have one mode, no other is found, and it may as well be the default. -/
lemma getD_map_const (overrides : Overrides) (mode : Mode) (name : String) :
    (overrides.map fun _ _ => mode)[name]?.getD mode = mode := by
  rw [Std.ExtTreeMap.getElem?_map]
  cases overrides[name]? <;> rfl

/-- After a mass command every name has its mode. -/
lemma modeOf_setAll (fleet : Fleet) (mode : Mode) (who : Option String) :
    (fleet.setAll mode).2.modeOf who = mode := by
  cases who with
  | none => rfl
  | some name => exact getD_map_const _ _ _

/-- All that has a mode has this one, and the names with a mode of their own are the same. -/
structure Uniform (fleet : Fleet) (mode : Mode) (next : Fleet) : Prop where
  default : next.defaultMode = mode
  modes (who : Option String) : next.modeOf who = mode
  records (id : DeviceId) (record : Record) : next.records[id]? = some record → record.mode = mode
  names (name : String) : name ∈ next.overrides ↔ name ∈ fleet.overrides

/-- After a mass command the default, every name and every record have its mode. -/
lemma setAll_uniform (fleet : Fleet) (mode : Mode) :
    fleet.Uniform mode (fleet.setAll mode).2 where
  default := rfl
  modes := fleet.modeOf_setAll mode
  records id record found := by
    rw [setAll, refresh, Std.ExtTreeMap.getElem?_map, Option.map_eq_some_iff] at found
    obtain ⟨⟨name, _, _, _⟩, -, rfl⟩ := found
    cases name with
    | none => rfl
    | some name => exact getD_map_const _ _ _
  names name := Std.ExtTreeMap.mem_map

/-- An override changes the mode of its own name only. -/
lemma modeOf_setOverride (fleet : Fleet) {name : String} (named : isUpperName name.toList)
    (mode : Mode) (who : Option String) (asked : who.all (isUpperName ·.toList)) :
    (fleet.setOverride name mode).2.modeOf who =
      if who = some name then mode else fleet.modeOf who := by
  cases who with
  | none => rw [modeOf, setOverride_defaultMode, if_neg nofun, modeOf]
  | some other =>
    rw [modeOf, setOverride_defaultMode, setOverride_overrides, modeOf,
      Text.upperString_of_isUpperName named, Text.upperString_of_isUpperName asked,
      getElem?_insert_eq]
    by_cases same : other = name
    · rw [if_pos same, if_pos (congrArg some same), Option.getD_some]
    · rw [if_neg same, if_neg (mt Option.some.inj same)]

end Fleet

end HeatingHub
