import HeatingHub.Name
import HeatingHub.Text.Blank
import Mathlib.Tactic.Lemma

/-!
# Letters and blanks

How the classes of characters lie to each other, by their code points. Letters and digits are never
blank (`isBlank_of_isAlphanum`), and folding to upper case moves small letters only
(`upper_eq_self`).

A valid heater name in upper case is an *upper name*, a row of digits and capital letters
(`isUpperName_upper`); folding leaves it as it is (`upper_of_isUpperName`).
-/

namespace HeatingHub

/-- The names that a heater can have once they are in upper case: digits and capital letters, at
least one. -/
def isUpperName (name : List Char) : Bool :=
  !name.isEmpty && name.all fun c => c.isDigit || c.isUpper

namespace Text

/-- The codes of the digits. -/
lemma isDigit_iff {c : Char} : c.isDigit ↔ 48 ≤ c.toNat ∧ c.toNat ≤ 57 := by
  delta Char.isDigit
  simp [UInt32.le_iff_toNat_le, ← Char.toNat_val]

/-- The codes of the letters in upper case. -/
lemma isUpper_iff {c : Char} : c.isUpper ↔ 65 ≤ c.toNat ∧ c.toNat ≤ 90 := by
  delta Char.isUpper
  simp [UInt32.le_iff_toNat_le, ← Char.toNat_val]

/-- The codes of the letters in lower case. -/
lemma isLower_iff {c : Char} : c.isLower ↔ 97 ≤ c.toNat ∧ c.toNat ≤ 122 := by
  delta Char.isLower
  simp [UInt32.le_iff_toNat_le, ← Char.toNat_val]

/-- The codes of the letters and digits. -/
lemma isAlphanum_iff {c : Char} :
    c.isAlphanum ↔ (48 ≤ c.toNat ∧ c.toNat ≤ 57) ∨ (65 ≤ c.toNat ∧ c.toNat ≤ 90) ∨
      (97 ≤ c.toNat ∧ c.toNat ≤ 122) := by
  show (c.isUpper || c.isLower || c.isDigit) = true ↔ _
  rw [Bool.or_eq_true, Bool.or_eq_true, isDigit_iff, isUpper_iff, isLower_iff]
  omega

/-- The code points of blanks lie below those of the printed ASCII characters or above them all. -/
lemma toNat_of_isBlank {c : Char} (h : isBlank c) : c.toNat ≤ 32 ∨ 133 ≤ c.toNat := by
  have apart : ∀ range ∈ blankRanges, range.2 ≤ 32 ∨ 133 ≤ range.1 := by decide
  simp only [isBlank, List.any_eq_true, Bool.and_eq_true, decide_eq_true_eq] at h
  obtain ⟨range, mem, low, high⟩ := h
  have := apart range mem
  omega

/-- Letters and digits are not blank. -/
lemma isBlank_of_isAlphanum {c : Char} (h : c.isAlphanum) : isBlank c = false := by
  rw [isAlphanum_iff] at h
  rw [← Bool.not_eq_true]
  intro blank
  have := toNat_of_isBlank blank
  omega

/-- The code point of a character in upper case. -/
lemma toNat_toUpper (c : Char) :
    c.toUpper.toNat = if 97 ≤ c.toNat ∧ c.toNat ≤ 122 then c.toNat - 32 else c.toNat := by
  have inside : ('a'.val ≤ c.val ∧ c.val ≤ 'z'.val) ↔ (97 ≤ c.toNat ∧ c.toNat ≤ 122) := by
    simp [UInt32.le_iff_toNat_le, ← Char.toNat_val]
  delta Char.toUpper
  split
  · next h =>
    rw [if_pos (inside.1 h)]
    have := inside.1 h
    -- The letters are moved down by adding the complement of their distance.
    simp only [← Char.toNat_val, UInt32.toNat_add] at this ⊢
    have shift : ('A'.val - 'a'.val).toNat = 2 ^ 32 - 32 := rfl
    rw [shift]
    omega
  · next h => rw [if_neg fun within => h (inside.2 within)]

/-- A character that is no small letter is in upper case already. -/
lemma toUpper_of_not_isLower {c : Char} (h : c.isLower = false) : c.toUpper = c := by
  rw [← Char.toNat_inj, toNat_toUpper, if_neg]
  rw [← isLower_iff, h]
  exact Bool.false_ne_true

/-- A text without small letters is in upper case already. -/
lemma upper_eq_self {text : List Char} (h : ∀ c ∈ text, c.isLower = false) :
    upper text = text := by
  rw [upper, List.map_congr_left fun c mem => toUpper_of_not_isLower (h c mem), List.map_id']

/-- Digits have no case. -/
lemma upper_of_allDigits {text : List Char} (h : allDigits text) : upper text = text := by
  apply upper_eq_self
  intro c mem
  have digit := isDigit_iff.1 (List.all_eq_true.1 h c mem)
  rw [← Bool.not_eq_true, isLower_iff]
  omega

/-- Upper case twice is upper case once. -/
lemma toUpper_toUpper (c : Char) : c.toUpper.toUpper = c.toUpper := by
  apply toUpper_of_not_isLower
  rw [← Bool.not_eq_true, isLower_iff, toNat_toUpper]
  split <;> omega

/-- A list of characters in upper case stays so. -/
lemma upper_upper (text : List Char) : upper (upper text) = upper text := by
  rw [upper, upper, List.map_map]
  exact List.map_congr_left fun c _ => toUpper_toUpper c

/-- A text in upper case stays so. -/
lemma upperString_upperString (text : String) :
    upperString (upperString text) = upperString text := by
  rw [upperString, upperString, String.toList_ofList, upper_upper]

/-- Case does not matter to what is blank. -/
lemma isBlank_toUpper (c : Char) : isBlank c.toUpper = isBlank c := by
  cases small : c.isLower with
  | false => rw [toUpper_of_not_isLower small]
  | true =>
    rw [isLower_iff] at small
    rw [isBlank_of_isAlphanum, isBlank_of_isAlphanum]
    · rw [isAlphanum_iff]
      omega
    · rw [isAlphanum_iff, toNat_toUpper, if_pos small]
      omega

/-- Case does not matter to what is a letter or a digit. -/
lemma isAlphanum_toUpper (c : Char) : c.toUpper.isAlphanum = c.isAlphanum := by
  rw [Bool.eq_iff_iff, isAlphanum_iff, isAlphanum_iff, toNat_toUpper]
  split <;> omega

/-- A letter or digit in upper case is a digit or a capital letter. -/
lemma isUpper_toUpper {c : Char} (h : c.isAlphanum) :
    (c.toUpper.isDigit || c.toUpper.isUpper) = true := by
  rw [isAlphanum_iff] at h
  rw [Bool.or_eq_true, isDigit_iff, isUpper_iff, toNat_toUpper]
  split <;> omega

/-! ## Upper names -/

/-- A name in upper case is a name of a heater. -/
lemma isHeaterName_of_isUpperName {name : List Char} (h : isUpperName name) :
    isHeaterName name := by
  simp only [isUpperName, isHeaterName, allAlphanumeric, Bool.and_eq_true, List.all_eq_true] at h ⊢
  refine ⟨h.1, fun c mem => ?_⟩
  have := h.2 c mem
  rw [Bool.or_eq_true, isDigit_iff, isUpper_iff] at this
  rw [isAlphanum_iff]
  omega

/-- A valid heater name in upper case is an upper name. -/
lemma isUpperName_upper {name : List Char} (h : isHeaterName name) :
    isUpperName (upper name) := by
  simp only [isUpperName, isHeaterName, allAlphanumeric, upper, Bool.and_eq_true,
    List.all_eq_true] at h ⊢
  refine ⟨by simpa using h.1, fun c mem => ?_⟩
  obtain ⟨letter, typed, rfl⟩ := List.mem_map.1 mem
  exact isUpper_toUpper (h.2 letter typed)

/-- Names in upper case are valid exactly if they were before. -/
lemma isHeaterName_upper (name : List Char) : isHeaterName (upper name) = isHeaterName name := by
  have filled : (upper name).isEmpty = name.isEmpty := by cases name <;> rfl
  rw [isHeaterName, isHeaterName, filled, allAlphanumeric, allAlphanumeric, upper, List.all_map]
  simp only [Function.comp_def, isAlphanum_toUpper]

/-- Upper case does not change a name that is in upper case. -/
lemma upper_of_isUpperName {name : List Char} (h : isUpperName name) : upper name = name := by
  simp only [isUpperName, Bool.and_eq_true, List.all_eq_true] at h
  apply upper_eq_self
  intro c mem
  have large := h.2 c mem
  rw [Bool.or_eq_true, isDigit_iff, isUpper_iff] at large
  rw [← Bool.not_eq_true, isLower_iff]
  omega

/-- The name of a heater becomes one in upper case. -/
lemma isUpperName_upperString {name : String} (h : isHeaterName name.toList) :
    isUpperName (upperString name).toList := by
  rw [upperString, String.toList_ofList]
  exact isUpperName_upper h

/-- A text that is a name in upper case is not changed by upper case. -/
lemma upperString_of_isUpperName {name : String} (named : isUpperName name.toList) :
    upperString name = name := by
  rw [upperString, upper_of_isUpperName named, String.ofList_toList]

end Text

end HeatingHub
