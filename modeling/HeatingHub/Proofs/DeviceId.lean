import HeatingHub.Proofs.Frame.Message
import HeatingHub.Proofs.Text.Line

/-!
# The forms of a device id

An id is found again in its bytes, and in its written form (`read?_written`). It does not matter
whether the letters of the written form are small (`read?_upper`), nor which blanks stand around it
(`read?_blanks`).

Both forms have a fixed width, and what counts most comes first in them. So the ids, their bytes and
their written forms are in the same order: rows of the same length are compared by their first
parts, and by what follows if these are the same (`append_lt_append_iff`).
-/

namespace HeatingHub

/-! ## Numbers in letters of either case -/

namespace Text

/-- The case of a digit does not matter. -/
lemma digit?_toUpper (base : Nat) (c : Char) : digit? base c.toUpper = digit? base c := by
  cases small : c.isLower with
  | false => rw [toUpper_of_not_isLower small]
  | true =>
    have code := isLower_iff.1 small
    have moved : c.toUpper.toNat = c.toNat - 32 := by rw [toNat_toUpper, if_pos code]
    have digit : c.isDigit = false := by
      rw [← Bool.not_eq_true, isDigit_iff]
      omega
    have large : c.isUpper = false := by
      rw [← Bool.not_eq_true, isUpper_iff]
      omega
    have digit' : c.toUpper.isDigit = false := by
      rw [← Bool.not_eq_true, isDigit_iff]
      omega
    have large' : c.toUpper.isUpper = true := by
      rw [isUpper_iff]
      omega
    have value : c.toUpper.toNat - 'A'.toNat + 10 = c.toNat - 'a'.toNat + 10 := by
      have codes : 'A'.toNat = 65 ∧ 'a'.toNat = 97 := by decide
      omega
    simp only [digit?, digit, large, digit', large', small, value, Bool.false_eq_true, if_false,
      if_true]

/-- No other character becomes one in upper case that is no letter. -/
lemma toUpper_eq_iff {c d : Char} (letter : d.isUpper = false) (small : d.isLower = false) :
    c.toUpper = d ↔ c = d := by
  constructor
  · rintro rfl
    cases lower : c.isLower with
    | false => exact (toUpper_of_not_isLower lower).symm
    | true =>
      rw [isLower_iff] at lower
      rw [← Bool.not_eq_true, isUpper_iff, toNat_toUpper, if_pos lower] at letter
      omega
  · rintro rfl
    exact toUpper_of_not_isLower small

/-- A number without a sign is read digit by digit. -/
lemma readNat?_of_unsigned {c : Char} (unsigned : c ≠ '+') (base limit : Nat) (rest : List Char) :
    readNat? base limit (c :: rest) =
      (((c :: rest).mapM (digit? base)).map (ofDigits base)).filter (· ≤ limit) := by
  rw [readNat?]
  · exact if_neg Bool.false_ne_true
  · exact fun _ same => unsigned (List.cons.inj same).1

/-- It does not matter to a number whether its letters are small. -/
lemma readNat?_upper (base limit : Nat) (text : List Char) :
    readNat? base limit (upper text) = readNat? base limit text := by
  have digits (text : List Char) : (upper text).mapM (digit? base) = text.mapM (digit? base) := by
    rw [upper, List.mapM_map]
    exact congrArg (text.mapM ·) (funext (digit?_toUpper base))
  cases text with
  | nil => rfl
  | cons c rest =>
    by_cases signed : c = '+'
    · have empty : (upper rest).isEmpty = rest.isEmpty := by cases rest <;> rfl
      have sign : upper ('+' :: rest) = '+' :: upper rest := rfl
      rw [signed, sign, readNat?, readNat?, digits, empty]
    · have unsigned : c.toUpper ≠ '+' := mt (toUpper_eq_iff (by decide) (by decide)).1 signed
      have first : upper (c :: rest) = c.toUpper :: upper rest := rfl
      rw [first, readNat?_of_unsigned unsigned, readNat?_of_unsigned signed, ← first, digits]

end Text

/-! ## Rows in order -/

/-- Rows whose first parts have the same length are compared by these, and by what follows if these
are the same. -/
lemma append_lt_append_iff {α : Type} [LT α] {first first' : List α}
    (same : first.length = first'.length) (rest rest' : List α) :
    first ++ rest < first' ++ rest' ↔ first < first' ∨ first = first' ∧ rest < rest' := by
  induction first generalizing first' with
  | nil =>
    obtain rfl := List.eq_nil_of_length_eq_zero same.symm
    simp
  | cons a first ih =>
    cases first' with
    | nil => cases same
    | cons b first' =>
      rw [List.cons_append, List.cons_append, List.cons_lt_cons_iff, List.cons_lt_cons_iff,
        ih (Nat.succ.inj same), List.cons.injEq]
      tauto

namespace Bytes

variable {width number number' : Nat}

/-- Numbers that fit the width are equal if they are written with the same bytes. -/
lemma ofNat_inj (small : number < 256 ^ width) (small' : number' < 256 ^ width) :
    ofNat width number = ofNat width number' ↔ number = number' := by
  constructor
  · intro same
    have read := congrArg toNat same
    rwa [toNat_ofNat, toNat_ofNat, Nat.mod_eq_of_lt small, Nat.mod_eq_of_lt small'] at read
  · rintro rfl
    rfl

/-- Numbers are in the order of their bytes, the most significant byte first. -/
lemma reverse_ofNat_lt_iff (small : number < 256 ^ width) (small' : number' < 256 ^ width) :
    (ofNat width number).reverse < (ofNat width number').reverse ↔ number < number' := by
  induction width generalizing number number' with
  | zero =>
    rw [Nat.pow_zero, Nat.lt_one_iff] at small small'
    simp [small, small', ofNat]
  | succ width ih =>
    have high {number : Nat} (small : number < 256 ^ (width + 1)) : number / 256 < 256 ^ width :=
      Nat.div_lt_of_lt_mul (Nat.pow_succ' ▸ small)
    have low : [UInt8.ofNat number] < [UInt8.ofNat number'] ↔ number % 256 < number' % 256 := by
      rw [List.cons_lt_cons_iff, UInt8.lt_iff_toNat_lt, UInt8.toNat_ofNat', UInt8.toNat_ofNat']
      simp
    rw [ofNat, ofNat, List.reverse_cons, List.reverse_cons, append_lt_append_iff (by simp),
      ih (high small) (high small'), low, List.reverse_inj, ofNat_inj (high small) (high small')]
    omega

end Bytes

namespace DeviceId

/-! ## Digits -/

/-- A hexadecimal digit in upper case is read as its value. -/
lemma digit?_hexDigit : ∀ digit < 16, Text.digit? 16 (Nat.digitChar digit).toUpper = some digit := by
  decide

/-- Hexadecimal digits in upper case are ordered by their values. -/
lemma hexDigit_lt_iff : ∀ digit < 16, ∀ other < 16,
    (Nat.digitChar digit).toUpper < (Nat.digitChar other).toUpper ↔ digit < other := by
  decide

/-- Hexadecimal digits in upper case are equal if their values are. -/
lemma hexDigit_inj {digit other : Nat} (small : digit < 16) (small' : other < 16) :
    (Nat.digitChar digit).toUpper = (Nat.digitChar other).toUpper ↔ digit = other := by
  constructor
  · intro same
    have read := digit?_hexDigit digit small
    rw [same, digit?_hexDigit other small'] at read
    exact (Option.some.inj read).symm
  · rintro rfl
    rfl

/-- The two halves of a byte are values of hexadecimal digits. -/
lemma halves_lt (byte : UInt8) : byte.toNat / 16 < 16 ∧ byte.toNat % 16 < 16 := by
  have := byte.toNat_lt
  omega

/-- Bytes are in the order of their digits. -/
lemma hexPair_lt_iff (byte other : UInt8) : hexPair byte < hexPair other ↔ byte < other := by
  obtain ⟨high, low⟩ := halves_lt byte
  obtain ⟨high', low'⟩ := halves_lt other
  rw [hexPair, hexPair, List.cons_lt_cons_iff, List.cons_lt_cons_iff,
    hexDigit_lt_iff _ high _ high', hexDigit_lt_iff _ low _ low', hexDigit_inj high high',
    UInt8.lt_iff_toNat_lt]
  simp only [List.not_lt_nil, and_false, or_false]
  omega

/-- Bytes are equal if they are written with the same pair of digits. -/
lemma hexPair_inj (byte other : UInt8) : hexPair byte = hexPair other ↔ byte = other := by
  obtain ⟨high, low⟩ := halves_lt byte
  obtain ⟨high', low'⟩ := halves_lt other
  rw [hexPair, hexPair, List.cons.injEq, List.cons.injEq, hexDigit_inj high high',
    hexDigit_inj low low', ← UInt8.toNat_inj]
  simp only [and_true]
  omega

/-- The digits of a byte are read as the byte. -/
lemma readNat?_hexPair (byte : UInt8) :
    Text.readNat? 16 255 (hexPair byte) = some byte.toNat := by
  obtain ⟨high, low⟩ := halves_lt byte
  have unsigned : ∀ digit < 16, (Nat.digitChar digit).toUpper ≠ '+' := by decide
  have number : Text.ofDigits 16 [byte.toNat / 16, byte.toNat % 16] = byte.toNat := by
    rw [Text.ofDigits, List.foldl_cons, List.foldl_cons, List.foldl_nil]
    omega
  have fits : byte.toNat ≤ 255 := Nat.le_of_lt_succ byte.toNat_lt
  rw [hexPair, Text.readNat?_of_unsigned (unsigned _ high), List.mapM_cons, List.mapM_cons,
    digit?_hexDigit _ high, digit?_hexDigit _ low]
  simp [number, fits]

/-! ## The written form -/

/-- A pair of digits holds no blank. -/
lemma solid_hexPair (byte : UInt8) : Text.Solid (hexPair byte) := by
  obtain ⟨high, low⟩ := halves_lt byte
  have digits : ∀ digit < 16, Text.isBlank (Nat.digitChar digit).toUpper = false := by decide
  exact .cons (digits _ high) (.cons (digits _ low) fun _ mem => absurd mem List.not_mem_nil)

/-- A pair of digits holds no colon. -/
lemma colon_not_mem_hexPair (byte : UInt8) : ':' ∉ hexPair byte := by
  obtain ⟨high, low⟩ := halves_lt byte
  have digits : ∀ digit < 16, ':' ≠ (Nat.digitChar digit).toUpper := by decide
  rw [hexPair, List.mem_cons, List.mem_singleton]
  exact fun mem => mem.elim (digits _ high) (digits _ low)

/-- A written id holds no blank. -/
lemma solid_written (id : DeviceId) : Text.Solid id.written := by
  refine Text.solid_intercalate (by decide) fun pair mem => ?_
  obtain ⟨byte, -, rfl⟩ := List.mem_map.1 mem
  exact solid_hexPair byte

/-- Rows of bytes of the same length are in the order of their written forms. -/
lemma intercalate_lt_iff : ∀ {bytes others : List UInt8}, bytes.length = others.length →
    ([':'].intercalate (bytes.map hexPair) < [':'].intercalate (others.map hexPair) ↔
      bytes < others)
  | [], [], _ => by simp
  | [byte], [other], _ => by simp [hexPair_lt_iff, List.cons_lt_cons_iff]
  | byte :: next :: bytes, other :: next' :: others, same => by
    have rest := @intercalate_lt_iff (next :: bytes) (next' :: others) (Nat.succ.inj same)
    have width : (hexPair byte).length = (hexPair other).length := rfl
    -- Behind the first bytes stand a colon, the same on both sides, and the other bytes.
    have colon : ¬ ([':'] : List Char) < [':'] := by decide
    rw [List.map_cons, List.map_cons] at rest ⊢
    rw [List.map_cons, List.map_cons, List.cons_lt_cons_iff, List.intercalate_cons_cons,
      List.intercalate_cons_cons, List.append_assoc, List.append_assoc, append_lt_append_iff width,
      append_lt_append_iff rfl, hexPair_lt_iff, hexPair_inj, rest]
    simp only [colon, false_or, true_and]

/-- It does not matter whether the letters are small. -/
lemma read?_upper (text : List Char) : read? (Text.upper text) = read? text := by
  have colon (c : Char) : (c.toUpper == ':') = (c == ':') := by
    rw [Bool.eq_iff_iff, beq_iff_eq, beq_iff_eq, Text.toUpper_eq_iff (by decide) (by decide)]
  have numbers : Text.readNat? 16 255 ∘ Text.upper = Text.readNat? 16 255 :=
    funext (Text.readNat?_upper 16 255)
  rw [read?, read?, ← Text.upper_trim, Text.splitAt, Text.splitAt, Text.splitOnP_upper colon,
    List.mapM_map, numbers]

/-- It does not matter which blanks stand around a written form. -/
lemma read?_blanks {before behind : List Char} (h : ∀ c ∈ before, Text.isBlank c)
    (h' : ∀ c ∈ behind, Text.isBlank c) (text : List Char) :
    read? (before ++ text ++ behind) = read? text := by
  rw [read?, read?, Text.trim_blanks h h']

/-- An id is found again in its written form. -/
lemma read?_written (id : DeviceId) : read? id.written = some id := by
  have apart : ∀ pair ∈ id.toBytes.map hexPair, ':' ∉ pair := by
    intro pair mem
    obtain ⟨byte, -, rfl⟩ := List.mem_map.1 mem
    exact colon_not_mem_hexPair byte
  have filled : id.toBytes.map hexPair ≠ [] := by
    intro none
    have length := congrArg List.length none
    rw [List.length_map, Message.length_toBytes] at length
    cases length
  have numbers : (id.toBytes.map hexPair).mapM (Text.readNat? 16 255) =
      some (id.toBytes.map UInt8.toNat) := by
    rw [List.mapM_map, Function.comp_def, funext readNat?_hexPair]
    exact List.mapM_pure
  have bytes : (id.toBytes.map UInt8.toNat).map UInt8.ofNat = id.toBytes := by
    rw [List.map_map]
    refine (List.map_congr_left fun byte _ => ?_).trans (List.map_id _)
    exact UInt8.ofNat_toNat
  rw [read?, id.solid_written.trim_eq_self, written, Text.splitAt_intercalate apart filled, numbers]
  dsimp only
  rw [List.length_map, Message.length_toBytes, if_pos rfl, bytes, ofBytes_toBytes]

/-- An id is found again in its bytes, and in its written form, in letters of either case and with
blanks around it. Two ids are in the same order as their bytes and as their written forms, and if
they have one written form they are one id. -/
theorem forms_agree (id other : DeviceId) :
    ofBytes id.toBytes = id ∧
    (∀ before text behind, (∀ c ∈ before, Text.isBlank c) → (∀ c ∈ behind, Text.isBlank c) →
      Text.upper text = id.written → read? (before ++ text ++ behind) = some id) ∧
    (id.number < other.number ↔ id.toBytes < other.toBytes) ∧
    (id.number < other.number ↔ id.written < other.written) ∧
    (id.written = other.written → id = other) := by
  have width : 256 ^ 6 = count := by decide
  have bytes : id.toBytes < other.toBytes ↔ id.number < other.number :=
    Bytes.reverse_ofNat_lt_iff (width ▸ id.number_lt) (width ▸ other.number_lt)
  have texts : id.written < other.written ↔ id.toBytes < other.toBytes :=
    intercalate_lt_iff (by rw [Message.length_toBytes, Message.length_toBytes])
  refine ⟨ofBytes_toBytes id, fun before text behind blank blank' same => ?_, bytes.symm,
    (texts.trans bytes).symm, fun same => ?_⟩
  · rw [read?_blanks blank blank', ← read?_upper, same, read?_written]
  · have read := id.read?_written
    rw [same, other.read?_written] at read
    exact (Option.some.inj read).symm

/-- An id in small letters with a line break behind it, and one that comes after it by its last
byte. -/
theorem forms_agree_of_small_letters :
    let id : DeviceId := .ofNat 0x240AC4123456
    let other : DeviceId := .ofNat 0x240AC41234A0
    read? " 24:0a:c4:12:34:56\r\n".toList = some id ∧ id.number < other.number ∧
      id.toBytes < other.toBytes ∧ id.written < other.written := by
  intro id other
  obtain ⟨-, read, bytes, texts, -⟩ := forms_agree id other
  have before : id.number < other.number := by decide
  have space : ∀ c ∈ [' '], Text.isBlank c := List.forall_mem_singleton.2 (by decide)
  have lineBreak : ∀ c ∈ ['\r', '\n'], Text.isBlank c :=
    List.forall_mem_cons.2 ⟨by decide, List.forall_mem_singleton.2 (by decide)⟩
  exact ⟨read [' '] "24:0a:c4:12:34:56".toList ['\r', '\n'] space lineBreak (by decide +kernel),
    before, bytes.1 before, texts.1 before⟩

end DeviceId

end HeatingHub
