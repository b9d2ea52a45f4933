import HeatingHub.Proofs.Text.Cut

/-!
# Cutting byte by byte

Who holds a text as bytes looks for a place to cut with an index that moves from byte to byte until
it stands at a *boundary*, where a character begins or the text ends, and takes the part of the text
before the index or behind it. There is no such part if the index is out of range or inside a
character, and then what is defined here has no result.

That never happens (`truncate?_eq`, `tail?_eq`, `chunks?_eq`): the indices find boundaries, and cut
the text into the very parts that `keepFirst`, `keepLast` and `pieces` make of it. Nor does it happen
where a character is looked for from one end: the byte at which it is found is the width of what
stands before it (`firstAt?_append_cons`, `lastAt?_append_cons`).
-/

namespace HeatingHub.Text

/-- A character begins at this byte, or the text ends before it. -/
def isBoundary (text : String) (index : Nat) : Bool :=
  (⟨index⟩ : String.Pos.Raw).isValid text

/-- The place of a boundary in its text. -/
def place {text : String} {index : Nat} (h : isBoundary text index) : text.Pos :=
  text.pos ⟨index⟩ (String.Pos.Raw.isValid_eq_true_iff.1 h)

/-- The part of a text before a byte. -/
def partTo? (text : String) (index : Nat) : Option String :=
  if h : isBoundary text index then some (text.sliceTo (place h)).copy else none

/-- The part of a text from a byte on. -/
def partFrom? (text : String) (index : Nat) : Option String :=
  if h : isBoundary text index then some (text.sliceFrom (place h)).copy else none

/-- The part of a text from a byte on and before another. -/
def part? (text : String) (first last : Nat) : Option String :=
  (partTo? text last).bind (partFrom? · first)

/-- The byte at which a character stands first in a text. -/
def firstAt? (c : Char) : List Char → Option Nat
  | [] => none
  | d :: rest => if d = c then some 0 else (firstAt? c rest).map (d.utf8Size + ·)

/-- The byte at which a character stands last in a text. -/
def lastAt? (c : Char) : List Char → Option Nat
  | [] => none
  | d :: rest =>
    match lastAt? c rest with
    | some index => some (d.utf8Size + index)
    | none => if d = c then some 0 else none

/-- The index at which one stands that goes back byte by byte, as far as a boundary. -/
def goBack? (text : String) : Nat → Option Nat
  | 0 => if isBoundary text 0 then some 0 else none
  | index + 1 => if isBoundary text (index + 1) then some (index + 1) else goBack? text index

/-- The index at which one stands that goes on byte by byte, as far as a boundary. -/
def goOn? (text : String) (index : Nat) : Option Nat :=
  if isBoundary text index then some index
  else if index < text.utf8ByteSize then goOn? text (index + 1) else none
termination_by text.utf8ByteSize - index

/-- At most the first `limit` bytes of a text. -/
def truncate? (limit : Nat) (text : String) : Option String :=
  if text.utf8ByteSize ≤ limit then some text else (goBack? text limit).bind (partTo? text)

/-- At most the last `limit` bytes of a text. -/
def tail? (limit : Nat) (text : String) : Option String :=
  if text.utf8ByteSize ≤ limit then some text
  else (goOn? text (text.utf8ByteSize - limit)).bind (partFrom? text)

/-- The first chunk of a text, at most `limit` bytes or the first character if it is wider. -/
def chunk? (limit : Nat) (text : String) : Option String :=
  (truncate? limit text).bind fun head =>
    if head.isEmpty then partTo? text (text.toList.head?.elim text.utf8ByteSize Char.utf8Size)
    else some head

/-! ## Boundaries -/

/-- A boundary is the width of a start of the text. -/
lemma isBoundary_iff {text : String} {index : Nat} :
    isBoundary text index ↔ ∃ first rest, text = first ++ rest ∧ index = first.utf8ByteSize := by
  rw [isBoundary, String.Pos.Raw.isValid_eq_true_iff, String.Pos.Raw.isValid_iff_exists_append]
  simp [String.Pos.Raw.ext_iff]

section

variable (first rest : String)

/-- Between two parts of a text there is a boundary. -/
lemma isBoundary_append : isBoundary (first ++ rest) first.utf8ByteSize :=
  isBoundary_iff.2 ⟨first, rest, rfl, rfl⟩

/-- At the boundary between two parts the text splits into them. -/
lemma place_splits : (place (isBoundary_append first rest)).Splits first rest :=
  ⟨rfl, rfl⟩

/-- Up to the boundary between two parts stands the first one. -/
lemma partTo?_append : partTo? (first ++ rest) first.utf8ByteSize = some first := by
  rw [partTo?, dif_pos (isBoundary_append first rest), (place_splits first rest).copy_sliceTo_eq]

/-- From the boundary between two parts on stands the second one. -/
lemma partFrom?_append : partFrom? (first ++ rest) first.utf8ByteSize = some rest := by
  rw [partFrom?, dif_pos (isBoundary_append first rest),
    (place_splits first rest).copy_sliceFrom_eq]

/-- Between two boundaries stands the part in the middle. -/
lemma part?_append (middle : String) :
    part? (first ++ middle ++ rest) first.utf8ByteSize (first ++ middle).utf8ByteSize =
      some middle := by
  rw [part?, partTo?_append, Option.bind_some, partFrom?_append]

end

/-! ## Indices -/

/-- Whoever goes back stops at the last boundary on the way. -/
lemma goBack?_eq {first rest : String} {index : Nat} (before : first.utf8ByteSize ≤ index)
    (none : ∀ other, first.utf8ByteSize < other → other ≤ index →
      isBoundary (first ++ rest) other = false) :
    goBack? (first ++ rest) index = some first.utf8ByteSize := by
  induction index with
  | zero =>
    have zero : first.utf8ByteSize = 0 := Nat.le_zero.1 before
    have here := isBoundary_append first rest
    rw [zero] at here
    rw [goBack?, if_pos here, zero]
  | succ index ih =>
    rw [goBack?]
    obtain here | further := Nat.eq_or_lt_of_le before
    · rw [← here, if_pos (isBoundary_append first rest)]
    · rw [none _ further (Nat.le_refl _), if_neg Bool.false_ne_true]
      exact ih (Nat.le_of_lt_succ further) fun other above below =>
        none other above (Nat.le_succ_of_le below)

/-- Whoever goes on stops at the first boundary on the way. -/
lemma goOn?_eq {first rest : String} {index : Nat} (behind : index ≤ first.utf8ByteSize)
    (none : ∀ other, index ≤ other → other < first.utf8ByteSize →
      isBoundary (first ++ rest) other = false) :
    goOn? (first ++ rest) index = some first.utf8ByteSize := by
  rw [goOn?]
  obtain rfl | further := Nat.eq_or_lt_of_le behind
  · rw [if_pos (isBoundary_append first rest)]
  · have inside : index < (first ++ rest).utf8ByteSize := by
      rw [String.utf8ByteSize_append]
      omega
    rw [none index (Nat.le_refl _) further, if_neg Bool.false_ne_true, if_pos inside]
    exact goOn?_eq further fun other above => none other (Nat.le_of_succ_le above)
termination_by first.utf8ByteSize - index

section

variable {c : Char} {before behind : List Char}

/-- A character is first found behind a part that it is not in. -/
lemma firstAt?_append_cons (h : c ∉ before) (behind : List Char) :
    firstAt? c (before ++ c :: behind) = some (width before) := by
  induction before with
  | nil => exact if_pos rfl
  | cons d before ih =>
    obtain ⟨other, h⟩ := not_or.1 (mt List.mem_cons.2 h)
    rw [List.cons_append, firstAt?, if_neg (Ne.symm other), ih h]
    rfl

/-- A character that is not in a text has no first place. -/
lemma firstAt?_of_not_mem {text : List Char} (h : c ∉ text) : firstAt? c text = none := by
  induction text with
  | nil => rfl
  | cons d text ih =>
    obtain ⟨other, h⟩ := not_or.1 (mt List.mem_cons.2 h)
    rw [firstAt?, if_neg (Ne.symm other), ih h]
    rfl

/-- A character that is not in a text has no last place. -/
lemma lastAt?_of_not_mem {text : List Char} (h : c ∉ text) : lastAt? c text = none := by
  induction text with
  | nil => rfl
  | cons d text ih =>
    obtain ⟨other, h⟩ := not_or.1 (mt List.mem_cons.2 h)
    rw [lastAt?, ih h]
    exact if_neg (Ne.symm other)

/-- A character is last found before a part that it is not in. -/
lemma lastAt?_append_cons (before : List Char) (h : c ∉ behind) :
    lastAt? c (before ++ c :: behind) = some (width before) := by
  induction before with
  | nil =>
    rw [List.nil_append, lastAt?, lastAt?_of_not_mem h]
    exact if_pos rfl
  | cons d before ih =>
    rw [List.cons_append, lastAt?, ih]
    rfl

end

/-! ## Cuts -/

/-- The size of a text is the width of its characters. -/
lemma utf8ByteSize_eq (text : String) : text.utf8ByteSize = width text.toList := by
  rw [← utf8ByteSize_ofList, String.ofList_toList]

/-- The characters of a first part are a start of those of the whole. -/
lemma toList_isPrefix {text first rest : String} (whole : text = first ++ rest) :
    first.toList <+: text.toList :=
  ⟨rest.toList, by rw [whole, String.toList_append]⟩

/-- The characters of a last part are an end of those of the whole. -/
lemma toList_isSuffix {text first rest : String} (whole : text = first ++ rest) :
    rest.toList <:+ text.toList :=
  ⟨first.toList, by rw [whole, String.toList_append]⟩

/-- The first bytes of a text are cut off where `keepFirst` ends. -/
theorem truncate?_eq (limit : Nat) (text : String) :
    truncate? limit text = some (String.ofList (keepFirst limit text.toList)) := by
  have longest := keepFirst_longest limit text.toList
  rw [truncate?]
  split
  · next fits =>
    rw [utf8ByteSize_eq] at fits
    have whole := longest.longest (List.prefix_refl _) fits
    rw [longest.starts.eq_of_length_le whole.length_le, String.ofList_toList]
  · obtain ⟨rest, whole⟩ := longest.starts
    obtain ⟨first, kept⟩ : ∃ first : String, first.toList = keepFirst limit text.toList :=
      ⟨_, String.toList_ofList⟩
    have parts : text = first ++ String.ofList rest := by
      rw [← String.toList_inj, String.toList_append, kept, String.toList_ofList, whole]
    rw [← kept, String.ofList_toList]
    rw [← kept] at longest
    have before : first.utf8ByteSize ≤ limit := by
      rw [utf8ByteSize_eq]
      exact longest.fits
    rw [parts] at longest ⊢
    rw [goBack?_eq before, Option.bind_some, partTo?_append]
    intro other above below
    -- A boundary further on would make a longer start that fits.
    by_contra boundary
    obtain ⟨start, behind, same, rfl⟩ := isBoundary_iff.1 (Bool.of_not_eq_false boundary)
    rw [utf8ByteSize_eq] at above below
    have shorter := longest.longest (toList_isPrefix same) below
    rw [utf8ByteSize_eq] at above
    exact Nat.not_le.2 above (width_le_of_isPrefix shorter)

/-- The last bytes of a text are cut off where `keepLast` begins. -/
theorem tail?_eq (limit : Nat) (text : String) :
    tail? limit text = some (String.ofList (keepLast limit text.toList)) := by
  have longest := keepLast_longest limit text.toList
  rw [tail?]
  split
  · next fits =>
    rw [utf8ByteSize_eq] at fits
    have whole := longest.longest (List.suffix_refl _) fits
    rw [longest.ends.eq_of_length_le whole.length_le, String.ofList_toList]
  · obtain ⟨start, whole⟩ := longest.ends
    obtain ⟨last, kept⟩ : ∃ last : String, last.toList = keepLast limit text.toList :=
      ⟨_, String.toList_ofList⟩
    have parts : text = String.ofList start ++ last := by
      rw [← String.toList_inj, String.toList_append, kept, String.toList_ofList, whole]
    rw [← kept, String.ofList_toList]
    rw [← kept] at longest
    have sizes : (String.ofList start ++ last).utf8ByteSize =
        (String.ofList start).utf8ByteSize + last.utf8ByteSize := String.utf8ByteSize_append
    have small : last.utf8ByteSize ≤ limit := by
      rw [utf8ByteSize_eq]
      exact longest.fits
    rw [parts] at longest ⊢
    rw [goOn?_eq (by omega), Option.bind_some, partFrom?_append]
    intro other above below
    -- A boundary before this one would make a longer end that fits.
    by_contra boundary
    obtain ⟨first, behind, same, rfl⟩ := isBoundary_iff.1 (Bool.of_not_eq_false boundary)
    have sizes' : (String.ofList start ++ last).utf8ByteSize =
        first.utf8ByteSize + behind.utf8ByteSize := by
      rw [same, String.utf8ByteSize_append]
    have room : width behind.toList ≤ limit := by
      rw [← utf8ByteSize_eq]
      omega
    have shorter := width_le_of_isSuffix (longest.longest (toList_isSuffix same) room)
    rw [← utf8ByteSize_eq, ← utf8ByteSize_eq] at shorter
    omega

/-- What begins at a byte is the rest behind what ends there. -/
lemma partFrom?_eq_some {text rest : String} {index : Nat} (h : partFrom? text index = some rest) :
    text.utf8ByteSize = index + rest.utf8ByteSize := by
  rw [partFrom?] at h
  split at h
  · next boundary =>
    obtain ⟨first, behind, rfl, rfl⟩ := isBoundary_iff.1 boundary
    have same := partFrom?_append first behind
    rw [partFrom?, dif_pos boundary, h] at same
    rw [Option.some.inj same, String.utf8ByteSize_append]
  · cases h

/-- The first chunk is the first piece. -/
lemma chunk?_cons (limit : Nat) (c : Char) (rest : List Char) :
    chunk? limit (String.ofList (c :: rest)) =
      some (String.ofList (c :: keepFirst (limit - c.utf8Size) rest)) := by
  rw [chunk?, truncate?_eq, Option.bind_some, String.toList_ofList, keepFirst]
  by_cases fits : c.utf8Size ≤ limit
  · have filled : (String.ofList (c :: keepFirst (limit - c.utf8Size) rest)).isEmpty = false := by
      simp
    rw [if_pos fits, filled, if_neg Bool.false_ne_true]
  · have alone : limit - c.utf8Size = 0 := Nat.sub_eq_zero_of_le (Nat.le_of_not_le fits)
    have width : (String.ofList [c]).utf8ByteSize = c.utf8Size := by
      rw [utf8ByteSize_ofList]
      rfl
    rw [if_neg fits, alone, keepFirst_zero, if_pos (by rfl), List.head?_cons, Option.elim_some,
      ← width, ← List.singleton_append, String.ofList_append, partTo?_append]

/-- A text that is not empty has a first character. -/
lemma exists_cons {text : String} (some : text ≠ "") :
    ∃ c rest, text = String.ofList (c :: rest) := by
  cases chars : text.toList with
  | nil => exact absurd (String.toList_eq_nil_iff.1 chars) some
  | cons c rest => exact ⟨c, rest, by rw [← chars, String.ofList_toList]⟩

/-- The first chunk of a text that is not empty is not empty. -/
lemma chunk?_pos {limit : Nat} {text head : String} (some : text ≠ "")
    (first : chunk? limit text = .some head) : 0 < head.utf8ByteSize := by
  obtain ⟨c, rest, rfl⟩ := exists_cons some
  rw [chunk?_cons] at first
  cases first
  rw [utf8ByteSize_ofList]
  exact width_pos (List.cons_ne_nil _ _)

/-- All chunks of a text, one after the other. -/
def chunks? (limit : Nat) (text : String) : Option (List String) :=
  if text = "" then some []
  else
    match _first : chunk? limit text with
    | none => none
    | some head =>
      match _behind : partFrom? text head.utf8ByteSize with
      | none => none
      | some rest => (chunks? limit rest).map (head :: ·)
termination_by text.utf8ByteSize
decreasing_by
  next filled =>
    have sizes := partFrom?_eq_some _behind
    have size := chunk?_pos filled _first
    omega

/-- The chunks of a text are the first one and those of the rest. -/
lemma chunks?_append {limit : Nat} {head rest : String} (some : head ++ rest ≠ "")
    (first : chunk? limit (head ++ rest) = .some head) :
    chunks? limit (head ++ rest) = (chunks? limit rest).map (head :: ·) := by
  have behind := partFrom?_append head rest
  rw [chunks?, if_neg some]
  split
  · next none => cases first.symm.trans none
  · next other found =>
    cases first.symm.trans found
    split
    · next none => cases behind.symm.trans none
    · next other found =>
      cases behind.symm.trans found
      rfl

/-- The chunks of a text are its pieces. -/
theorem chunks?_eq (limit : Nat) (text : String) :
    chunks? limit text = some ((pieces limit text.toList).map String.ofList) := by
  obtain ⟨chars, rfl⟩ : ∃ chars, text = String.ofList chars := ⟨_, String.ofList_toList.symm⟩
  rw [String.toList_ofList]
  fun_induction pieces limit chars with
  | case1 => rw [String.ofList_nil, chunks?, if_pos rfl, List.map_nil]
  | case2 c rest others ih =>
    have first := chunk?_cons limit c rest
    have whole : c :: rest = (c :: others) ++ rest.drop others.length := by
      rw [List.cons_append, List.prefix_iff_eq_append.1 (keepFirst_isPrefix _ rest)]
    have filled : String.ofList (c :: rest) ≠ "" := by simp
    rw [whole, String.ofList_append] at first filled ⊢
    rw [chunks?_append filled first, ih]
    rfl

end HeatingHub.Text
