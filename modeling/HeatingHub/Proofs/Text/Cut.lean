import HeatingHub.Text.Cut
import Mathlib.Data.List.Basic

/-!
# Cutting to a width

What is kept of the start of a text is the longest start that fits (`keepFirst_longest`), and what
is kept of its end is the longest end (`keepLast_longest`). The pieces of a text put together are
the text again (`flatten_pieces`), and each of them fits or is a single character (`mem_pieces`).
Parts of at least four bytes have room for every character. Then there is no way to cut the text
into fewer parts that fit (`length_pieces_le_iff`). A character that does not fit leaves at most
three bytes of a piece free (`lt_width_of_mem_pieces`), so that the pieces are not many more than
the width of the text asks for (`width_of_pieces`).
-/

namespace HeatingHub.Text

/-- The width of a text is that of its parts. -/
lemma width_append (first rest : List Char) : width (first ++ rest) = width first + width rest := by
  induction first with
  | nil => exact (Nat.zero_add _).symm
  | cons c first ih => rw [List.cons_append, width, width, ih, Nat.add_assoc]

/-- A text backwards is as wide as forwards. -/
lemma width_reverse (text : List Char) : width text.reverse = width text := by
  induction text with
  | nil => rfl
  | cons c text ih =>
    rw [List.reverse_cons, width_append, ih, width, width, width, Nat.add_comm, Nat.add_zero]

/-- No start of a text is wider than the text. -/
lemma width_le_of_isPrefix {start text : List Char} (begins : start <+: text) :
    width start ≤ width text := by
  obtain ⟨rest, rfl⟩ := begins
  rw [width_append]
  exact Nat.le_add_right _ _

/-- No end of a text is wider than the text. -/
lemma width_le_of_isSuffix {ending text : List Char} (ends : ending <:+ text) :
    width ending ≤ width text := by
  obtain ⟨rest, rfl⟩ := ends
  rw [width_append]
  exact Nat.le_add_left _ _

/-- A text that is not empty has a width. -/
lemma width_pos {text : List Char} (some : text ≠ []) : 0 < width text := by
  cases text with
  | nil => exact absurd rfl some
  | cons c text =>
    rw [width]
    exact Nat.add_pos_left c.utf8Size_pos _

/-- The width of a text is the number of bytes that it takes in memory. -/
lemma utf8ByteSize_ofList (text : List Char) : (String.ofList text).utf8ByteSize = width text := by
  induction text with
  | nil => rfl
  | cons c text ih =>
    rw [String.ofList_cons, String.utf8ByteSize_append, String.utf8ByteSize_singleton, width, ih]

/-! ## The start of a text -/

/-- What is kept of the start is a start of the text. -/
lemma keepFirst_isPrefix (limit : Nat) (text : List Char) : keepFirst limit text <+: text := by
  induction text generalizing limit with
  | nil => exact List.prefix_refl _
  | cons c text ih =>
    rw [keepFirst]
    split
    · exact List.cons_prefix_cons.2 ⟨rfl, ih _⟩
    · exact List.nil_prefix

/-- What is kept of the start is not wider than the limit. -/
lemma width_keepFirst (limit : Nat) (text : List Char) : width (keepFirst limit text) ≤ limit := by
  induction text generalizing limit with
  | nil => exact Nat.zero_le _
  | cons c text ih =>
    rw [keepFirst]
    split
    · next fits =>
      have rest := ih (limit - c.utf8Size)
      rw [width]
      omega
    · exact Nat.zero_le _

/-- No start of a text that fits is longer than the one that is kept. -/
lemma prefix_keepFirst {limit : Nat} {start text : List Char} (begins : start <+: text)
    (fits : width start ≤ limit) : start <+: keepFirst limit text := by
  induction text generalizing limit start with
  | nil =>
    obtain rfl := List.prefix_nil.1 begins
    exact List.prefix_refl _
  | cons c text ih =>
    cases start with
    | nil => exact List.nil_prefix
    | cons d start =>
      obtain ⟨rfl, rest⟩ := List.cons_prefix_cons.1 begins
      rw [width] at fits
      rw [keepFirst, if_pos (by omega)]
      exact List.cons_prefix_cons.2 ⟨rfl, ih rest (by omega)⟩

/-- The character behind what is kept does not fit any more. -/
lemma lt_width_keepFirst {limit : Nat} {text rest : List Char} {c : Char}
    (left : text.drop (keepFirst limit text).length = c :: rest) :
    limit < width (keepFirst limit text) + c.utf8Size := by
  by_contra fits
  have whole := List.prefix_iff_eq_append.1 (keepFirst_isPrefix limit text)
  rw [left] at whole
  have longer : keepFirst limit text ++ [c] <+: text :=
    ⟨rest, by rw [List.append_assoc, List.singleton_append, whole]⟩
  have room : width (keepFirst limit text ++ [c]) ≤ limit := by
    rw [width_append, width, width]
    omega
  have kept := prefix_keepFirst longer room
  have length := kept.length_le
  rw [List.length_append, List.length_singleton] at length
  omega

/-- What is kept of the end is not wider than the limit. -/
lemma width_keepLast (limit : Nat) (text : List Char) : width (keepLast limit text) ≤ limit := by
  rw [keepLast, width_reverse]
  exact width_keepFirst limit text.reverse

/-- The part is the longest start of the text that is at most `limit` bytes wide. -/
structure LongestStart (limit : Nat) (text part : List Char) : Prop where
  starts : part <+: text
  fits : width part ≤ limit
  longest {other : List Char} (starts : other <+: text) (fits : width other ≤ limit) :
    other <+: part

/-- The part is the longest end of the text that is at most `limit` bytes wide. -/
structure LongestEnd (limit : Nat) (text part : List Char) : Prop where
  ends : part <:+ text
  fits : width part ≤ limit
  longest {other : List Char} (ends : other <:+ text) (fits : width other ≤ limit) :
    other <:+ part

/-- What is kept of the start is the longest start that fits. -/
theorem keepFirst_longest (limit : Nat) (text : List Char) :
    LongestStart limit text (keepFirst limit text) where
  starts := keepFirst_isPrefix limit text
  fits := width_keepFirst limit text
  longest := prefix_keepFirst

/-- What is kept of the end is the longest end that fits. -/
theorem keepLast_longest (limit : Nat) (text : List Char) :
    LongestEnd limit text (keepLast limit text) where
  ends := by
    rw [keepLast, ← List.reverse_prefix, List.reverse_reverse]
    exact keepFirst_isPrefix limit text.reverse
  fits := width_keepLast limit text
  longest ends fits := by
    rw [keepLast, ← List.reverse_prefix, List.reverse_reverse]
    refine prefix_keepFirst (List.reverse_prefix.2 ends) ?_
    rwa [width_reverse]

/-! ## Pieces -/

/-- A text can be cut into so many parts that fit, or into fewer. -/
def Divides (count limit : Nat) (text : List Char) : Prop :=
  ∃ parts : List (List Char), parts.flatten = text ∧ parts.length ≤ count ∧
    ∀ part ∈ parts, width part ≤ limit

/-- The pieces put together are the text. -/
theorem flatten_pieces (limit : Nat) (text : List Char) : (pieces limit text).flatten = text := by
  fun_induction pieces limit text with
  | case1 => rfl
  | case2 c rest others ih =>
    rw [List.flatten_cons, ih, List.cons_append,
      List.prefix_iff_eq_append.1 (keepFirst_isPrefix _ rest)]

/-- Within no width nothing is kept. -/
lemma keepFirst_zero (text : List Char) : keepFirst 0 text = [] := by
  cases text with
  | nil => rfl
  | cons c text => exact if_neg (Nat.not_le.2 c.utf8Size_pos)

/-- A piece is not empty, and it fits or is a single character that does not. -/
theorem mem_pieces {limit : Nat} {text part : List Char} (mem : part ∈ pieces limit text) :
    part ≠ [] ∧ (width part ≤ limit ∨ ∃ c, part = [c] ∧ limit < c.utf8Size) := by
  fun_induction pieces limit text with
  | case1 => cases mem
  | case2 c rest others ih =>
    cases mem with
    | tail _ mem => exact ih mem
    | head =>
      refine ⟨List.cons_ne_nil _ _, ?_⟩
      by_cases fits : c.utf8Size ≤ limit
      · have room : width others ≤ limit - c.utf8Size := width_keepFirst _ rest
        left
        rw [width]
        omega
      · have alone : others = [] := by
          rw [← keepFirst_zero rest, ← Nat.sub_eq_zero_of_le (Nat.le_of_not_le fits)]
        exact .inr ⟨c, by rw [alone], Nat.lt_of_not_le fits⟩

/-- A piece that is not the last has less than four bytes free, since a character did not fit. -/
theorem lt_width_of_mem_pieces {limit : Nat} {text part : List Char}
    (mem : part ∈ (pieces limit text).dropLast) : limit < width part + 4 := by
  fun_induction pieces limit text with
  | case1 => cases mem
  | case2 c rest others ih =>
    cases left : rest.drop others.length with
    | nil =>
      rw [left, pieces] at mem
      cases mem
    | cons d behind =>
      have more : pieces limit (rest.drop others.length) ≠ [] := by
        rw [left, pieces]
        exact List.cons_ne_nil _ _
      rw [List.dropLast_cons_of_ne_nil more] at mem
      cases mem with
      | tail _ mem => exact ih mem
      | head =>
        have full : limit - c.utf8Size < width others + d.utf8Size := lt_width_keepFirst left
        have small := d.utf8Size_le_four
        rw [width]
        omega

section

variable {limit : Nat} (wide : 4 ≤ limit)

include wide

/-- A limit that fits every character keeps the first one. -/
lemma keepFirst_cons (c : Char) (text : List Char) :
    keepFirst limit (c :: text) = c :: keepFirst (limit - c.utf8Size) text := by
  rw [keepFirst, if_pos (Nat.le_trans c.utf8Size_le_four wide)]

/-- A limit that fits every character keeps some of a text that is not empty. -/
lemma keepLast_ne_nil {text : List Char} (some : text ≠ []) : keepLast limit text ≠ [] := by
  rw [keepLast]
  cases reversed : text.reverse with
  | nil => exact absurd (List.reverse_eq_nil_iff.1 reversed) some
  | cons c rest =>
    rw [keepFirst_cons wide, List.reverse_cons]
    exact List.append_ne_nil_of_right_ne_nil _ (List.cons_ne_nil _ _)

/-- The first piece of a text is what is kept of its start. -/
lemma pieces_of_ne_nil {text : List Char} (some : text ≠ []) :
    pieces limit text =
      keepFirst limit text :: pieces limit (text.drop (keepFirst limit text).length) := by
  cases text with
  | nil => exact absurd rfl some
  | cons c text =>
    rw [pieces, keepFirst_cons wide]
    rfl

/-- What holds of a text if it holds of the rest behind its first piece holds of every text. -/
lemma pieces_induction {property : List Char → Prop} (nil : property [])
    (step : ∀ text, text ≠ [] → property (text.drop (keepFirst limit text).length) →
      property text) :
    ∀ text, property text
  | [] => nil
  | c :: text => by
    apply step _ (List.cons_ne_nil _ _)
    rw [keepFirst_cons wide, List.length_cons, List.drop_succ_cons]
    exact pieces_induction nil step _
termination_by text => text.length
decreasing_by simp only [List.length_drop, List.length_cons]; omega

/-- Every piece fits. -/
theorem width_of_mem_pieces {text part : List Char} (mem : part ∈ pieces limit text) :
    width part ≤ limit := by
  obtain ⟨-, fits | ⟨c, -, wider⟩⟩ := mem_pieces mem
  · exact fits
  · exact absurd (Nat.le_trans c.utf8Size_le_four wide) (Nat.not_le.2 wider)

/-- An end of what some parts that fit make up has no more pieces than there are parts. -/
lemma length_pieces_of_suffix {parts : List (List Char)} (fit : ∀ part ∈ parts, width part ≤ limit)
    {text : List Char} (ends : text <:+ parts.flatten) :
    (pieces limit text).length ≤ parts.length := by
  induction parts generalizing text with
  | nil =>
    obtain rfl := List.suffix_nil.1 ends
    have none : pieces limit [] = [] := by rw [pieces]
    exact Nat.le_of_eq (congrArg List.length none)
  | cons part parts ih =>
    by_cases none : text = []
    · rw [none, pieces, List.length_nil]
      exact Nat.zero_le _
    rw [pieces_of_ne_nil wide none, List.length_cons, List.length_cons]
    refine Nat.succ_le_succ (ih (fun other mem => fit other (List.mem_cons_of_mem _ mem)) ?_)
    -- The rest behind the first piece is an end of the other parts: either the text is one already,
    -- or what it has of the first part fits, and so belongs to the first piece as a whole.
    rw [List.flatten_cons] at ends
    obtain late | ⟨start, rfl⟩ := List.suffix_or_suffix_of_suffix ends (List.suffix_append part _)
    · exact (List.drop_suffix _ _).trans late
    · obtain ⟨before, rfl⟩ := List.suffix_append_self_iff.1 ends
      have widths := width_append before start
      have fits : width start ≤ limit :=
        Nat.le_trans (by omega) (fit (before ++ start) List.mem_cons_self)
      obtain ⟨more, first⟩ := prefix_keepFirst (List.prefix_append start parts.flatten) fits
      rw [← first, List.length_append, ← List.drop_drop, List.drop_left]
      exact List.drop_suffix _ _

/-- A text has no more pieces than it takes parts that fit, however it is cut. -/
theorem length_pieces_le_iff {count : Nat} {text : List Char} :
    (pieces limit text).length ≤ count ↔ Divides count limit text := by
  constructor
  · intro few
    exact ⟨pieces limit text, flatten_pieces limit text, few, fun _ => width_of_mem_pieces wide⟩
  · rintro ⟨parts, rfl, few, fit⟩
    exact Nat.le_trans (length_pieces_of_suffix wide fit (List.suffix_refl _)) few

/-- All pieces but the last are filled but for three bytes. -/
theorem width_of_pieces {text : List Char} (some : text ≠ []) :
    (limit - 3) * ((pieces limit text).length - 1) < width text := by
  induction text using pieces_induction wide with
  | nil => exact absurd rfl some
  | step text some ih =>
    have whole := List.prefix_iff_eq_append.1 (keepFirst_isPrefix limit text)
    have widths := congrArg width whole
    rw [width_append] at widths
    rw [pieces_of_ne_nil wide some, List.length_cons, Nat.add_sub_cancel]
    cases left : text.drop (keepFirst limit text).length with
    | nil =>
      rw [pieces, List.length_nil, Nat.mul_zero]
      exact width_pos some
    | cons c rest =>
      rw [left] at ih widths
      have full := lt_width_keepFirst left
      have small := c.utf8Size_le_four
      have more := ih (List.cons_ne_nil _ _)
      have count : (pieces limit (c :: rest)).length =
          (pieces limit (c :: rest)).length - 1 + 1 := by
        rw [pieces_of_ne_nil wide (List.cons_ne_nil _ _)]
        rfl
      rw [count, Nat.mul_succ]
      omega

end

end HeatingHub.Text
