import HeatingHub.Proofs.Text.Letter
import Mathlib.Data.List.Basic
import Mathlib.Data.List.TakeWhile

/-!
# Words and trimming

A text without a blank at either end is not changed by trimming (`trim_eq_self`). The words of a
text are put together from the words of what stands on the two sides of a blank
(`words_append_cons`), and a text without blanks is one word (`words_of_solid`). So words with
spaces between them are found again (`words_intercalate`), and the blanks around a text belong to
none of its words (`words_trim`), nor do they matter to trimming (`trim_blanks`). A trimmed text
starts with its first word (`words_eq_cons`), and what is left of it is trimmed again
(`Trimmed.tail`). Folding to upper case changes no blank and so commutes with trimming and with
cutting into words (`upper_trim`, `words_upper`).
-/

namespace HeatingHub.Text

/-- No character of a text is blank. -/
def Solid (text : List Char) : Prop :=
  ∀ c ∈ text, isBlank c = false

-- The characters of the text are looked through, and not all characters that there are.
/-- Whether a text is solid can be computed. -/
instance : DecidablePred Solid :=
  fun text => List.decidableBAll (fun c => isBlank c = false) text

/-- Solid texts one after the other are solid. -/
lemma Solid.append {first rest : List Char} (h : Solid first) (h' : Solid rest) :
    Solid (first ++ rest) := by
  intro c mem
  cases List.mem_append.1 mem with
  | inl mem => exact h c mem
  | inr mem => exact h' c mem

/-- A solid text stays solid with a character before it that is not blank. -/
lemma Solid.cons {c : Char} {text : List Char} (first : isBlank c = false) (h : Solid text) :
    Solid (c :: text) := by
  intro d mem
  cases mem with
  | head => exact first
  | tail _ mem => exact h d mem

/-- Texts without blanks have none between them either, if the separator is none. -/
lemma solid_intercalate {separator : Char} (h : isBlank separator = false)
    {members : List (List Char)} (solid : ∀ member ∈ members, Solid member) :
    Solid ([separator].intercalate members) := by
  induction members with
  | nil => exact fun _ mem => absurd mem List.not_mem_nil
  | cons member members ih =>
    obtain ⟨first, others⟩ := List.forall_mem_cons.1 solid
    cases members with
    | nil => rwa [List.intercalate_singleton]
    | cons next members =>
      rw [List.intercalate_cons_cons, List.append_assoc]
      exact first.append (.cons h (ih others))

/-- No blank is in a solid text. -/
lemma Solid.not_mem {c : Char} {text : List Char} (h : Solid text) (blank : isBlank c) :
    c ∉ text := by
  intro mem
  rw [h c mem] at blank
  cases blank

/-- Letters and digits are solid. -/
lemma solid_of_allAlphanumeric {text : List Char} (h : allAlphanumeric text) : Solid text :=
  fun c mem => isBlank_of_isAlphanum (List.all_eq_true.1 h c mem)

/-- The name of a heater is solid, and not empty. -/
lemma solid_of_isHeaterName {name : List Char} (h : isHeaterName name) :
    Solid name ∧ name ≠ [] := by
  obtain ⟨filled, letters⟩ := (Bool.and_eq_true _ _).mp h
  exact ⟨solid_of_allAlphanumeric letters, by simpa using filled⟩

/-- A row of digits is one of letters and digits. -/
lemma allAlphanumeric_of_allDigits {text : List Char} (h : allDigits text) :
    allAlphanumeric text := by
  rw [allAlphanumeric, List.all_eq_true]
  intro c mem
  rw [Char.isAlphanum, List.all_eq_true.1 h c mem, Bool.or_true]

/-- A row of digits is solid. -/
lemma solid_of_allDigits {text : List Char} (h : allDigits text) : Solid text :=
  solid_of_allAlphanumeric (allAlphanumeric_of_allDigits h)

/-- Only digits are in a row of digits. -/
lemma not_mem_of_allDigits {c : Char} {text : List Char} (h : allDigits text)
    (other : c.isDigit = false) : c ∉ text := by
  intro mem
  rw [List.all_eq_true.1 h c mem] at other
  cases other

/-! ## Trimming -/

/-- A text that starts with no blank keeps its start. -/
lemma trimStart_eq_self {text : List Char} (h : ∀ c ∈ text.head?, isBlank c = false) :
    trimStart text = text := by
  cases text with
  | nil => rfl
  | cons c rest =>
    rw [trimStart, List.dropWhile_cons_of_neg]
    rw [h c rfl]
    exact Bool.false_ne_true

/-- A text that ends with no blank keeps its end. -/
lemma trimEnd_eq_self {text : List Char} (h : ∀ c ∈ text.getLast?, isBlank c = false) :
    trimEnd text = text := by
  have start : trimStart text.reverse = text.reverse := by
    apply trimStart_eq_self
    rw [List.head?_reverse]
    exact h
  rw [trimEnd, ← trimStart, start, List.reverse_reverse]

/-- A text without blanks at its two ends is not changed by trimming. -/
lemma trim_eq_self {text : List Char} (first : ∀ c ∈ text.head?, isBlank c = false)
    (last : ∀ c ∈ text.getLast?, isBlank c = false) : trim text = text := by
  rw [trim, trimStart_eq_self first, trimEnd_eq_self last]

/-- There is nothing to trim from a solid text. -/
lemma Solid.trim_eq_self {text : List Char} (h : Solid text) : trim text = text :=
  Text.trim_eq_self (fun c mem => h c (List.mem_of_mem_head? mem))
    (fun c mem => h c (List.mem_of_mem_getLast? mem))

/-- Blanks around a text are trimmed off. -/
lemma trim_blanks {before behind : List Char} (h : ∀ c ∈ before, isBlank c)
    (h' : ∀ c ∈ behind, isBlank c) (text : List Char) :
    trim (before ++ text ++ behind) = trim text := by
  have blank : ∀ c ∈ behind.reverse, isBlank c := fun c mem => h' c (List.mem_reverse.1 mem)
  have trimEnd_append (text : List Char) : trimEnd (text ++ behind) = trimEnd text := by
    rw [trimEnd, trimEnd, List.reverse_append, List.dropWhile_append_of_pos blank]
  have front (text : List Char) : trimStart (before ++ text) = trimStart text :=
    List.dropWhile_append_of_pos h
  rw [trim, trim, List.append_assoc, front]
  by_cases none : trimStart text = []
  · -- All that is left are the blanks behind.
    have all : ∀ c ∈ text ++ behind, isBlank c := by
      intro c mem
      cases List.mem_append.1 mem with
      | inl mem => exact List.dropWhile_eq_nil_iff.1 none c mem
      | inr mem => exact h' c mem
    rw [none, trimStart, List.dropWhile_eq_nil_iff.2 all]
  · have kept : trimStart (text ++ behind) = trimStart text ++ behind := by
      rw [trimStart, List.dropWhile_append, ← trimStart, if_neg (mt List.isEmpty_iff.1 none)]
    rw [kept, trimEnd_append]

/-- A blank at the end of a text is trimmed off. -/
lemma trim_concat_blank {c : Char} (blank : isBlank c) (text : List Char) :
    trim (text ++ [c]) = trim text :=
  @trim_blanks [] [c] (fun _ mem => absurd mem List.not_mem_nil)
    (fun _ mem => List.mem_singleton.1 mem ▸ blank) text

/-- Dropping goes on to the first character that fails the test. -/
lemma head?_dropWhile {test : Char → Bool} {text : List Char} :
    ∀ c ∈ (text.dropWhile test).head?, test c = false := by
  intro c mem
  have := List.head?_dropWhile_not test text
  rw [mem] at this
  exact this

/-- There is no blank at the ends of a text. -/
structure Trimmed (text : List Char) : Prop where
  first : ∀ c ∈ text.head?, isBlank c = false
  last : ∀ c ∈ text.getLast?, isBlank c = false

/-- What was trimmed has no blanks at its ends. -/
lemma trimmed_trim (text : List Char) : Trimmed (trim text) where
  first := by
    have whole : trim text ++ ((trimStart text).reverse.takeWhile isBlank).reverse =
        trimStart text := by
      rw [trim, trimEnd, ← List.reverse_append, List.takeWhile_append_dropWhile,
        List.reverse_reverse]
    intro c mem
    apply @head?_dropWhile isBlank text
    rw [← trimStart, ← whole, List.head?_append, Option.mem_def.1 mem]
    rfl
  last := by
    rw [trim, trimEnd, List.getLast?_reverse]
    exact head?_dropWhile

/-! ## Words -/

/-- A blank ends a word, and the words before it and behind it are read apart. -/
lemma words_append_cons {blank : Char} (h : isBlank blank) (first rest : List Char) :
    words (first ++ blank :: rest) = words first ++ words rest := by
  rw [words, List.splitOnP_append_cons first rest h, List.filter_append, ← words, ← words]

/-- A text without blanks is one word. -/
lemma words_of_solid {text : List Char} (h : Solid text) (filled : text ≠ []) :
    words text = [text] := by
  rw [words, List.splitOnP_eq_singleton h, List.filter_cons_of_pos, List.filter_nil]
  simpa using filled

/-- A blank at the start does not matter to the words. -/
lemma words_cons_blank {blank : Char} (h : isBlank blank) (text : List Char) :
    words (blank :: text) = words text :=
  words_append_cons h [] text

/-- Blanks hold no words. -/
lemma words_of_blank {text : List Char} (h : ∀ c ∈ text, isBlank c) : words text = [] := by
  induction text with
  | nil => rfl
  | cons c text ih =>
    rw [words_cons_blank (h c List.mem_cons_self)]
    exact ih fun d mem => h d (List.mem_cons_of_mem _ mem)

/-- To trim the start does not matter to the words. -/
lemma words_trimStart (text : List Char) : words (trimStart text) = words text := by
  induction text with
  | nil => rfl
  | cons c text ih =>
    rw [trimStart, List.dropWhile_cons]
    split
    · next blank => rw [← trimStart, ih, words_cons_blank blank]
    · rfl

/-- Blanks at the end do not matter to the words. -/
lemma words_append_blanks (text : List Char) {blanks : List Char} (h : ∀ c ∈ blanks, isBlank c) :
    words (text ++ blanks) = words text := by
  cases blanks with
  | nil => rw [List.append_nil]
  | cons blank blanks =>
    rw [words_append_cons (h blank List.mem_cons_self),
      words_of_blank fun c mem => h c (List.mem_cons_of_mem _ mem), List.append_nil]

/-- To trim the end does not matter to the words. -/
lemma words_trimEnd (text : List Char) : words (trimEnd text) = words text := by
  have whole : text = trimEnd text ++ (text.reverse.takeWhile isBlank).reverse := by
    rw [trimEnd, ← List.reverse_append, List.takeWhile_append_dropWhile, List.reverse_reverse]
  conv_rhs => rw [whole]
  rw [words_append_blanks]
  intro c mem
  exact List.mem_takeWhile_imp (List.mem_reverse.1 mem)

/-- Blanks around a text belong to no word. -/
lemma words_trim (text : List Char) : words (trim text) = words text := by
  rw [trim, words_trimEnd, words_trimStart]

/-- Words with spaces between them are found again. -/
lemma words_intercalate {members : List (List Char)}
    (h : ∀ word ∈ members, Solid word ∧ word ≠ []) :
    words ([' '].intercalate members) = members := by
  induction members with
  | nil => rfl
  | cons word members ih =>
    obtain ⟨solid, filled⟩ := h word List.mem_cons_self
    have ih := ih fun other mem => h other (List.mem_cons_of_mem _ mem)
    cases members with
    | nil => rw [List.intercalate_singleton, words_of_solid solid filled]
    | cons next members =>
      rw [List.intercalate_cons_cons, List.append_assoc, List.singleton_append,
        words_append_cons (by decide), words_of_solid solid filled, ih, List.singleton_append]

/-- A beginning without blanks ends where what is behind it starts with one. -/
lemma Solid.dropWhile_append {first rest : List Char} (h : Solid first)
    (blank : ∃ c ∈ rest.head?, isBlank c) :
    (first ++ rest).dropWhile (!isBlank ·) = rest := by
  have inside : ∀ c ∈ first, (!isBlank c) = true := fun c mem => by simp [h c mem]
  rw [List.dropWhile_append_of_pos inside]
  obtain ⟨c, mem, blank⟩ := blank
  cases rest with
  | nil => cases mem
  | cons d others =>
    cases mem
    rw [List.dropWhile_cons_of_neg]
    simp [blank]

/-- The first word of a text that starts with no blank ends before the first blank. -/
lemma words_eq_cons {text : List Char} (filled : text ≠ [])
    (first : ∀ c ∈ text.head?, isBlank c = false) :
    words text = text.takeWhile (!isBlank ·) :: words (text.dropWhile (!isBlank ·)) := by
  have whole : text.takeWhile (!isBlank ·) ++ text.dropWhile (!isBlank ·) = text :=
    List.takeWhile_append_dropWhile
  have solid : Solid (text.takeWhile (!isBlank ·)) := by
    intro c mem
    simpa using List.mem_takeWhile_imp mem
  have started : text.takeWhile (!isBlank ·) ≠ [] := by
    cases text with
    | nil => exact absurd rfl filled
    | cons c rest => simp [first c rfl]
  have word := words_of_solid solid started
  cases found : text.dropWhile (!isBlank ·) with
  | nil =>
    rw [found, List.append_nil] at whole
    rw [whole] at word ⊢
    exact word
  | cons blank rest =>
    have blank : isBlank blank := by
      have stops := @head?_dropWhile (!isBlank ·) text blank (by rw [found]; rfl)
      simpa using stops
    conv_lhs => rw [← whole, found]
    rw [words_append_cons blank, word, words_cons_blank blank, List.singleton_append]

/-- What stands at the start of a text belongs to its first word, if there is no blank in it. -/
lemma words_append_of_solid {first : List Char} (solid : Solid first) (filled : first ≠ [])
    (rest : List Char) :
    ∃ more others, words (first ++ rest) = (first ++ more) :: others := by
  have start : ∀ c ∈ (first ++ rest).head?, isBlank c = false := by
    intro c mem
    cases first with
    | nil => exact absurd rfl filled
    | cons d first => exact solid c (Option.mem_some.1 mem ▸ List.mem_cons_self)
  have inside : ∀ c ∈ first, (!isBlank c) = true := fun c mem => by simp [solid c mem]
  rw [words_eq_cons (by simp [filled]) start, List.takeWhile_append_of_pos inside]
  exact ⟨_, _, rfl⟩

/-- A text without words is blank. -/
lemma blank_of_words_eq_nil {text : List Char} (h : words text = []) :
    ∀ c ∈ text, isBlank c := by
  rw [← words_trimStart] at h
  cases found : trimStart text with
  | nil => exact List.dropWhile_eq_nil_iff.1 found
  | cons c rest =>
    have filled : trimStart text ≠ [] := by simp [found]
    rw [words_eq_cons filled head?_dropWhile] at h
    cases h

/-- There is something, and no blank, in the first word of a trimmed text. -/
lemma Trimmed.word {text word : List Char} {others : List (List Char)} (trimmed : Trimmed text)
    (h : words text = word :: others) : Solid word ∧ word ≠ [] := by
  constructor
  · have filled : text ≠ [] := by
      rintro rfl
      cases h
    rw [words_eq_cons filled trimmed.first] at h
    intro c mem
    rw [← (List.cons.inj h).1] at mem
    simpa using List.mem_takeWhile_imp mem
  · have mem : word ∈ words text := h ▸ List.mem_cons_self
    simpa using (List.mem_filter.1 mem).2

/-- A trimmed text of one word is this word. -/
lemma Trimmed.eq_of_words {text word : List Char} (trimmed : Trimmed text)
    (h : words text = [word]) : text = word := by
  have filled : text ≠ [] := by
    rintro rfl
    cases h
  have whole : text.takeWhile (!isBlank ·) ++ text.dropWhile (!isBlank ·) = text :=
    List.takeWhile_append_dropWhile
  rw [words_eq_cons filled trimmed.first] at h
  obtain ⟨rfl, nothing⟩ := List.cons.inj h
  cases found : (text.dropWhile (!isBlank ·)).getLast? with
  | none =>
    rw [List.getLast?_eq_none_iff.1 found, List.append_nil] at whole
    exact whole.symm
  | some c =>
    have blank := blank_of_words_eq_nil nothing c (List.mem_of_mem_getLast? found)
    have solid : isBlank c = false := by
      apply trimmed.last
      rw [← whole, List.getLast?_append, found]
      rfl
    rw [blank] at solid
    cases solid

/-- A trimmed text of several words is trimmed without the first of them. -/
lemma Trimmed.tail {text word : List Char} {others : List (List Char)} (trimmed : Trimmed text)
    (h : words text = word :: others) :
    Trimmed (trimStart (text.dropWhile (!isBlank ·))) ∧
      words (trimStart (text.dropWhile (!isBlank ·))) = others := by
  have filled : text ≠ [] := by
    rintro rfl
    cases h
  rw [words_eq_cons filled trimmed.first] at h
  refine ⟨⟨head?_dropWhile, fun c mem => trimmed.last c ?_⟩, ?_⟩
  · have behind : trimStart (text.dropWhile (!isBlank ·)) <:+ text :=
      (List.dropWhile_suffix _).trans (List.dropWhile_suffix _)
    obtain ⟨before, whole⟩ := behind
    rw [← whole, List.getLast?_append, Option.mem_def.1 mem]
    rfl
  · rw [words_trimStart]
    exact (List.cons.inj h).2

/-- There is something, and no blank, in every word of a trimmed text. -/
lemma Trimmed.of_mem_words {text word : List Char} (trimmed : Trimmed text)
    (mem : word ∈ words text) : Solid word ∧ word ≠ [] := by
  generalize listed : words text = members at mem
  induction members generalizing text with
  | nil => cases mem
  | cons first others ih =>
    obtain rfl | mem := List.mem_cons.1 mem
    · exact trimmed.word listed
    · obtain ⟨trimmed, rest⟩ := trimmed.tail listed
      exact ih trimmed rest mem

/-! ## Upper case -/

/-- Upper case and trimming the start can be exchanged. -/
lemma upper_trimStart (text : List Char) : upper (trimStart text) = trimStart (upper text) := by
  simp [upper, trimStart, List.dropWhile_map, Function.comp_def, isBlank_toUpper]

/-- Upper case and trimming the end can be exchanged. -/
lemma upper_trimEnd (text : List Char) : upper (trimEnd text) = trimEnd (upper text) := by
  have turned (text : List Char) : upper text.reverse = (upper text).reverse := List.map_reverse
  rw [trimEnd, trimEnd, ← trimStart, ← trimStart, turned, upper_trimStart, turned]

/-- Upper case and trimming can be exchanged. -/
lemma upper_trim (text : List Char) : upper (trim text) = trim (upper text) := by
  rw [trim, trim, upper_trimEnd, upper_trimStart]

/-- Folding to upper case moves no cut, if it makes no separator and destroys none. -/
lemma splitOnP_upper {separates : Char → Bool} (kept : ∀ c, separates c.toUpper = separates c)
    (text : List Char) : (upper text).splitOnP separates = (text.splitOnP separates).map upper := by
  induction text with
  | nil => rfl
  | cons c text ih =>
    rw [upper, List.map_cons, ← upper, List.splitOnP_cons_eq_if_modifyHead,
      List.splitOnP_cons_eq_if_modifyHead, kept, ih]
    split
    · rfl
    · cases text.splitOnP separates <;> rfl

/-- The words of a text in upper case are its words in upper case. -/
lemma words_upper (text : List Char) : words (upper text) = (words text).map upper := by
  have filled : (!List.isEmpty ·) ∘ upper = (!List.isEmpty ·) := by
    funext word
    cases word <;> rfl
  rw [words, splitOnP_upper isBlank_toUpper, List.filter_map, filled, ← words]

end HeatingHub.Text
