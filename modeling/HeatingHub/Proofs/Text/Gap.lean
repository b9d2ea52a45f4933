import HeatingHub.Proofs.Text.Word

/-!
# Gaps between words

A *gap* is a row of blanks, at least one, and parts the words before it from those behind it
(`Gap.words`). A trimmed text of several words starts with the first of them and a gap
(`Trimmed.parts`), and what stands between its first and its last word starts and ends with a blank
(`Trimmed.between`). A text with blanks at its ends is a gap, a field, and a gap again; the field
can be what trimming leaves of it (`Edged.parts`), or, if that is nothing, any single character
inside (`gaps_of_inner`).
-/

namespace HeatingHub.Text

/-- Blanks, and at least one of them. -/
structure Gap (text : List Char) : Prop where
  filled : text ≠ []
  blank : ∀ c ∈ text, isBlank c

/-- The text starts with a blank and ends with one. -/
structure Edged (text : List Char) : Prop where
  first : ∃ c ∈ text.head?, isBlank c
  last : ∃ c ∈ text.getLast?, isBlank c

/-- A text that begins with a gap starts with a blank. -/
lemma Gap.head {gap : List Char} (h : Gap gap) (rest : List Char) :
    ∃ c ∈ (gap ++ rest).head?, isBlank c := by
  cases gap with
  | nil => exact absurd rfl h.filled
  | cons c gap => exact ⟨c, rfl, h.blank c List.mem_cons_self⟩

/-- A text that ends with a gap ends with a blank. -/
lemma Gap.last {gap : List Char} (h : Gap gap) (text : List Char) :
    ∃ c ∈ (text ++ gap).getLast?, isBlank c := by
  obtain ⟨c, found⟩ := Option.ne_none_iff_exists'.1 (mt List.getLast?_eq_none_iff.1 h.filled)
  refine ⟨c, ?_, h.blank c (List.mem_of_mem_getLast? found)⟩
  rw [List.getLast?_append, found]
  rfl

/-- A text that begins with an edged part starts with a blank. -/
lemma Edged.head {middle : List Char} (h : Edged middle) (rest : List Char) :
    ∃ c ∈ (middle ++ rest).head?, isBlank c := by
  obtain ⟨c, mem, blank⟩ := h.first
  refine ⟨c, ?_, blank⟩
  rw [List.head?_append, Option.mem_def.1 mem]
  rfl

/-- To trim the start takes a gap away. -/
lemma Gap.trimStart {gap : List Char} (h : Gap gap) (text : List Char) :
    trimStart (gap ++ text) = trimStart text :=
  List.dropWhile_append_of_pos h.blank

/-- The words before a gap and behind it are read apart. -/
lemma Gap.words {gap : List Char} (h : Gap gap) (first rest : List Char) :
    words (first ++ gap ++ rest) = words first ++ words rest := by
  obtain ⟨filled, blank⟩ := h
  cases gap with
  | nil => exact absurd rfl filled
  | cons c gap =>
    have behind : Text.words (gap ++ rest) = Text.words rest := by
      rw [← words_trimStart, ← words_trimStart rest, Text.trimStart,
        List.dropWhile_append_of_pos fun d mem => blank d (List.mem_cons_of_mem _ mem)]
      rfl
    rw [List.append_assoc, List.cons_append, words_append_cons (blank c List.mem_cons_self), behind]

/-- The words before a text with blanks at its ends and behind it are read apart. -/
lemma Edged.words_append {middle : List Char} (h : Edged middle) (first rest : List Char) :
    Text.words (first ++ middle ++ rest) = Text.words (first ++ middle) ++ Text.words rest := by
  obtain ⟨c, found, blank⟩ := h.last
  obtain ⟨inner, rfl⟩ := List.getLast?_eq_some_iff.1 found
  have whole : first ++ (inner ++ [c]) = first ++ inner ++ [c] := (List.append_assoc _ _ _).symm
  have behind : Text.words (first ++ inner ++ [c]) = Text.words (first ++ inner) :=
    words_append_blanks _ fun d mem => List.mem_singleton.1 mem ▸ blank
  rw [whole, behind, List.append_assoc, List.singleton_append, words_append_cons blank]

/-- A trimmed text of several words is the first of them, a gap, and what holds the others. -/
lemma Trimmed.parts {text first second : List Char} {others : List (List Char)}
    (trimmed : Trimmed text) (h : words text = first :: second :: others) :
    ∃ gap, Gap gap ∧ text = first ++ gap ++ trimStart (text.dropWhile (!isBlank ·)) := by
  have filled : text ≠ [] := by
    rintro rfl
    cases h
  have whole : text.takeWhile (!isBlank ·) ++ text.dropWhile (!isBlank ·) = text :=
    List.takeWhile_append_dropWhile
  have parted : (text.dropWhile (!isBlank ·)).takeWhile isBlank ++
      trimStart (text.dropWhile (!isBlank ·)) = text.dropWhile (!isBlank ·) :=
    List.takeWhile_append_dropWhile
  rw [words_eq_cons filled trimmed.first] at h
  obtain ⟨start, behind⟩ := List.cons.inj h
  refine ⟨(text.dropWhile (!isBlank ·)).takeWhile isBlank, ⟨fun none => ?_, ?_⟩, ?_⟩
  · -- The rest would start with a blank, as the first word has ended, and with none.
    rw [none, List.nil_append] at parted
    cases found : text.dropWhile (!isBlank ·) with
    | nil =>
      rw [found] at behind
      cases behind
    | cons c rest =>
      have blank := @head?_dropWhile (!isBlank ·) text c (by rw [found]; rfl)
      have solid := @head?_dropWhile isBlank (text.dropWhile (!isBlank ·)) c
        (by rw [← trimStart, parted, found]; rfl)
      simp [solid] at blank
  · exact fun c mem => List.mem_takeWhile_imp mem
  · rw [List.append_assoc, parted, ← start, whole]

/-- Between the first and the last word of a trimmed text stands a text with blanks at its ends. -/
lemma Trimmed.between {text first second last : List Char} {others : List (List Char)}
    (trimmed : Trimmed text) (h : words text = first :: second :: others)
    (ending : (second :: others).getLast? = some last) :
    ∃ middle, Edged middle ∧ text = first ++ middle ++ last := by
  -- By induction on the words behind the first, each of which brings the gap before it along.
  induction others generalizing text first second with
  | nil =>
    obtain ⟨gap, isGap, whole⟩ := trimmed.parts h
    obtain ⟨trimmed, words⟩ := trimmed.tail h
    obtain rfl : second = last := by simpa using ending
    rw [trimmed.eq_of_words words] at whole
    exact ⟨gap, ⟨by simpa using isGap.head [], isGap.last []⟩, whole⟩
  | cons third others ih =>
    obtain ⟨gap, isGap, whole⟩ := trimmed.parts h
    obtain ⟨trimmed, words⟩ := trimmed.tail h
    obtain ⟨middle, edged, rest⟩ := ih trimmed words (by rwa [List.getLast?_cons_cons] at ending)
    rw [rest] at whole
    refine ⟨gap ++ second ++ middle, ⟨?_, ?_⟩, by rw [whole]; simp⟩
    · rw [List.append_assoc]
      exact isGap.head _
    · obtain ⟨c, found, blank⟩ := edged.last
      refine ⟨c, ?_, blank⟩
      rw [List.getLast?_append, Option.mem_def.1 found]
      rfl

/-! ## Fields -/

/-- Trimming adds no characters. -/
lemma mem_of_mem_trim {text : List Char} {c : Char} (mem : c ∈ trim text) : c ∈ text := by
  rw [trim, trimEnd, List.mem_reverse] at mem
  have mem := (List.dropWhile_sublist _).subset mem
  exact (List.dropWhile_sublist _).subset (List.mem_reverse.1 mem)

/-- A text of which trimming leaves nothing is blank. -/
lemma blank_of_trim_eq_nil {text : List Char} (h : trim text = []) : ∀ c ∈ text, isBlank c := by
  apply blank_of_words_eq_nil
  rw [← words_trim, h]
  rfl

/-- Gaps around a text are trimmed off. -/
lemma trim_gaps {gap gap' : List Char} (h : Gap gap) (h' : Gap gap') (text : List Char) :
    trim (gap ++ text ++ gap') = trim text :=
  trim_blanks h.blank h'.blank text

/-- A text with blanks at its ends, and not only blanks, is what trimming leaves of it between two
gaps. -/
lemma Edged.parts {text : List Char} (edged : Edged text) (some : trim text ≠ []) :
    ∃ gap gap', Gap gap ∧ Gap gap' ∧ text = gap ++ trim text ++ gap' := by
  have front : text.takeWhile isBlank ++ trimStart text = text := List.takeWhile_append_dropWhile
  have back : trim text ++ ((trimStart text).reverse.takeWhile isBlank).reverse =
      trimStart text := by
    rw [trim, trimEnd, ← List.reverse_append, List.takeWhile_append_dropWhile, List.reverse_reverse]
  have left : trimStart text ≠ [] := by
    intro none
    rw [trim, none] at some
    exact some rfl
  have first : ∃ c ∈ (trimStart text).reverse.head?, isBlank c := by
    obtain ⟨c, found, blank⟩ := edged.last
    refine ⟨c, ?_, blank⟩
    rw [List.head?_reverse]
    rw [← front, List.getLast?_append] at found
    cases ending : (trimStart text).getLast? with
    | none => exact absurd (List.getLast?_eq_none_iff.1 ending) left
    | some d =>
      rw [ending] at found
      exact found
  -- What starts with a blank starts with a gap.
  have isGap {text : List Char} (first : ∃ c ∈ text.head?, isBlank c) :
      Gap (text.takeWhile isBlank) := by
    refine ⟨?_, fun c mem => List.mem_takeWhile_imp mem⟩
    obtain ⟨c, found, blank⟩ := first
    cases text with
    | nil => cases found
    | cons d rest =>
      cases found
      simp [blank]
  obtain ⟨filled, blank⟩ := isGap first
  refine ⟨_, _, isGap edged.first, ⟨mt List.reverse_eq_nil_iff.1 filled, fun c mem => ?_⟩, ?_⟩
  · exact blank c (List.mem_reverse.1 mem)
  · rw [List.append_assoc, back, front]

/-- Any character inside a text of blanks has a gap on either side. -/
lemma gaps_of_inner {text : List Char} (blank : ∀ c ∈ text, isBlank c) {c : Char}
    (inside : c ∈ text.tail.dropLast) :
    ∃ gap gap', Gap gap ∧ Gap gap' ∧ text = gap ++ [c] ++ gap' := by
  cases text with
  | nil => cases inside
  | cons first rest =>
    obtain ⟨inner, last, rfl⟩ : ∃ inner last, rest = inner ++ [last] := by
      have filled : rest ≠ [] := by
        rintro rfl
        cases inside
      exact ⟨_, _, (List.dropLast_append_getLast filled).symm⟩
    rw [List.tail_cons, List.dropLast_concat] at inside
    obtain ⟨before, behind, rfl⟩ := List.append_of_mem inside
    refine ⟨first :: before, behind ++ [last], ⟨by simp, ?_⟩, ⟨by simp, ?_⟩, by simp⟩
    · intro d mem
      apply blank
      rw [List.append_assoc, ← List.cons_append]
      exact List.mem_append_left _ mem
    · intro d mem
      apply blank
      rw [List.append_assoc, List.cons_append]
      exact List.mem_cons_of_mem _ (List.mem_append_right _ (List.mem_cons_of_mem _ mem))

/-- What stands between two gaps stands inside. -/
lemma mem_inner {gap gap' : List Char} (h : Gap gap) (h' : Gap gap') {text : List Char} {c : Char}
    (mem : c ∈ text) : c ∈ (gap ++ text ++ gap').tail.dropLast := by
  cases gap with
  | nil => exact absurd rfl h.filled
  | cons first gap =>
    rw [List.cons_append, List.cons_append, List.tail_cons, List.append_assoc,
      List.dropLast_append_of_ne_nil (by simp [h'.filled]),
      List.dropLast_append_of_ne_nil h'.filled]
    simp [mem]

end HeatingHub.Text
