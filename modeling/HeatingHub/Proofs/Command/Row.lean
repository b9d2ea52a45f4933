import HeatingHub.Command.Form
import HeatingHub.Proofs.Command.Token
import HeatingHub.Proofs.Text.Pattern

/-!
# Rows of words

A row of patterns takes what its patterns take, with gaps between (`takes_row_cons`). If all of them
take single words only, it is a matter of the words of a text whether the row takes it
(`takes_row_iff`), and keywords with words of the sender's own behind them take just the texts that
begin with these keywords and have so many words more (`takes_words`).
-/

namespace HeatingHub.Command

open Text (Pattern Gap Trimmed Solid)

variable {text : List Char} {parts : List (List Char)}

/-- A keyword takes its letters and keeps nothing. -/
lemma takes_keyword {word : String} :
    (keyword word).Takes text parts ↔ text = word.toList ∧ parts = [] :=
  Iff.rfl

/-- A word of the sender's own is any word, and it is kept. -/
lemma takes_ownWord : ownWord.Takes text parts ↔ (Solid text ∧ text ≠ []) ∧ parts = [text] := by
  constructor
  · rintro ⟨_, rfl, filled, solid, rfl⟩
    exact ⟨⟨fun c mem => by simpa using solid c mem, filled⟩, rfl⟩
  · rintro ⟨⟨solid, filled⟩, rfl⟩
    exact ⟨[], rfl, filled, fun c mem => by simp [solid c mem], rfl⟩

/-- The words for a mode are taken and kept. -/
lemma takes_modeWord :
    modeWord.Takes text parts ↔ ∃ word : ModeWord, text = word.text.toList ∧ parts = [text] := by
  constructor
  · rintro ⟨_, rfl, ⟨rfl, rfl⟩ | ⟨rfl, rfl⟩ | ⟨rfl, rfl⟩ | ⟨rfl, rfl⟩ | ⟨rfl, rfl⟩⟩
    · exact ⟨.off, rfl, rfl⟩
    · exact ⟨.eco, rfl, rfl⟩
    · exact ⟨.defrost, rfl, rfl⟩
    · exact ⟨.comfort, rfl, rfl⟩
    · exact ⟨.on, rfl, rfl⟩
  · rintro ⟨word, rfl, rfl⟩
    refine ⟨[], rfl, ?_⟩
    cases word with
    | off => exact .inl ⟨rfl, rfl⟩
    | eco => exact .inr (.inl ⟨rfl, rfl⟩)
    | defrost => exact .inr (.inr (.inl ⟨rfl, rfl⟩))
    | comfort => exact .inr (.inr (.inr (.inl ⟨rfl, rfl⟩)))
    | on => exact .inr (.inr (.inr (.inr ⟨rfl, rfl⟩)))

/-- A row takes what its first pattern takes, a gap, and what the others take. -/
lemma takes_row_cons {first next : Pattern} {rest : List Pattern} :
    (row first (next :: rest)).Takes text parts ↔
      ∃ start gap behind kept more, Gap gap ∧ text = start ++ gap ++ behind ∧
        parts = kept ++ more ∧ first.Takes start kept ∧ (row next rest).Takes behind more := by
  constructor
  · rintro ⟨start, _, kept, _, rfl, rfl, takes, gap, behind, _, more, rfl, rfl, isGap, others⟩
    obtain ⟨filled, blank, rfl⟩ := isGap
    exact ⟨start, gap, behind, kept, more, ⟨filled, blank⟩, (List.append_assoc _ _ _).symm, rfl,
      takes, others⟩
  · rintro ⟨start, gap, behind, kept, more, ⟨filled, blank⟩, rfl, rfl, takes, others⟩
    exact ⟨start, gap ++ behind, kept, more, List.append_assoc _ _ _, rfl, takes, gap, behind, [],
      more, rfl, rfl, ⟨filled, blank, rfl⟩, others⟩

/-- A row that starts with a keyword takes the keyword, a gap, and what the others take. -/
lemma takes_row_keyword {word : String} {next : Pattern} {rest : List Pattern} :
    (row (keyword word) (next :: rest)).Takes text parts ↔
      ∃ gap behind, Gap gap ∧ text = word.toList ++ gap ++ behind ∧
        (row next rest).Takes behind parts := by
  rw [takes_row_cons]
  constructor
  · rintro ⟨_, gap, behind, _, _, isGap, rfl, rfl, ⟨rfl, rfl⟩, takes⟩
    exact ⟨gap, behind, isGap, rfl, takes⟩
  · rintro ⟨gap, behind, isGap, rfl, takes⟩
    exact ⟨_, gap, behind, [], parts, isGap, rfl, rfl, ⟨rfl, rfl⟩, takes⟩

/-- The pattern takes single words only. -/
def TakesWords (pattern : Pattern) : Prop :=
  ∀ word kept, pattern.Takes word kept → Solid word ∧ word ≠ []

/-- The pattern of a word of the grammar takes single words only. -/
lemma keyword_takesWords {word : String} (solid : Solid word.toList ∧ word.toList ≠ []) :
    TakesWords (keyword word) := by
  rintro _ _ ⟨rfl, -⟩
  exact solid

/-- The pattern of a word of the sender's own takes single words only. -/
lemma ownWord_takesWords : TakesWords ownWord :=
  fun _ _ takes => (takes_ownWord.1 takes).1

/-- The pattern of a word for a mode takes single words only. -/
lemma modeWord_takesWords : TakesWords modeWord := by
  intro _ _ takes
  obtain ⟨word, rfl, -⟩ := takes_modeWord.1 takes
  exact word.solid_text

/-- The patterns take these words, one each, and keep these parts. -/
def Fits : List Pattern → List (List Char) → List (List Char) → Prop
  | [], words, parts => words = [] ∧ parts = []
  | pattern :: patterns, words, parts =>
    ∃ word others kept more, words = word :: others ∧ parts = kept ++ more ∧
      pattern.Takes word kept ∧ Fits patterns others more

/-- The words of a text that a row takes fit the patterns of the row. -/
lemma fits_of_takes_row {first : Pattern} {rest : List Pattern}
    (single : ∀ pattern ∈ first :: rest, TakesWords pattern)
    (takes : (row first rest).Takes text parts) : Fits (first :: rest) (Text.words text) parts := by
  obtain ⟨head, tail⟩ := List.forall_mem_cons.1 single
  induction rest generalizing first text parts with
  | nil =>
    obtain ⟨solid, filled⟩ := head _ _ takes
    exact ⟨text, [], parts, [], Text.words_of_solid solid filled, (List.append_nil _).symm, takes,
      rfl, rfl⟩
  | cons next rest ih =>
    obtain ⟨start, gap, behind, kept, more, isGap, rfl, rfl, takes, others⟩ :=
      takes_row_cons.1 takes
    obtain ⟨solid, filled⟩ := head _ _ takes
    obtain ⟨head, later⟩ := List.forall_mem_cons.1 tail
    refine ⟨start, Text.words behind, kept, more, ?_, rfl, takes, ih tail others head later⟩
    rw [isGap.words, Text.words_of_solid solid filled, List.singleton_append]

/-- A row takes a text if the words of the text fit its patterns. -/
lemma takes_row_of_fits {first : Pattern} {rest : List Pattern} (trimmed : Trimmed text)
    (fits : Fits (first :: rest) (Text.words text) parts) : (row first rest).Takes text parts := by
  induction rest generalizing first text parts with
  | nil =>
    obtain ⟨word, _, kept, _, words, rfl, takes, rfl, rfl⟩ := fits
    rw [trimmed.eq_of_words words, List.append_nil]
    exact takes
  | cons next rest ih =>
    obtain ⟨word, others, kept, more, words, rfl, takes, later⟩ := fits
    obtain ⟨second, others', _, _, rfl, -⟩ := id later
    obtain ⟨gap, isGap, whole⟩ := trimmed.parts words
    obtain ⟨trimmed, behind⟩ := trimmed.tail words
    rw [← behind] at later
    exact takes_row_cons.2 ⟨word, gap, _, kept, more, isGap, whole, rfl, takes, ih trimmed later⟩

/-- A row of patterns that take single words takes a trimmed text exactly if they take its words,
one each. -/
lemma takes_row_iff {first : Pattern} {rest : List Pattern}
    (single : ∀ pattern ∈ first :: rest, TakesWords pattern) (trimmed : Trimmed text) :
    (row first rest).Takes text parts ↔ Fits (first :: rest) (Text.words text) parts :=
  ⟨fits_of_takes_row single, takes_row_of_fits trimmed⟩

/-- Keywords and words of the sender's own fit these keywords and any words behind them. -/
lemma fits_words {keywords : List String} {count : Nat} {words : List (List Char)} :
    Fits (keywords.map keyword ++ .replicate count ownWord) words parts ↔
      words = keywords.map String.toList ++ parts ∧ parts.length = count ∧
        ∀ word ∈ parts, Solid word ∧ word ≠ [] := by
  induction keywords generalizing words with
  | nil =>
    rw [List.map_nil, List.map_nil, List.nil_append, List.nil_append]
    -- Behind the keywords there are only words of the sender's own.
    induction count generalizing words parts with
    | zero =>
      constructor
      · rintro ⟨rfl, rfl⟩
        exact ⟨rfl, rfl, nofun⟩
      · rintro ⟨rfl, none, -⟩
        exact ⟨List.eq_nil_of_length_eq_zero none, List.eq_nil_of_length_eq_zero none⟩
    | succ count ih =>
      constructor
      · rintro ⟨word, _, _, _, rfl, rfl, takes, fits⟩
        obtain ⟨isWord, rfl⟩ := takes_ownWord.1 takes
        obtain ⟨rfl, rfl, areWords⟩ := ih.1 fits
        exact ⟨rfl, rfl, List.forall_mem_cons.2 ⟨isWord, areWords⟩⟩
      · rintro ⟨rfl, size, areWords⟩
        obtain ⟨word, others, rfl⟩ := List.exists_cons_of_length_eq_add_one size
        obtain ⟨isWord, areWords⟩ := List.forall_mem_cons.1 areWords
        exact ⟨word, others, [word], others, rfl, rfl, takes_ownWord.2 ⟨isWord, rfl⟩,
          ih.2 ⟨rfl, Nat.succ.inj size, areWords⟩⟩
  | cons word keywords ih =>
    constructor
    · rintro ⟨_, others, _, _, rfl, rfl, ⟨rfl, rfl⟩, fits⟩
      obtain ⟨rfl, rest⟩ := ih.1 fits
      exact ⟨rfl, rest⟩
    · rintro ⟨rfl, rest⟩
      exact ⟨_, _, [], parts, rfl, rfl, ⟨rfl, rfl⟩, ih.2 ⟨rfl, rest⟩⟩

/-- A row of keywords and of words of the sender's own takes a trimmed text exactly if it has these
keywords first and so many words behind them, which are kept. -/
lemma takes_words {first : String} {keywords : List String} {count : Nat}
    (solid : ∀ word ∈ first :: keywords, Solid word.toList ∧ word.toList ≠ [])
    (trimmed : Trimmed text) :
    (row (keyword first) (keywords.map keyword ++ .replicate count ownWord)).Takes text parts ↔
      Text.words text = (first :: keywords).map String.toList ++ parts ∧ parts.length = count := by
  have single : ∀ pattern ∈ (first :: keywords).map keyword ++ .replicate count ownWord,
      TakesWords pattern := by
    intro pattern mem
    obtain mem | mem := List.mem_append.1 mem
    · obtain ⟨word, listed, rfl⟩ := List.mem_map.1 mem
      exact keyword_takesWords (solid word listed)
    · rw [List.eq_of_mem_replicate mem]
      exact ownWord_takesWords
  refine (takes_row_iff single trimmed).trans ((@fits_words _ (first :: keywords) _ _).trans ?_)
  refine and_congr_right fun words => and_iff_left fun word mem => ?_
  exact trimmed.of_mem_words (words ▸ List.mem_append_right _ mem)

end HeatingHub.Command
