import HeatingHub.Proofs.Command.Inversion

/-!
# The tokens of a text

The *tokens* of a text are the words of its content. They depend neither on the case of its letters
nor on the blanks around it (`tokens_eq`). They settle whether a text is a mass command, a command
for one heater, or the question for the mode of one (`parse_eq_all_iff`, `parse_eq_heater_iff`,
`parse_eq_getHeater_iff`), so that such texts are read in whatever case they are typed
(`parse_heater_of_typed`, `parse_getHeater_of_typed`).
-/

namespace HeatingHub

/-- The word for a mode is read as this word. -/
lemma ModeWord.ofText?_text (word : ModeWord) : ofText? word.text = some word := by
  cases word <;> rfl

/-- The word for a mode is a word: it is not empty and holds no blank. -/
lemma ModeWord.solid_text (word : ModeWord) :
    Text.Solid word.text.toList ∧ word.text.toList ≠ [] := by
  cases word <;> decide

namespace Command

/-- The words of a text, in upper case. -/
def tokens (text : String) : List String :=
  (Text.words (content text)).map String.ofList

/-- The tokens of a text are the words of the text in upper case. -/
lemma tokens_eq (text : String) :
    tokens text = (Text.words (Text.upper text.toList)).map String.ofList := by
  rw [tokens, content, Text.upper_trim, Text.words_trim]

/-- The words of the content are the tokens, as characters. -/
lemma words_content {text : String} {members : List String} (words : tokens text = members) :
    Text.words (content text) = members.map String.toList := by
  rw [← words, tokens, List.map_map]
  exact (List.map_id'' (fun _ => String.toList_ofList) _).symm

/-- A content has no blanks at its ends. -/
lemma trimmed_content (text : String) : Text.Trimmed (content text) := by
  rw [content, Text.upper_trim]
  exact Text.trimmed_trim _

/-- Texts that differ only in case have the same tokens. -/
lemma tokens_congr {text other : String} (h : Text.upperString text = Text.upperString other) :
    tokens text = tokens other := by
  rw [tokens_eq, tokens_eq, String.ofList_injective h]

/-- Tokens are in upper case. -/
lemma upperString_of_mem_tokens {text token : String} (mem : token ∈ tokens text) :
    Text.upperString token = token := by
  rw [tokens_eq, Text.words_upper, List.map_map, List.mem_map] at mem
  obtain ⟨word, -, rfl⟩ := mem
  simp [Text.upperString, Text.upper_upper]

/-- Words with spaces between them are the tokens of their text. -/
lemma tokens_of_intercalate {text : String} {members : List String}
    (typed : text.toList = [' '].intercalate (members.map String.toList))
    (h : ∀ word ∈ members, Text.Solid word.toList ∧ word.toList ≠ []) :
    tokens text = members.map Text.upperString := by
  rw [tokens_eq, typed, Text.words_upper, Text.words_intercalate]
  · simp [Text.upperString, Function.comp_def]
  · intro word mem
    obtain ⟨member, listed, rfl⟩ := List.mem_map.1 mem
    exact h member listed

/-! ## Reading by tokens -/

/-- The tokens of the fixed contents. -/
def phrases : List (List String) :=
  [["PING"], ["VERSION"], ["GET", "DEFAULT"], ["GET", "IP"], ["LOCK"],
    ["REMOVE", "EMERGENCY", "PHONE"]]

/-- A text that is neither a fixed content nor asks for help is read by its tokens. -/
lemma parse_of_tokens {text first : String} {rest : List String}
    (words : tokens text = first :: rest) (other : first :: rest ∉ phrases)
    (unhelped : ¬ "HELP".toList <+: first.toList) :
    parse text = ofWords (content text) (first :: rest) := by
  rw [tokens] at words
  rw [parse, ofContent]
  generalize content text = content at words
  -- A phrase would have its own tokens, and a text for help a first token that starts with HELP.
  have phrase : ofPhrase? (String.ofList content) = none := by
    rw [← words] at other
    rw [ofPhrase?.eq_def]
    split
    case h_7 => rfl
    all_goals
      next same =>
      obtain rfl := String.ofList_injective (same.trans String.ofList_toList.symm)
      exact absurd (by decide) other
  have help : "HELP".toList.isPrefixOf content = false := by
    rw [← Bool.not_eq_true, List.isPrefixOf_iff_prefix]
    rintro ⟨others, rfl⟩
    obtain ⟨more, behind, split⟩ :=
      Text.words_append_of_solid (by decide : Text.Solid "HELP".toList) (by decide) others
    rw [split, List.map_cons] at words
    obtain ⟨rfl, -⟩ := List.cons.inj words
    exact unhelped ⟨more, String.toList_ofList.symm⟩
  rw [phrase, words]
  dsimp only
  rw [help, if_neg Bool.false_ne_true]

/-- A text is a mass command exactly if its tokens are `ALL` and the word for a mode. -/
theorem parse_eq_all_iff {text : String} {word : ModeWord} :
    parse text = .all word ↔ tokens text = ["ALL", word.text] := by
  constructor
  · intro h
    have reads := ofContent_reads (content text)
    rw [← parse, h] at reads
    cases reads with
    | words spelled =>
      rw [← tokens] at spelled
      generalize tokens text = words at spelled
      cases spelled
      rfl
  · intro words
    rw [parse_of_tokens words (by cases word <;> decide) (by decide), ofWords, ofAll,
      ModeWord.ofText?_text, Option.elim_some]

/-- A text is a command for one heater exactly if its tokens are `HEATER`, a valid name and the word
for a mode. -/
theorem parse_eq_heater_iff {text name : String} {word : ModeWord} :
    parse text = .heater name word ↔
      tokens text = ["HEATER", name, word.text] ∧ isHeaterName name.toList := by
  constructor
  · intro h
    have reads := ofContent_reads (content text)
    rw [← parse, h] at reads
    cases reads with
    | words spelled =>
      rw [← tokens] at spelled
      generalize tokens text = words at spelled
      cases spelled
      next named => exact ⟨rfl, named⟩
  · rintro ⟨words, named⟩
    have last : [name, word.text].getLast?.bind ModeWord.ofText? = some word :=
      word.ofText?_text
    rw [parse_of_tokens words (by simp [phrases]) (by decide), ofWords, ofHeater, last]
    exact if_pos named

/-- Without its first two words, a content has the words that are left, and no blanks at its
ends. -/
lemma words_dropWord {text first second : String} {others : List String}
    (words : tokens text = first :: second :: others) :
    Text.Trimmed (dropWord (dropWord (content text))) ∧
      (Text.words (dropWord (dropWord (content text)))).map String.ofList = others := by
  obtain ⟨trimmed, whole⟩ := (trimmed_content text).tail (words_content words)
  obtain ⟨trimmed, whole⟩ := trimmed.tail whole
  refine ⟨trimmed, (congrArg (List.map String.ofList) whole).trans ?_⟩
  rw [List.map_map]
  exact List.map_id'' (fun _ => String.ofList_toList) _

/-- Words that ask for the mode of a heater are `GET`, `HEATER` and more, and the name is what
stands behind the first two. -/
lemma Spelled.getHeater_inv {content : List Char} {words : List String} {name : String}
    (spelled : Spelled content words (.getHeater name)) :
    (∃ second others, words = "GET" :: "HEATER" :: second :: others) ∧
      isHeaterName (dropWord (dropWord content)) ∧
      name = String.ofList (dropWord (dropWord content)) := by
  cases spelled
  next second others named => exact ⟨⟨second, others, rfl⟩, named, rfl⟩

/-- A text asks for the mode of a heater exactly if its tokens are `GET`, `HEATER` and a valid
name. -/
theorem parse_eq_getHeater_iff {text name : String} :
    parse text = .getHeater name ↔
      tokens text = ["GET", "HEATER", name] ∧ isHeaterName name.toList := by
  constructor
  · intro h
    have reads := ofContent_reads (content text)
    rw [← parse, h] at reads
    cases reads with
    | words spelled =>
      rw [← tokens] at spelled
      obtain ⟨⟨second, others, words⟩, named, rfl⟩ := spelled.getHeater_inv
      obtain ⟨-, rest⟩ := words_dropWord words
      obtain ⟨solid, filled⟩ := Text.solid_of_isHeaterName named
      rw [Text.words_of_solid solid filled] at rest
      rw [words, ← rest, String.toList_ofList]
      exact ⟨rfl, named⟩
  · rintro ⟨words, named⟩
    obtain ⟨trimmed, rest⟩ := words_dropWord words
    obtain ⟨third, nothing, whole, rfl, none⟩ := List.map_eq_cons_iff.1 rest
    rw [List.map_eq_nil_iff.1 none] at whole
    rw [String.toList_ofList] at named
    rw [parse_of_tokens words (by simp [phrases]) (by decide), ofWords, ofGet,
      trimmed.eq_of_words whole, if_pos named]

/-- The name in a command for one heater is an upper name. -/
lemma heater_isUpperName {text name : String} {word : ModeWord}
    (h : parse text = .heater name word) : isUpperName name.toList := by
  obtain ⟨words, named⟩ := parse_eq_heater_iff.1 h
  have upper : Text.upperString name = name :=
    upperString_of_mem_tokens (words ▸ List.mem_cons_of_mem _ List.mem_cons_self)
  rw [← upper]
  exact Text.isUpperName_upperString named

/-! ## Typed texts -/

section

variable {text name : String} (named : isHeaterName name.toList)

include named

/-- Upper case changes nothing about whether a name is one of a heater. -/
lemma isHeaterName_upperString : isHeaterName (Text.upperString name).toList :=
  Text.isHeaterName_of_isUpperName (Text.isUpperName_upperString named)

/-- A text is a command for one heater when it is typed like one, in any case of its letters. -/
lemma parse_heater_of_typed {word : ModeWord}
    (typed : Text.upperString text = Text.upperString ("HEATER " ++ name ++ " " ++ word.text)) :
    parse text = .heater (Text.upperString name) word := by
  have words : tokens text = ["HEATER", name, word.text].map Text.upperString := by
    rw [tokens_congr typed]
    apply tokens_of_intercalate
    · simp [List.intercalate]
    · simp only [List.forall_mem_cons]
      exact ⟨by decide, Text.solid_of_isHeaterName named, word.solid_text, nofun⟩
  have upper : Text.upperString word.text = word.text := by cases word <;> rfl
  rw [List.map_cons, List.map_cons, List.map_cons, List.map_nil, upper] at words
  exact parse_eq_heater_iff.2 ⟨words, isHeaterName_upperString named⟩

/-- A text asks for the mode of a heater when it is typed like that, in any case of its letters. -/
lemma parse_getHeater_of_typed
    (typed : Text.upperString text = Text.upperString ("GET HEATER " ++ name)) :
    parse text = .getHeater (Text.upperString name) := by
  have words : tokens text = ["GET", "HEATER", name].map Text.upperString := by
    rw [tokens_congr typed]
    apply tokens_of_intercalate
    · simp [List.intercalate]
    · simp only [List.forall_mem_cons]
      exact ⟨by decide, by decide, Text.solid_of_isHeaterName named, nofun⟩
  exact parse_eq_getHeater_iff.2 ⟨words, isHeaterName_upperString named⟩

end

end Command

end HeatingHub
