import HeatingHub.Proofs.Command.Meaning
import HeatingHub.Proofs.Command.Row

/-!
# Commands by their forms

Each form takes the contents that it is meant for: most are told by their words (`Form.takes_all`,
`Form.takes_unlock`, `Form.words_of_takes_phone`, `Form.takes_debug`), and the two commands for a
heater by what stands between their words (`Form.takes_heater`, `Form.takes_get`). The first word
settles which form a content can have (`Form.opens`), so the order of the forms does not matter, and
that of the ways into a content matters to the name of a heater only (`Form.parts?_heater`).

So reading a text by its words, as `parse` does, is the same as trying the forms one after the other
(`parse_eq_parseByForms`).
-/

namespace HeatingHub.Command

open Text (Pattern Gap Trimmed Solid)

section

variable {text : List Char} {parts : List (List Char)}

/-! ## Forms -/

namespace Form

/-- The words that say what is done to a phone, in front of others, are kept as they stand. -/
lemma takes_row_phoneEdit {next : Pattern} {rest : List Pattern} :
    (row phoneEdit (next :: rest)).Takes text parts ↔ ∃ edit own, parts = edit :: own ∧
      (edit = "ADD".toList ∧ (row (keyword "ADD") (next :: rest)).Takes text own ∨
        edit = "REMOVE".toList ∧ (row (keyword "REMOVE") (next :: rest)).Takes text own ∨
        ∃ gap, Gap gap ∧ edit = "SET".toList ++ gap ++ "EMERGENCY".toList ∧
          ∃ gap' behind, Gap gap' ∧ text = edit ++ gap' ++ behind ∧
            (row next rest).Takes behind own) := by
  rw [takes_row_cons]
  constructor
  · rintro ⟨edit, gap, behind, _, own, isGap, rfl, rfl, ⟨_, rfl, takes⟩, others⟩
    obtain ⟨rfl, rfl⟩ | ⟨rfl, rfl⟩ | takes := takes
    · exact ⟨_, own, rfl, .inl ⟨rfl, takes_row_keyword.2 ⟨gap, behind, isGap, rfl, others⟩⟩⟩
    · exact ⟨_, own, rfl, .inr (.inl ⟨rfl, takes_row_keyword.2 ⟨gap, behind, isGap, rfl, others⟩⟩)⟩
    · obtain ⟨gap', _, isGap', rfl, rfl, rfl⟩ := takes_row_keyword.1 takes
      exact ⟨_, own, rfl, .inr (.inr ⟨gap', isGap', rfl, gap, behind, isGap, rfl, others⟩)⟩
  · rintro ⟨_, own, rfl, ⟨rfl, takes⟩ | ⟨rfl, takes⟩ | ⟨gap', isGap', rfl, takes⟩⟩
    · obtain ⟨gap, behind, isGap, rfl, others⟩ := takes_row_keyword.1 takes
      exact ⟨_, gap, behind, _, own, isGap, rfl, rfl, ⟨[], rfl, .inl ⟨rfl, rfl⟩⟩, others⟩
    · obtain ⟨gap, behind, isGap, rfl, others⟩ := takes_row_keyword.1 takes
      exact ⟨_, gap, behind, _, own, isGap, rfl, rfl, ⟨[], rfl, .inr (.inl ⟨rfl, rfl⟩)⟩, others⟩
    · obtain ⟨gap, behind, isGap, rfl, others⟩ := takes
      have set : (row (keyword "SET") [keyword "EMERGENCY"]).Takes
          ("SET".toList ++ gap' ++ "EMERGENCY".toList) [] :=
        takes_row_keyword.2 ⟨gap', _, isGap', rfl, rfl, rfl⟩
      exact ⟨_, gap, behind, _, own, isGap, rfl, rfl, ⟨[], rfl, .inr (.inr set)⟩, others⟩

/-- A command for a heater is `HEATER`, a field, and the word for a mode. -/
lemma takes_heater : Form.heater.pattern.Takes text parts ↔
    ∃ (gap field gap' : List Char) (word : ModeWord), Gap gap ∧ Gap gap' ∧ Field field ∧
      text = "HEATER".toList ++ gap ++ field ++ gap' ++ word.text.toList ∧
      parts = [field, word.text.toList] := by
  rw [pattern, takes_row_keyword]
  constructor
  · rintro ⟨gap, _, isGap, rfl, takes⟩
    obtain ⟨field, gap', behind, _, _, isGap', rfl, rfl, ⟨_, rfl, filled, line, rfl⟩, last⟩ :=
      takes_row_cons.1 takes
    obtain ⟨word, rfl, rfl⟩ := takes_modeWord.1 last
    refine ⟨gap, field, gap', word, isGap, isGap', ⟨filled, fun mem => ?_⟩, by simp, rfl⟩
    exact absurd (line _ mem) (by decide)
  · rintro ⟨gap, field, gap', word, isGap, isGap', ⟨filled, line⟩, rfl, rfl⟩
    refine ⟨gap, field ++ gap' ++ word.text.toList, isGap, by simp, takes_row_cons.2
      ⟨field, gap', _, [field], _, isGap', rfl, rfl, ⟨[], rfl, filled, fun c mem => ?_, rfl⟩,
        takes_modeWord.2 ⟨word, rfl, rfl⟩⟩⟩
    exact bne_iff_ne.2 fun same => line (same ▸ mem)

/-- The question for the mode of a heater is `GET`, `HEATER`, and a field. -/
lemma takes_get : Form.get.pattern.Takes text parts ↔
    ∃ gap gap' field : List Char, Gap gap ∧ Gap gap' ∧ Field field ∧
      text = "GET".toList ++ gap ++ "HEATER".toList ++ gap' ++ field ∧ parts = [field] := by
  rw [pattern, takes_row_keyword]
  constructor
  · rintro ⟨gap, _, isGap, rfl, takes⟩
    obtain ⟨gap', field, isGap', rfl, _, rfl, filled, line, rfl⟩ := takes_row_keyword.1 takes
    refine ⟨gap, gap', field, isGap, isGap', ⟨filled, fun mem => ?_⟩, by simp, rfl⟩
    exact absurd (line _ mem) (by decide)
  · rintro ⟨gap, gap', field, isGap, isGap', ⟨filled, line⟩, rfl, rfl⟩
    refine ⟨gap, "HEATER".toList ++ gap' ++ field, isGap, by simp, takes_row_keyword.2
      ⟨gap', field, isGap', rfl, [], rfl, filled, fun c mem => ?_, rfl⟩⟩
    exact bne_iff_ne.2 fun same => line (same ▸ mem)

section

variable (trimmed : Trimmed text)

include trimmed

/-- A mass command is `ALL` and the word for a mode. -/
lemma takes_all : Form.all.pattern.Takes text parts ↔
    ∃ word : ModeWord, Text.words text = ["ALL".toList, word.text.toList] ∧
      parts = [word.text.toList] := by
  have single : ∀ pattern ∈ [keyword "ALL", modeWord], TakesWords pattern := by
    simp only [List.forall_mem_cons]
    exact ⟨keyword_takesWords (by decide), modeWord_takesWords, nofun⟩
  rw [pattern, takes_row_iff single trimmed]
  constructor
  · rintro ⟨_, _, _, _, words, rfl, ⟨rfl, rfl⟩, _, _, _, _, rfl, rfl, takes, rfl, rfl⟩
    obtain ⟨word, rfl, rfl⟩ := takes_modeWord.1 takes
    exact ⟨word, words, rfl⟩
  · rintro ⟨word, words, rfl⟩
    exact ⟨_, _, [], _, words, rfl, ⟨rfl, rfl⟩, _, [], _, [], rfl, rfl,
      takes_modeWord.2 ⟨word, rfl, rfl⟩, rfl, rfl⟩

/-- To unlock is `UNLOCK` and a word. -/
lemma takes_unlock : Form.unlock.pattern.Takes text parts ↔
    Text.words text = "UNLOCK".toList :: parts ∧ parts.length = 1 :=
  @takes_words _ _ "UNLOCK" [] 1 (by decide) trimmed

/-- A diagnostic command is `DEBUG` and a word. -/
lemma takes_debug : Form.debug.pattern.Takes text parts ↔
    Text.words text = "DEBUG".toList :: parts ∧ parts.length = 1 :=
  @takes_words _ _ "DEBUG" [] 1 (by decide) trimmed

/-- The words of an edit of a phone: what is done, `PHONE`, and two words. -/
lemma words_of_takes_phone (takes : Form.phone.pattern.Takes text parts) :
    ∃ edit own, parts = edit :: own ∧ own.length = 2 ∧
      (edit = "ADD".toList ∧ Text.words text = "ADD".toList :: "PHONE".toList :: own ∨
        edit = "REMOVE".toList ∧ Text.words text = "REMOVE".toList :: "PHONE".toList :: own ∨
        edit ∉ ["ADD".toList, "REMOVE".toList] ∧
          Text.words text = "SET".toList :: "EMERGENCY".toList :: "PHONE".toList :: own) := by
  obtain ⟨edit, own, rfl, ⟨rfl, row⟩ | ⟨rfl, row⟩ | set⟩ := takes_row_phoneEdit.1 takes
  · obtain ⟨words, size⟩ := (@takes_words _ _ "ADD" ["PHONE"] 2 (by decide) trimmed).1 row
    exact ⟨_, own, rfl, size, .inl ⟨rfl, words⟩⟩
  · obtain ⟨words, size⟩ := (@takes_words _ _ "REMOVE" ["PHONE"] 2 (by decide) trimmed).1 row
    exact ⟨_, own, rfl, size, .inr (.inl ⟨rfl, words⟩)⟩
  · obtain ⟨gap, isGap, rfl, gap', behind, isGap', whole, others⟩ := set
    have later : (row (keyword "EMERGENCY") [keyword "PHONE", ownWord, ownWord]).Takes
        ("EMERGENCY".toList ++ gap' ++ behind) own :=
      takes_row_keyword.2 ⟨gap', behind, isGap', rfl, others⟩
    obtain ⟨words, size⟩ := (@takes_words text own "SET" ["EMERGENCY", "PHONE"] 2 (by decide)
      trimmed).1 (takes_row_keyword.2 ⟨gap, _, isGap, by rw [whole]; simp, later⟩)
    refine ⟨_, own, rfl, size, .inr (.inr ⟨fun mem => ?_, words⟩)⟩
    have first : ("SET".toList ++ gap ++ "EMERGENCY".toList).head? = some 'S' := rfl
    obtain same | mem := List.mem_cons.1 mem
    · exact absurd (same ▸ first) (by decide)
    · exact absurd (List.mem_singleton.1 mem ▸ first) (by decide)

/-- These words are an edit of a phone. -/
lemma takes_phone_of_words {keywords : List String}
    (known : keywords ∈ [["ADD"], ["REMOVE"], ["SET", "EMERGENCY"]]) {own : List (List Char)}
    (words : Text.words text = keywords.map String.toList ++ "PHONE".toList :: own)
    (size : own.length = 2) : ∃ edit, Form.phone.pattern.Takes text (edit :: own) := by
  simp only [List.mem_cons, List.not_mem_nil, or_false] at known
  obtain rfl | rfl | rfl := known
  · have takes := (@takes_words _ _ "ADD" ["PHONE"] 2 (by decide) trimmed).2 ⟨words, size⟩
    exact ⟨_, takes_row_phoneEdit.2 ⟨_, own, rfl, .inl ⟨rfl, takes⟩⟩⟩
  · have takes := (@takes_words _ _ "REMOVE" ["PHONE"] 2 (by decide) trimmed).2 ⟨words, size⟩
    exact ⟨_, takes_row_phoneEdit.2 ⟨_, own, rfl, .inr (.inl ⟨rfl, takes⟩)⟩⟩
  · have takes := (@takes_words _ _ "SET" ["EMERGENCY", "PHONE"] 2 (by decide) trimmed).2
      ⟨words, size⟩
    obtain ⟨gap, _, isGap, whole, later⟩ := takes_row_keyword.1 takes
    obtain ⟨gap', behind, isGap', rfl, others⟩ := takes_row_keyword.1 later
    exact ⟨_, takes_row_phoneEdit.2 ⟨_, own, rfl, .inr (.inr ⟨gap, isGap, rfl, gap', behind, isGap',
      by rw [whole]; simp, others⟩)⟩⟩

/-- A single word between `HEATER` and the word for a mode is the part that is kept, without any of
the blanks around it. -/
lemma parts?_heater {name : List Char} {word : ModeWord}
    (words : Text.words text = ["HEATER".toList, name, word.text.toList]) :
    Form.heater.pattern.parts? text = some [name, word.text.toList] := by
  obtain ⟨gap, isGap, whole⟩ := trimmed.parts words
  obtain ⟨trimmed, words⟩ := trimmed.tail words
  obtain ⟨solid, filled⟩ := trimmed.word words
  obtain ⟨gap', isGap', whole'⟩ := trimmed.parts words
  obtain ⟨trimmed, words⟩ := trimmed.tail words
  obtain ⟨solid', filled'⟩ := trimmed.word words
  rw [trimmed.eq_of_words words] at whole'
  rw [whole, whole', List.append_assoc, List.append_assoc]
  -- What starts with a character that is not blank is not led on to by blanks.
  have ends {first : List Char} (solid : Solid first) (filled : first ≠ []) (rest : List Char) :
      ∀ c ∈ (first ++ rest).head?, Text.isBlank c = false := by
    intro c mem
    cases first with
    | nil => exact absurd rfl filled
    | cons d first => exact solid c (Option.mem_some.1 mem ▸ List.mem_cons_self)
  have mode : modeWord.parts? word.text.toList = some [word.text.toList] := by
    refine Pattern.parts?_eq_some (takes_modeWord.2 ⟨word, rfl, rfl⟩) fun others takes => ?_
    obtain ⟨_, -, rfl⟩ := takes_modeWord.1 takes
    rfl
  have last := Pattern.parts?_seq_many isGap'.filled isGap'.blank
    (List.append_nil word.text.toList ▸ ends solid' filled' []) mode
  refine (Pattern.parts?_seq_literal _).trans <|
    Pattern.parts?_seq_many isGap.filled isGap.blank (ends solid filled _) <|
      Pattern.parts?_seq_kept_few filled (fun c mem => ?_) (fun first more _ some split => ?_) last
  · exact bne_iff_ne.2 fun same => solid.not_mem (by decide) (same ▸ mem)
  · refine Pattern.parts?_eq_none_iff.2 ?_
    rintro _ ⟨start, _, _, _, same, -, ⟨filled, blank, -⟩, -⟩
    have head := ends (fun c mem => solid c (split ▸ List.mem_append_right _ mem)) some
      (gap' ++ word.text.toList)
    cases start with
    | nil => exact filled rfl
    | cons c start =>
      have first := head c (by rw [same]; rfl)
      rw [blank c List.mem_cons_self] at first
      cases first

end

/-! ## Reading -/

variable {form : Form}

/-- A form reads the command that all choices of parts agree on; if there is none, the content is
an invalid one. -/
lemma getD_read? {command : Command}
    (agree : ∀ parts, form.pattern.Takes text parts → form.command parts = command)
    (some : command ≠ .invalid → ∃ parts, form.pattern.Takes text parts) :
    (form.read? text).getD .invalid = command := by
  rw [read?]
  cases found : form.pattern.parts? text with
  | none =>
    by_contra other
    obtain ⟨parts, takes⟩ := some (Ne.symm other)
    exact Pattern.parts?_eq_none_iff.1 found parts takes
  | some parts => exact agree parts (Pattern.takes_of_parts? found)

/-- A form reads no command in a content that it does not take. -/
lemma read?_eq_none (refused : ∀ parts, ¬ form.pattern.Takes text parts) :
    form.read? text = none :=
  Option.map_eq_none_iff.2 (Pattern.parts?_eq_none_iff.2 refused)

/-- The words that a content of a form can begin with. -/
def heads : Form → List String
  | .all => ["ALL"]
  | .heater => ["HEATER"]
  | .get => ["GET"]
  | .unlock => ["UNLOCK"]
  | .phone => ["ADD", "REMOVE", "SET"]
  | .debug => ["DEBUG"]

/-- No two forms begin with the same word. -/
lemma eq_of_mem_heads (one other : Form) :
    ∀ first ∈ one.heads, first ∈ other.heads → one = other := by
  cases one <;> cases other <;> decide

/-- A content of a form begins with one of its words. -/
lemma opens (trimmed : Trimmed text) (takes : form.pattern.Takes text parts) :
    ∃ first ∈ form.heads, ∃ others, Text.words text = first.toList :: others := by
  have begins {word : String} {next : Pattern} {rest : List Pattern}
      (isWord : Solid word.toList ∧ word.toList ≠ [])
      (takes : (row (keyword word) (next :: rest)).Takes text parts) :
      ∃ others, Text.words text = word.toList :: others := by
    obtain ⟨gap, behind, isGap, rfl, -⟩ := takes_row_keyword.1 takes
    exact ⟨Text.words behind, by rw [isGap.words, Text.words_of_solid isWord.1 isWord.2]; rfl⟩
  cases form with
  | all => exact ⟨"ALL", .head _, begins (by decide) takes⟩
  | heater => exact ⟨"HEATER", .head _, begins (by decide) takes⟩
  | get => exact ⟨"GET", .head _, begins (by decide) takes⟩
  | unlock => exact ⟨"UNLOCK", .head _, begins (by decide) takes⟩
  | debug => exact ⟨"DEBUG", .head _, begins (by decide) takes⟩
  | phone =>
    obtain ⟨_, own, -, -, ⟨-, words⟩ | ⟨-, words⟩ | ⟨-, words⟩⟩ := words_of_takes_phone trimmed takes
    · exact ⟨"ADD", .head _, _, words⟩
    · exact ⟨"REMOVE", .tail _ (.head _), _, words⟩
    · exact ⟨"SET", .tail _ (.tail _ (.head _)), _, words⟩

end Form

end

section

variable {text first : String} {arguments : List String}

/-- The words of a content are its tokens. -/
lemma tokens_of_words {members : List (List Char)}
    (whole : Text.words (content text) = first.toList :: members) :
    tokens text = first :: members.map String.ofList := by
  rw [tokens, whole, List.map_cons, String.ofList_toList]

/-- The words behind the first token are the arguments. -/
lemma arguments_of_words {members : List (List Char)} (words : tokens text = first :: arguments)
    (whole : Text.words (content text) = first.toList :: members) :
    arguments = members.map String.ofList :=
  (List.cons.inj (words.symm.trans (tokens_of_words whole))).2

/-- The form that begins with the first token is the only one that can match. -/
lemma ofForms_eq {form : Form} (words : tokens text = first :: arguments)
    (head : first ∈ form.heads) :
    ofForms (content text) = (form.read? (content text)).getD .invalid := by
  have none (other : Form) (apart : other ≠ form) : other.read? (content text) = none := by
    refine Form.read?_eq_none fun parts takes => ?_
    obtain ⟨word, mem, others, whole⟩ := Form.opens (trimmed_content text) takes
    obtain rfl := (List.cons.inj (words.symm.trans (tokens_of_words whole))).1
    exact apart (Form.eq_of_mem_heads other form first mem head)
  have only : Form.every.findSome? (·.read? (content text)) = form.read? (content text) := by
    cases read : form.read? (content text) <;> cases form <;>
      simp [Form.every, none, read]
  rw [ofForms, only]

/-- A content whose first token no form begins with, or that has no token, has no form. -/
lemma ofForms_of_unknown (unknown : ∀ form : Form, ∀ first ∈ form.heads, ∀ arguments,
    tokens text ≠ first :: arguments) : ofForms (content text) = .invalid := by
  have none (form : Form) : form.read? (content text) = none := by
    refine Form.read?_eq_none fun parts takes => ?_
    obtain ⟨word, mem, others, whole⟩ := Form.opens (trimmed_content text) takes
    exact unknown form word mem _ (tokens_of_words whole)
  simp [ofForms, Form.every, none]

/-- A mass command is read by its form as by its words. -/
lemma ofForms_all (words : tokens text = "ALL" :: arguments) :
    ofForms (content text) = ofAll arguments := by
  have trimmed := trimmed_content text
  refine (@ofForms_eq _ _ _ .all words (.head _)).trans (Form.getD_read? ?_ fun some => ?_)
  · intro parts takes
    obtain ⟨word, whole, rfl⟩ := (Form.takes_all trimmed).1 takes
    rw [arguments_of_words words whole]
    rfl
  · rw [ofAll.eq_def] at some
    split at some
    · next token =>
      cases known : ModeWord.ofText? token with
      | some word =>
        rw [ModeWord.ofText?_inv known] at words
        exact ⟨_, (Form.takes_all trimmed).2 ⟨word, words_content words, rfl⟩⟩
      | none => exact absurd (by rw [known]; rfl) some
    · exact absurd rfl some

/-- A command to unlock is read by its form as by its words. -/
lemma ofForms_unlock (words : tokens text = "UNLOCK" :: arguments) :
    ofForms (content text) = ofUnlock arguments := by
  have trimmed := trimmed_content text
  refine (@ofForms_eq _ _ _ .unlock words (.head _)).trans (Form.getD_read? ?_ fun some => ?_)
  · intro parts takes
    obtain ⟨whole, size⟩ := (Form.takes_unlock trimmed).1 takes
    obtain ⟨pin, rfl⟩ := List.length_eq_one_iff.1 size
    rw [arguments_of_words words whole]
    rfl
  · rw [ofUnlock.eq_def] at some
    split at some
    · next pin => exact ⟨[pin.toList], (Form.takes_unlock trimmed).2 ⟨words_content words, rfl⟩⟩
    · exact absurd rfl some

/-- A diagnostic command is read by its form as by its words. -/
lemma ofForms_debug (words : tokens text = "DEBUG" :: arguments) :
    ofForms (content text) = ofDebug arguments := by
  have trimmed := trimmed_content text
  refine (@ofForms_eq _ _ _ .debug words (.head _)).trans (Form.getD_read? ?_ fun some => ?_)
  · intro parts takes
    obtain ⟨whole, size⟩ := (Form.takes_debug trimmed).1 takes
    obtain ⟨topic, rfl⟩ := List.length_eq_one_iff.1 size
    rw [arguments_of_words words whole]
    rfl
  · rw [ofDebug.eq_def] at some
    split at some
    · next topic => exact ⟨[topic.toList], (Form.takes_debug trimmed).2 ⟨words_content words, rfl⟩⟩
    · exact absurd rfl some

/-- The tokens of an edit of a phone, and the edit. -/
lemma edit_of_takes_phone {parts : List (List Char)}
    (takes : Form.phone.pattern.Takes (content text) parts) : ∃ pin number,
      (tokens text = ["ADD", "PHONE", pin, number] ∧
        Form.phone.command parts = .addPhone pin number) ∨
      (tokens text = ["REMOVE", "PHONE", pin, number] ∧
        Form.phone.command parts = .removePhone pin number) ∨
      (tokens text = ["SET", "EMERGENCY", "PHONE", pin, number] ∧
        Form.phone.command parts = .setEmergencyPhone pin number) := by
  obtain ⟨edit, own, rfl, size, cases⟩ := Form.words_of_takes_phone (trimmed_content text) takes
  obtain ⟨pin, number, rfl⟩ := List.length_eq_two.1 size
  refine ⟨String.ofList pin, String.ofList number, ?_⟩
  obtain ⟨rfl, whole⟩ | ⟨rfl, whole⟩ | ⟨other, whole⟩ := cases
  · exact .inl ⟨tokens_of_words whole, rfl⟩
  · exact .inr (.inl ⟨tokens_of_words whole, rfl⟩)
  · refine .inr (.inr ⟨tokens_of_words whole, ?_⟩)
    obtain ⟨noAdd, other⟩ := not_or.1 (mt List.mem_cons.2 other)
    rw [Form.command, if_neg noAdd, if_neg (mt List.mem_singleton.2 other)]

/-- An edit of a phone with these tokens has its form. -/
lemma takes_phone_of_tokens {keywords : List String} {pin number : String}
    (known : keywords ∈ [["ADD"], ["REMOVE"], ["SET", "EMERGENCY"]])
    (words : tokens text = keywords ++ ["PHONE", pin, number]) :
    ∃ parts, Form.phone.pattern.Takes (content text) parts := by
  have whole := words_content words
  rw [List.map_append] at whole
  obtain ⟨edit, takes⟩ := Form.takes_phone_of_words (trimmed_content text) known whole rfl
  exact ⟨_, takes⟩

/-- An edit of a phone is read by its form as by its words. -/
lemma ofForms_phone (words : tokens text = first :: arguments) (head : first ∈ Form.phone.heads) :
    ofForms (content text) = ofWords (content text) (first :: arguments) := by
  refine (ofForms_eq words head).trans (Form.getD_read? ?_ fun some => ?_)
  · intro parts takes
    obtain ⟨pin, number, ⟨spelled, same⟩ | ⟨spelled, same⟩ | ⟨spelled, same⟩⟩ :=
      edit_of_takes_phone takes
    all_goals
      rw [← words, spelled, same]
      rfl
  · simp only [Form.heads, List.mem_cons, List.not_mem_nil, or_false] at head
    obtain rfl | rfl | rfl := head
    · rw [ofWords, ofAdd.eq_def] at some
      split at some
      · exact @takes_phone_of_tokens _ ["ADD"] _ _ (by decide) words
      · exact absurd rfl some
    · rw [ofWords, ofRemove.eq_def] at some
      split at some
      · exact @takes_phone_of_tokens _ ["REMOVE"] _ _ (by decide) words
      · exact absurd rfl some
    · rw [ofWords, ofSet.eq_def] at some
      split at some
      · exact @takes_phone_of_tokens _ ["SET", "EMERGENCY"] _ _ (by decide) words
      · exact absurd rfl some

/-- A content has the form of a command for a heater exactly if the pattern of that form takes
it. -/
lemma heaterForm_iff_takes {content : List Char} :
    HeaterForm content ↔ ∃ parts, Form.heater.pattern.Takes content parts := by
  constructor
  · rintro ⟨gap, field, gap', word, isGap, isGap', isField, whole⟩
    exact ⟨_, Form.takes_heater.2 ⟨gap, field, gap', word, isGap, isGap', isField, whole, rfl⟩⟩
  · rintro ⟨_, takes⟩
    obtain ⟨gap, field, gap', word, isGap, isGap', isField, whole, -⟩ := Form.takes_heater.1 takes
    exact ⟨gap, field, gap', word, isGap, isGap', isField, whole⟩

/-- A content has the form of a question for a heater exactly if the pattern of that form takes
it. -/
lemma getForm_iff_takes {content : List Char} :
    GetForm content ↔ ∃ parts, Form.get.pattern.Takes content parts := by
  constructor
  · rintro ⟨gap, gap', field, isGap, isGap', isField, whole⟩
    exact ⟨_, Form.takes_get.2 ⟨gap, gap', field, isGap, isGap', isField, whole, rfl⟩⟩
  · rintro ⟨_, takes⟩
    obtain ⟨gap, gap', field, isGap, isGap', isField, whole, -⟩ := Form.takes_get.1 takes
    exact ⟨gap, gap', field, isGap, isGap', isField, whole⟩

/-- A valid name and the word for a mode are a command for one heater. -/
lemma ofHeater_of_name {name : String} {word : ModeWord} (named : isHeaterName name.toList)
    (content : List Char) : ofHeater content [name, word.text] = .heater name word := by
  have last : [name, word.text].getLast?.bind ModeWord.ofText? = some word := word.ofText?_text
  rw [ofHeater, last]
  exact if_pos named

/-- A command for a heater is read by its form as by its words. -/
lemma ofForms_heater (words : tokens text = "HEATER" :: arguments) :
    ofForms (content text) = ofHeater (content text) arguments := by
  rw [@ofForms_eq _ _ _ .heater words (.head _)]
  by_cases form : HeaterForm (content text)
  · obtain ⟨members, word, whole, last⟩ := form.words
    obtain rfl := arguments_of_words words whole
    have last : (members.map String.ofList).getLast? = some word.text := by
      rw [List.getLast?_map, last, Option.map_some, String.ofList_toList]
    obtain ⟨middle, edged, spelled⟩ := heater_between words last
    obtain ⟨name, shape, named⟩ | read := ofHeater_cases words last edged spelled
    · -- The pattern keeps the name, as it tries the longest rows of blanks first.
      rw [shape] at words ⊢
      have parts := Form.parts?_heater (trimmed_content text) (words_content words)
      rw [Form.read?, parts, ofHeater_of_name named, Option.map_some, Option.getD_some,
        Form.command, if_pos named, String.ofList_toList, word.ofText?_text, Option.elim_some,
        String.ofList_toList]
    · rw [if_pos ((heaterForm_iff edged spelled).1 form)] at read
      rw [read]
      refine Form.getD_read? (fun parts takes => ?_) fun _ => heaterForm_iff_takes.1 form
      obtain ⟨gap, field, gap', other, isGap, isGap', -, whole', rfl⟩ := Form.takes_heater.1 takes
      refine if_neg fun named => ?_
      -- A field that is a valid name would be the only word there.
      obtain ⟨solid, filled⟩ := Text.solid_of_isHeaterName named
      obtain ⟨solid', filled'⟩ := other.solid_text
      have whole' : Text.words (content text) =
          ["HEATER".toList, field, other.text.toList] := by
        rw [whole', isGap'.words, isGap.words, Text.words_of_solid solid filled,
          Text.words_of_solid solid' filled', Text.words_of_solid (by decide) (by decide)]
        rfl
      have heater := @ofHeater_of_name (String.ofList field) other
        (by rwa [String.toList_ofList]) (content text)
      rw [arguments_of_words words whole', List.map_cons, List.map_singleton,
        String.ofList_toList, heater] at read
      cases read
  · have none : Form.heater.read? (content text) = none :=
      Form.read?_eq_none fun parts takes => form (heaterForm_iff_takes.2 ⟨parts, takes⟩)
    rw [none, Option.getD_none]
    cases known : arguments.getLast?.bind ModeWord.ofText? with
    | none => rw [ofHeater.eq_def, known]
    | some word =>
      obtain ⟨token, last, same⟩ := Option.bind_eq_some_iff.1 known
      rw [ModeWord.ofText?_inv same] at last
      obtain ⟨middle, edged, spelled⟩ := heater_between words last
      obtain ⟨name, rfl, -⟩ | read := ofHeater_cases words last edged spelled
      · exact absurd (heaterForm_of_name words) form
      · rw [read, if_neg (mt (heaterForm_iff edged spelled).2 form)]

/-- A question for a heater is read by its form as by its words. -/
lemma ofForms_get (words : tokens text = "GET" :: arguments) :
    ofForms (content text) = ofGet (content text) arguments := by
  have trimmed := trimmed_content text
  refine (@ofForms_eq _ _ _ .get words (.head _)).trans (Form.getD_read? ?_ fun some => ?_)
  · intro parts takes
    have form := getForm_iff_takes.2 ⟨parts, takes⟩
    obtain ⟨second, others, whole⟩ := form.words trimmed
    obtain rfl := arguments_of_words words whole
    obtain ⟨gap, gap', field, isGap, isGap', -, spelled, rfl⟩ := Form.takes_get.1 takes
    have line := (getForm_iff words).1 form
    have ends := (words_dropWord words).1.last
    -- The content does not end with a blank, so only the start of the field can be trimmed.
    have name : Text.trim field = dropWord (dropWord (content text)) := by
      rw [spelled, dropWord_get isGap isGap'] at ends ⊢
      exact Text.trimEnd_eq_self ends
    rw [List.map_cons, List.map_cons, String.ofList_toList, ofGet, if_pos line, Form.command, name]
  · rw [ofGet.eq_def] at some
    split at some
    · refine getForm_iff_takes.1 ((getForm_iff words).2 ?_)
      by_contra lines
      dsimp only at some
      split at some
      · next named =>
        obtain ⟨solid, -⟩ := Text.solid_of_isHeaterName named
        exact lines (all_ne_lineFeed_iff.2 (solid.not_mem (by decide)))
      · exact some rfl
    · exact absurd rfl some

/-- A content is read by the forms as by its words. -/
lemma ofForms_eq_ofWords (text : String) :
    ofForms (content text) = ofWords (content text) (tokens text) := by
  generalize words : tokens text = members
  rw [ofWords.eq_def]
  split
  · exact ofForms_all words
  · exact ofForms_heater words
  · exact ofForms_get words
  · exact ofForms_unlock words
  · exact ofForms_phone words (.head _)
  · exact ofForms_phone words (.tail _ (.head _))
  · exact ofForms_phone words (.tail _ (.tail _ (.head _)))
  · exact ofForms_debug words
  · next noAll noHeater noGet noUnlock noAdd noRemove noSet noDebug =>
    refine ofForms_of_unknown fun form first head arguments same => ?_
    rw [words] at same
    cases form with
    | all => exact noAll _ (List.mem_singleton.1 head ▸ same)
    | heater => exact noHeater _ (List.mem_singleton.1 head ▸ same)
    | get => exact noGet _ (List.mem_singleton.1 head ▸ same)
    | unlock => exact noUnlock _ (List.mem_singleton.1 head ▸ same)
    | debug => exact noDebug _ (List.mem_singleton.1 head ▸ same)
    | phone =>
      simp only [Form.heads, List.mem_cons, List.not_mem_nil, or_false] at head
      obtain rfl | rfl | rfl := head
      · exact noAdd _ same
      · exact noRemove _ same
      · exact noSet _ same

/-- Reading a text by its words is the same as trying the forms of commands one after the other. -/
theorem parse_eq_parseByForms (text : String) : parse text = parseByForms text := by
  rw [parse, ofContent, parseByForms, ofForms_eq_ofWords]
  rfl

-- A word for a mode behind blanks only leaves no name, so the form keeps a blank as the name.
example : parseByForms "HEATER   ON" = .invalidHeaterName := by decide +kernel

end

end HeatingHub.Command
