import HeatingHub.Proofs.Command.Token
import HeatingHub.Proofs.Text.Gap

/-!
# What texts mean

The meaning of a text is said without the reader: most commands are told by the tokens of the text,
and some by its content (`Tells`). Of the texts that tell no command, those that have the form of a
command for a heater are told apart (`HeaterForm`, `GetForm`). Reading a text gives what it means,
and nothing else (`parse_eq_iff`).
-/

namespace HeatingHub

/-- The word for a topic is read as this topic. -/
lemma Topic.ofText?_text (topic : Topic) : ofText? topic.text = some topic := by
  cases topic <;> rfl

namespace Command

open Text (Gap Edged Trimmed Solid)

/-- What stands on one line, and is not nothing. -/
structure Field (text : List Char) : Prop where
  filled : text ≠ []
  line : '\n' ∉ text

/-- `HEATER`, a field, and the word for a mode, with gaps between them. -/
def HeaterForm (content : List Char) : Prop :=
  ∃ (gap field gap' : List Char) (word : ModeWord), Gap gap ∧ Gap gap' ∧ Field field ∧
    content = "HEATER".toList ++ gap ++ field ++ gap' ++ word.text.toList

/-- `GET`, `HEATER`, and a field, with gaps between them. -/
def GetForm (content : List Char) : Prop :=
  ∃ gap gap' field : List Char, Gap gap ∧ Gap gap' ∧ Field field ∧
    content = "GET".toList ++ gap ++ "HEATER".toList ++ gap' ++ field

/-- What a text looks like that tells a command. -/
def Tells (text : String) : Command → Prop
  | .ping => content text = "PING".toList
  | .version => content text = "VERSION".toList
  | .all word => tokens text = ["ALL", word.text]
  | .heater name word =>
    tokens text = ["HEATER", name, word.text] ∧ Text.allAlphanumeric name.toList
  | .getDefault => content text = "GET DEFAULT".toList
  | .getHeater name => tokens text = ["GET", "HEATER", name] ∧ Text.allAlphanumeric name.toList
  | .getIp => content text = "GET IP".toList
  | .lock => content text = "LOCK".toList
  | .unlock pin => tokens text = ["UNLOCK", pin]
  | .addPhone pin number => tokens text = ["ADD", "PHONE", pin, number]
  | .removePhone pin number => tokens text = ["REMOVE", "PHONE", pin, number]
  | .setEmergencyPhone pin number => tokens text = ["SET", "EMERGENCY", "PHONE", pin, number]
  | .removeEmergencyPhone => content text = "REMOVE EMERGENCY PHONE".toList
  | .help => "HELP".toList <+: content text
  | .debug topic => tokens text = ["DEBUG", topic.text]
  | .invalidHeaterName | .invalidName | .invalid => False

/-- What a text looks like that means a command: it tells the command, or it tells none and has the
form of a command for a heater or not. -/
def Means (text : String) : Command → Prop
  | .invalidHeaterName => (∀ command, ¬ Tells text command) ∧ HeaterForm (content text)
  | .invalidName => (∀ command, ¬ Tells text command) ∧ GetForm (content text)
  | .invalid =>
    (∀ command, ¬ Tells text command) ∧ ¬ HeaterForm (content text) ∧ ¬ GetForm (content text)
  | command => Tells text command

/-! ## Texts that tell a command -/

/-- A command that is read from a text is told by it, unless it stands for those that are not. -/
lemma tells_of_parse {text : String} {command : Command} (h : parse text = command)
    (told : command ∉ [.invalidHeaterName, .invalidName, .invalid]) : Tells text command := by
  have reads := ofContent_reads (content text)
  rw [← parse, h] at reads
  cases reads with
  | ping whole => exact whole
  | version whole => exact whole
  | getDefault whole => exact whole
  | getIp whole => exact whole
  | lock whole => exact whole
  | removeEmergencyPhone whole => exact whole
  | help starts => exact starts
  | words spelled =>
    rw [← tokens] at spelled
    generalize words : tokens text = members at spelled
    cases spelled with
    | heater word named => exact ⟨words, ((Bool.and_eq_true _ _).mp named).2⟩
    | getHeater named =>
      obtain ⟨words, named⟩ := parse_eq_getHeater_iff.1 h
      exact ⟨words, ((Bool.and_eq_true _ _).mp named).2⟩
    | invalidHeaterName | invalidName | invalid => simp at told
    | _ => exact words

/-- The name among the tokens of a text is valid if it has letters and digits only. -/
lemma isHeaterName_of_mem_tokens {text name : String} (mem : name ∈ tokens text)
    (letters : Text.allAlphanumeric name.toList) : isHeaterName name.toList := by
  rw [tokens, Text.words, List.mem_map] at mem
  obtain ⟨word, found, rfl⟩ := mem
  rw [isHeaterName, letters, Bool.and_true, String.toList_ofList]
  exact (List.mem_filter.1 found).2

/-- A content that is a fixed phrase is read as its command. -/
lemma parse_of_phrase {text phrase : String} {command : Command}
    (known : ofPhrase? phrase = some command) (whole : content text = phrase.toList) :
    parse text = command := by
  rw [parse, whole, ofContent, String.ofList_toList, known]

/-- A content that starts with `HELP` is read as the command for help. -/
lemma parse_of_help {text : String} (starts : "HELP".toList <+: content text) :
    parse text = .help := by
  have phrase : ofPhrase? (String.ofList (content text)) = none := by
    rw [ofPhrase?.eq_def]
    split
    case h_7 => rfl
    all_goals
      next same =>
      rw [String.ofList_injective (same.trans String.ofList_toList.symm)] at starts
      exact absurd starts (by decide)
  rw [parse, ofContent, phrase]
  exact if_pos (List.isPrefixOf_iff_prefix.2 starts)

/-- A command that a text tells is read from it. -/
lemma parse_of_tells {text : String} {command : Command} (tells : Tells text command) :
    parse text = command := by
  cases command with
  | ping => exact parse_of_phrase rfl tells
  | version => exact parse_of_phrase rfl tells
  | getDefault => exact parse_of_phrase rfl tells
  | getIp => exact parse_of_phrase rfl tells
  | lock => exact parse_of_phrase rfl tells
  | removeEmergencyPhone => exact parse_of_phrase rfl tells
  | help => exact parse_of_help tells
  | all word => exact parse_eq_all_iff.2 tells
  | heater name word =>
    obtain ⟨words, letters⟩ := tells
    have mem : name ∈ tokens text := words ▸ List.mem_cons_of_mem _ List.mem_cons_self
    exact parse_eq_heater_iff.2 ⟨words, isHeaterName_of_mem_tokens mem letters⟩
  | getHeater name =>
    obtain ⟨words, letters⟩ := tells
    have mem : name ∈ tokens text := words ▸ by simp
    exact parse_eq_getHeater_iff.2 ⟨words, isHeaterName_of_mem_tokens mem letters⟩
  | unlock pin => exact parse_of_tokens tells (by simp [phrases]) (by decide)
  | addPhone pin number => exact parse_of_tokens tells (by simp [phrases]) (by decide)
  | removePhone pin number => exact parse_of_tokens tells (by simp [phrases]) (by decide)
  | setEmergencyPhone pin number => exact parse_of_tokens tells (by simp [phrases]) (by decide)
  | debug topic =>
    rw [parse_of_tokens tells (by cases topic <;> decide) (by decide), ofWords, ofDebug,
      topic.ofText?_text, Option.elim_some]
  | invalidHeaterName => exact tells.elim
  | invalidName => exact tells.elim
  | invalid => exact tells.elim

/-- A text that is read as none of the commands tells none of them. -/
lemma not_tells {text : String} {command other : Command} (h : parse text = command)
    (untold : command ∈ [.invalidHeaterName, .invalidName, .invalid]) : ¬ Tells text other := by
  intro tells
  have same := (parse_of_tells tells).symm.trans h
  subst same
  simp only [List.mem_cons, List.not_mem_nil, or_false] at untold
  obtain rfl | rfl | rfl := untold <;> exact tells

/-! ## Texts in the form of a command for a heater -/

/-- That all characters differ from a line feed means that there is none. -/
lemma all_ne_lineFeed_iff {text : List Char} : text.all (· != '\n') ↔ '\n' ∉ text := by
  simp [List.all_eq_true, List.forall_mem_ne']

/-- A text with blanks at its ends holds a field exactly if there is one between two gaps. -/
lemma holdsField_iff {text : List Char} (edged : Edged text) :
    holdsField text ↔
      ∃ gap field gap', Gap gap ∧ Gap gap' ∧ Field field ∧ text = gap ++ field ++ gap' := by
  rw [holdsField]
  split
  · next none =>
    -- The text is all blank, so that any character inside can be the field.
    have blank := Text.blank_of_trim_eq_nil (List.isEmpty_iff.1 none)
    rw [List.any_eq_true]
    constructor
    · rintro ⟨c, inside, other⟩
      obtain ⟨gap, gap', isGap, isGap', whole⟩ := Text.gaps_of_inner blank inside
      have field : Field [c] :=
        ⟨List.cons_ne_nil _ _, fun mem => bne_iff_ne.1 other (List.mem_singleton.1 mem).symm⟩
      exact ⟨gap, [c], gap', isGap, isGap', field, whole⟩
    · rintro ⟨gap, field, gap', isGap, isGap', ⟨filled, line⟩, rfl⟩
      obtain ⟨c, mem⟩ := List.exists_mem_of_ne_nil _ filled
      refine ⟨c, Text.mem_inner isGap isGap' mem, ?_⟩
      rw [bne_iff_ne]
      rintro rfl
      exact line mem
  · next some =>
    have filled : Text.trim text ≠ [] := mt List.isEmpty_iff.2 some
    rw [all_ne_lineFeed_iff]
    constructor
    · intro line
      obtain ⟨gap, gap', isGap, isGap', whole⟩ := edged.parts filled
      exact ⟨gap, _, gap', isGap, isGap', ⟨filled, line⟩, whole⟩
    · rintro ⟨gap, field, gap', isGap, isGap', ⟨-, line⟩, rfl⟩
      rw [Text.trim_gaps isGap isGap']
      exact fun mem => line (Text.mem_of_mem_trim mem)

/-- A command for a heater starts with `HEATER` and ends with the word for a mode. -/
lemma HeaterForm.words {content : List Char} (form : HeaterForm content) :
    ∃ (members : List (List Char)) (word : ModeWord),
      Text.words content = "HEATER".toList :: members ∧
        members.getLast? = some word.text.toList := by
  obtain ⟨gap, field, gap', word, isGap, isGap', -, rfl⟩ := form
  obtain ⟨solid, filled⟩ := word.solid_text
  have first : Text.words "HEATER".toList = ["HEATER".toList] :=
    Text.words_of_solid (by decide) (by decide)
  refine ⟨Text.words field ++ [word.text.toList], word, ?_, List.getLast?_concat⟩
  rw [isGap'.words, isGap.words, first, Text.words_of_solid solid filled]
  rfl

/-- A question for a heater has a word behind `GET` and `HEATER`. -/
lemma GetForm.words {content : List Char} (form : GetForm content) (trimmed : Trimmed content) :
    ∃ (second : List Char) (others : List (List Char)),
      Text.words content = "GET".toList :: "HEATER".toList :: second :: others := by
  obtain ⟨gap, gap', field, isGap, isGap', ⟨filled, -⟩, rfl⟩ := form
  have first : Text.words "GET".toList = ["GET".toList] :=
    Text.words_of_solid (by decide) (by decide)
  have next : Text.words "HEATER".toList = ["HEATER".toList] :=
    Text.words_of_solid (by decide) (by decide)
  rw [isGap'.words, isGap.words, first, next]
  cases named : Text.words field with
  | cons second others => exact ⟨second, others, rfl⟩
  | nil =>
    -- The field would be blank, up to the end of the content.
    obtain ⟨c, ending⟩ := Option.ne_none_iff_exists'.1 (mt List.getLast?_eq_none_iff.1 filled)
    have solid := trimmed.last c (by rw [List.getLast?_append, ending]; rfl)
    rw [Text.blank_of_words_eq_nil named c (List.mem_of_mem_getLast? ending)] at solid
    cases solid

/-- A content between `HEATER` and the word for a mode has the form of a command for a heater
exactly if it holds a field there. -/
lemma heaterForm_iff {content middle : List Char} {word : ModeWord} (edged : Edged middle)
    (whole : content = "HEATER".toList ++ middle ++ word.text.toList) :
    HeaterForm content ↔ holdsField middle := by
  rw [holdsField_iff edged]
  constructor
  · rintro ⟨gap, field, gap', other, isGap, isGap', isField, spelled⟩
    -- Both ways the last word of the content is the word for the mode.
    have same : other.text.toList = word.text.toList := by
      obtain ⟨solid, filled⟩ := word.solid_text
      obtain ⟨solid', filled'⟩ := other.solid_text
      have last := edged.words_append "HEATER".toList word.text.toList
      have last' := isGap'.words ("HEATER".toList ++ gap ++ field) other.text.toList
      rw [← whole, Text.words_of_solid solid filled] at last
      rw [← spelled, last, Text.words_of_solid solid' filled'] at last'
      exact (List.cons.inj (List.append_inj_right' last' rfl)).1.symm
    rw [spelled, same] at whole
    have whole := List.append_cancel_right whole
    rw [List.append_assoc, List.append_assoc] at whole
    exact ⟨gap, field, gap', isGap, isGap', isField,
      (List.append_cancel_left whole).symm.trans (List.append_assoc _ _ _).symm⟩
  · rintro ⟨gap, field, gap', isGap, isGap', isField, rfl⟩
    exact ⟨gap, field, gap', word, isGap, isGap', isField, by rw [whole]; simp⟩

section

variable {text : String} {arguments : List String}

/-- A content of `HEATER`, other words and the word for a mode has a text with blanks at its ends
between the first and the last. -/
lemma heater_between {word : ModeWord} (words : tokens text = "HEATER" :: arguments)
    (last : arguments.getLast? = some word.text) :
    ∃ middle, Edged middle ∧
      content text = "HEATER".toList ++ middle ++ word.text.toList := by
  have whole := words_content words
  have last : (arguments.map String.toList).getLast? = some word.text.toList := by
    rw [List.getLast?_map, last, Option.map_some]
  cases arguments with
  | nil => cases last
  | cons second others => exact (trimmed_content text).between whole last

/-- A name between `HEATER` and the word for a mode is a field there. -/
lemma heaterForm_of_name {name : String} {word : ModeWord}
    (words : tokens text = ["HEATER", name, word.text]) : HeaterForm (content text) := by
  have whole := words_content words
  obtain ⟨gap, isGap, spelled⟩ := (trimmed_content text).parts whole
  obtain ⟨trimmed, rest⟩ := (trimmed_content text).tail whole
  obtain ⟨solid, filled⟩ := trimmed.word rest
  obtain ⟨gap', isGap', spelled'⟩ := trimmed.parts rest
  obtain ⟨trimmed, rest⟩ := trimmed.tail rest
  have isField : Field name.toList := ⟨filled, solid.not_mem (by decide)⟩
  rw [trimmed.eq_of_words rest] at spelled'
  rw [spelled'] at spelled
  exact ⟨gap, name.toList, gap', word, isGap, isGap', isField, by rw [spelled]; simp⟩

/-- A text of `HEATER`, other words and the word for a mode is a valid command for a heater, or it
is an invalid one exactly if there is a field in it. -/
lemma ofHeater_cases {middle : List Char} {word : ModeWord}
    (words : tokens text = "HEATER" :: arguments) (last : arguments.getLast? = some word.text)
    (edged : Edged middle)
    (whole : content text = "HEATER".toList ++ middle ++ word.text.toList) :
    (∃ name, arguments = [name, word.text] ∧ isHeaterName name.toList) ∨
      ofHeater (content text) arguments =
        if holdsField middle then .invalidHeaterName else .invalid := by
  have known : arguments.getLast?.bind ModeWord.ofText? = some word := by
    rw [last, Option.bind_some, word.ofText?_text]
  rw [ofHeater.eq_def, known]
  dsimp only
  split
  · next name mode =>
    obtain rfl : mode = word.text := by simpa using last
    split
    · next named => exact .inl ⟨name, rfl, named⟩
    · rw [if_pos ((heaterForm_iff edged whole).1 (heaterForm_of_name words))]
      exact .inr rfl
  · have rest : (content text).dropWhile (!Text.isBlank ·) = middle ++ word.text.toList := by
      have solid : Solid "HEATER".toList := by decide
      rw [whole, List.append_assoc, solid.dropWhile_append (edged.head _)]
    rw [rest, List.length_append, String.length_toList, Nat.add_sub_cancel, List.take_left]
    exact .inr rfl

/-- Words that start with `HEATER` are read as a command for a heater. -/
lemma parse_heater (words : tokens text = "HEATER" :: arguments) :
    parse text = ofHeater (content text) arguments := by
  rw [parse_of_tokens words (by simp [phrases]) (by decide), ofWords]

/-- A text that is refused for the name of a heater has the form of a command for one. -/
lemma heaterForm_of_parse (h : parse text = .invalidHeaterName) : HeaterForm (content text) := by
  have reads := ofContent_reads (content text)
  rw [← parse, h] at reads
  cases reads with
  | words spelled =>
    rw [← tokens] at spelled
    generalize words : tokens text = members at spelled
    cases spelled with
    | @invalidHeaterName arguments word last =>
      obtain ⟨middle, edged, whole⟩ := heater_between words last
      rw [heaterForm_iff edged whole]
      obtain ⟨name, rfl, named⟩ | read := ofHeater_cases words last edged whole
      · cases h.symm.trans (parse_eq_heater_iff.2 ⟨words, named⟩)
      · rw [parse_heater words, read] at h
        by_contra none
        rw [if_neg none] at h
        cases h

/-- A text with the form of a command for a heater that tells no command is refused for the name. -/
lemma parse_of_heaterForm (untold : ∀ command, ¬ Tells text command)
    (form : HeaterForm (content text)) : parse text = .invalidHeaterName := by
  obtain ⟨members, word, whole, last⟩ := form.words
  have words : tokens text = "HEATER" :: members.map String.ofList := by
    rw [tokens, whole, List.map_cons, String.ofList_toList]
  have last : (members.map String.ofList).getLast? = some word.text := by
    rw [List.getLast?_map, last, Option.map_some, String.ofList_toList]
  obtain ⟨middle, edged, spelled⟩ := heater_between words last
  obtain ⟨name, shape, named⟩ | read := ofHeater_cases words last edged spelled
  · rw [shape] at words
    have heater := parse_eq_heater_iff.2 ⟨words, named⟩
    exact absurd (tells_of_parse heater (by simp)) (untold _)
  · rw [parse_heater words, read, if_pos ((heaterForm_iff edged spelled).1 form)]

/-! ## Texts in the form of a question for a heater -/

section

variable {second : String} {others : List String}

/-- To drop a word takes it away, with the blanks behind it. -/
lemma dropWord_append {first gap : List Char} (solid : Solid first) (isGap : Gap gap)
    (rest : List Char) : dropWord (first ++ gap ++ rest) = Text.trimStart rest := by
  rw [dropWord, List.append_assoc, solid.dropWhile_append (isGap.head rest), isGap.trimStart]

/-- Behind `GET` and `HEATER` stands the field, without the blanks before it. -/
lemma dropWord_get {gap gap' : List Char} (isGap : Gap gap) (isGap' : Gap gap')
    (field : List Char) :
    dropWord (dropWord ("GET".toList ++ gap ++ "HEATER".toList ++ gap' ++ field)) =
      Text.trimStart field := by
  have next : Text.trimStart ("HEATER".toList ++ (gap' ++ field)) =
      "HEATER".toList ++ gap' ++ field := rfl
  rw [List.append_assoc, List.append_assoc, dropWord_append (by decide) isGap, next,
    dropWord_append (by decide) isGap']

/-- A text that begins with `GET` and `HEATER` has the form of a question for a heater exactly if
the rest stands on one line. -/
lemma getForm_iff (words : tokens text = "GET" :: "HEATER" :: second :: others) :
    GetForm (content text) ↔ (dropWord (dropWord (content text))).all (· != '\n') := by
  rw [all_ne_lineFeed_iff]
  constructor
  · rintro ⟨gap, gap', field, isGap, isGap', ⟨-, line⟩, whole⟩
    rw [whole, dropWord_get isGap isGap']
    exact fun mem => line ((List.dropWhile_sublist _).subset mem)
  · intro line
    have whole := words_content words
    obtain ⟨gap, isGap, spelled⟩ := (trimmed_content text).parts whole
    obtain ⟨trimmed, rest⟩ := (trimmed_content text).tail whole
    obtain ⟨gap', isGap', spelled'⟩ := trimmed.parts rest
    obtain ⟨-, rest⟩ := trimmed.tail rest
    rw [← dropWord, ← dropWord] at spelled' rest
    have filled : dropWord (dropWord (content text)) ≠ [] := by
      intro none
      rw [none] at rest
      cases rest
    rw [← dropWord, spelled'] at spelled
    refine ⟨gap, gap', _, isGap, isGap', ⟨filled, line⟩, spelled.trans ?_⟩
    simp only [List.append_assoc]

/-- Words that start with `GET` and `HEATER` are read as a question for a heater. -/
lemma parse_get (words : tokens text = "GET" :: "HEATER" :: second :: others) :
    parse text = ofGet (content text) ("HEATER" :: second :: others) := by
  rw [parse_of_tokens words (by simp [phrases]) (by decide), ofWords]

end

/-- A text that is refused for a name asked for has the form of a question for a heater. -/
lemma getForm_of_parse (h : parse text = .invalidName) : GetForm (content text) := by
  have reads := ofContent_reads (content text)
  rw [← parse, h] at reads
  cases reads with
  | words spelled =>
    rw [← tokens] at spelled
    generalize words : tokens text = members at spelled
    cases spelled with
    | invalidName =>
      rw [getForm_iff words]
      rw [parse_get words, ofGet] at h
      by_contra lines
      rw [if_neg lines] at h
      split at h <;> cases h

/-- A text with the form of a question for a heater that tells no command is refused for the
name. -/
lemma parse_of_getForm (untold : ∀ command, ¬ Tells text command)
    (form : GetForm (content text)) : parse text = .invalidName := by
  obtain ⟨second, others, whole⟩ := form.words (trimmed_content text)
  have words : tokens text = "GET" :: "HEATER" :: String.ofList second ::
      others.map String.ofList := by
    rw [tokens, whole, List.map_cons, List.map_cons, List.map_cons, String.ofList_toList,
      String.ofList_toList]
  have read := parse_get words
  rw [ofGet] at read
  by_cases named : isHeaterName (dropWord (dropWord (content text)))
  · rw [if_pos named] at read
    exact absurd (tells_of_parse read (by simp)) (untold _)
  · rw [if_neg named, if_pos ((getForm_iff words).1 form)] at read
    exact read

end

/-! ## Meaning -/

/-- Reading a text gives what it means, and nothing else. -/
theorem parse_eq_iff {text : String} {command : Command} :
    parse text = command ↔ Means text command := by
  cases command with
  | invalidHeaterName =>
    exact ⟨fun h => ⟨fun _ => not_tells h (by simp), heaterForm_of_parse h⟩,
      fun ⟨untold, form⟩ => parse_of_heaterForm untold form⟩
  | invalidName =>
    exact ⟨fun h => ⟨fun _ => not_tells h (by simp), getForm_of_parse h⟩,
      fun ⟨untold, form⟩ => parse_of_getForm untold form⟩
  | invalid =>
    -- The text is invalid only when it tells no command and has neither of the other two forms.
    constructor
    · intro h
      have untold (command : Command) : ¬ Tells text command := not_tells h (by simp)
      refine ⟨untold, fun form => ?_, fun form => ?_⟩
      · cases h.symm.trans (parse_of_heaterForm untold form)
      · cases h.symm.trans (parse_of_getForm untold form)
    · rintro ⟨untold, noHeater, noName⟩
      by_cases told : parse text ∈ [.invalidHeaterName, .invalidName, .invalid]
      · simp only [List.mem_cons, List.not_mem_nil, or_false] at told
        obtain h | h | h := told
        · exact absurd (heaterForm_of_parse h) noHeater
        · exact absurd (getForm_of_parse h) noName
        · exact h
      · exact absurd (tells_of_parse rfl told) (untold _)
  | _ => exact ⟨fun h => tells_of_parse h (by simp), fun means => parse_of_tells means⟩

-- The blank in the middle of three is a field of its own, and two blanks leave no room for one.
example : parse "HEATER   ON" = .invalidHeaterName := by decide +kernel
example : parse "HEATER  ON" = .invalid := by decide +kernel

end Command

end HeatingHub
