import HeatingHub.Command.Grammar
import HeatingHub.Proofs.Text.Line

/-!
# Inversion of the grammar

What a text must look like for a command to be read from it. The derivations are kept apart from the
reader: `Spelled` has one rule for each command that is words, `Reads` adds the fixed contents and
`HELP`, and the reader only gives commands that have a derivation (`ofWords_spelled`,
`ofContent_reads`). The inversion lemmas for single commands follow by cases (`lock_inv`,
`unlock_inv`, `heater_inv`).
-/

namespace HeatingHub

/-- Only the text of a word for a mode is read as that word. -/
lemma ModeWord.ofText?_inv {text : String} {word : ModeWord} (h : ofText? text = some word) :
    text = word.text := by
  rw [ofText?] at h
  have same := List.find?_some h
  exact (beq_iff_eq.1 same).symm

/-- Only the text of a topic is read as that topic. -/
lemma Topic.ofText?_inv {text : String} {topic : Topic} (h : ofText? text = some topic) :
    text = topic.text := by
  rw [ofText?] at h
  have same := List.find?_some h
  exact (beq_iff_eq.1 same).symm

namespace Command

/-- The words of a content that say a command. -/
inductive Spelled (content : List Char) : List String → Command → Prop
  | all (word : ModeWord) : Spelled content ["ALL", word.text] (.all word)
  | heater {name : String} (word : ModeWord) (named : isHeaterName name.toList) :
      Spelled content ["HEATER", name, word.text] (.heater name word)
  | invalidHeaterName {arguments : List String} {word : ModeWord}
      (last : arguments.getLast? = some word.text) :
      Spelled content ("HEATER" :: arguments) .invalidHeaterName
  | getHeater {second : String} {others : List String}
      (named : isHeaterName (dropWord (dropWord content))) :
      Spelled content ("GET" :: "HEATER" :: second :: others)
        (.getHeater (String.ofList (dropWord (dropWord content))))
  | invalidName {second : String} {others : List String} :
      Spelled content ("GET" :: "HEATER" :: second :: others) .invalidName
  | unlock (pin : String) : Spelled content ["UNLOCK", pin] (.unlock pin)
  | addPhone (pin number : String) :
      Spelled content ["ADD", "PHONE", pin, number] (.addPhone pin number)
  | removePhone (pin number : String) :
      Spelled content ["REMOVE", "PHONE", pin, number] (.removePhone pin number)
  | setEmergencyPhone (pin number : String) :
      Spelled content ["SET", "EMERGENCY", "PHONE", pin, number] (.setEmergencyPhone pin number)
  | debug (topic : Topic) : Spelled content ["DEBUG", topic.text] (.debug topic)
  | invalid (words : List String) : Spelled content words .invalid

/-- The content that a command is read from. -/
inductive Reads (content : List Char) : Command → Prop
  | ping (whole : content = "PING".toList) : Reads content .ping
  | version (whole : content = "VERSION".toList) : Reads content .version
  | getDefault (whole : content = "GET DEFAULT".toList) : Reads content .getDefault
  | getIp (whole : content = "GET IP".toList) : Reads content .getIp
  | lock (whole : content = "LOCK".toList) : Reads content .lock
  | removeEmergencyPhone (whole : content = "REMOVE EMERGENCY PHONE".toList) :
      Reads content .removeEmergencyPhone
  | help (starts : "HELP".toList <+: content) : Reads content .help
  | words {command : Command}
      (spelled : Spelled content ((Text.words content).map String.ofList) command) :
      Reads content command

/-- The word `ALL` and its arguments say the command that they are read as. -/
lemma ofAll_spelled (content : List Char) (arguments : List String) :
    Spelled content ("ALL" :: arguments) (ofAll arguments) := by
  rw [ofAll.eq_def]
  split
  · next word =>
    cases known : ModeWord.ofText? word with
    | none => exact .invalid _
    | some mode => exact ModeWord.ofText?_inv known ▸ .all mode
  · exact .invalid _

/-- The word `HEATER` and its arguments say the command that they are read as. -/
lemma ofHeater_spelled (content : List Char) (arguments : List String) :
    Spelled content ("HEATER" :: arguments) (ofHeater content arguments) := by
  rw [ofHeater.eq_def]
  split
  · exact .invalid _
  · next word known =>
    obtain ⟨last, found, known⟩ := Option.bind_eq_some_iff.1 known
    have ending : arguments.getLast? = some word.text := ModeWord.ofText?_inv known ▸ found
    split
    · next name mode =>
      split
      · next named =>
        have same : mode = word.text := by simpa using ending
        exact same ▸ .heater word named
      · exact .invalidHeaterName ending
    · dsimp only
      split
      · exact .invalidHeaterName ending
      · exact .invalid _

/-- The word `GET` and its arguments say the command that they are read as. -/
lemma ofGet_spelled (content : List Char) (arguments : List String) :
    Spelled content ("GET" :: arguments) (ofGet content arguments) := by
  rw [ofGet.eq_def]
  split
  · dsimp only
    split
    · next named => exact .getHeater named
    · split
      · exact .invalidName
      · exact .invalid _
  · exact .invalid _

/-- A command that is words is spelled by them. -/
lemma ofWords_spelled (content : List Char) (words : List String) :
    Spelled content words (ofWords content words) := by
  rw [ofWords.eq_def]
  split
  · exact ofAll_spelled content _
  · exact ofHeater_spelled content _
  · exact ofGet_spelled content _
  · rw [ofUnlock.eq_def]
    split
    · exact .unlock _
    · exact .invalid _
  · rw [ofAdd.eq_def]
    split
    · exact .addPhone _ _
    · exact .invalid _
  · rw [ofRemove.eq_def]
    split
    · exact .removePhone _ _
    · exact .invalid _
  · rw [ofSet.eq_def]
    split
    · exact .setEmergencyPhone _ _
    · exact .invalid _
  · rw [ofDebug.eq_def]
    split
    · next word =>
      cases known : Topic.ofText? word with
      | none => exact .invalid _
      | some topic => exact Topic.ofText?_inv known ▸ .debug topic
    · exact .invalid _
  · exact .invalid _

/-- A fixed content is read as its command. -/
lemma ofPhrase?_reads {content : List Char} {command : Command}
    (h : ofPhrase? (String.ofList content) = some command) : Reads content command := by
  have whole {phrase : String} (same : String.ofList content = phrase) :
      content = phrase.toList := by
    rw [← same, String.toList_ofList]
  rw [ofPhrase?.eq_def] at h
  split at h <;> cases h
  case h_1 same => exact .ping (whole same)
  case h_2 same => exact .version (whole same)
  case h_3 same => exact .getDefault (whole same)
  case h_4 same => exact .getIp (whole same)
  case h_5 same => exact .lock (whole same)
  case h_6 same => exact .removeEmergencyPhone (whole same)

/-- The reader only gives commands that have a derivation. -/
theorem ofContent_reads (content : List Char) : Reads content (ofContent content) := by
  rw [ofContent]
  split
  · next phrase => exact ofPhrase?_reads phrase
  · split
    · next starts => exact .help (List.isPrefixOf_iff_prefix.1 starts)
    · exact .words (ofWords_spelled content _)

/-! ## Single commands -/

/-- Only `LOCK` locks. -/
lemma lock_inv {text : String} (h : parse text = .lock) : content text = "LOCK".toList := by
  have reads := ofContent_reads (content text)
  rw [← parse, h] at reads
  cases reads with
  | lock whole => exact whole
  | words spelled =>
    -- No rule spells this command, whatever the words are.
    generalize (Text.words (content text)).map String.ofList = words at spelled
    cases spelled

/-- Only `UNLOCK` and a PIN unlock. -/
lemma unlock_inv {text pin : String} (h : parse text = .unlock pin) :
    (Text.words (content text)).map String.ofList = ["UNLOCK", pin] := by
  have reads := ofContent_reads (content text)
  rw [← parse, h] at reads
  cases reads with
  | words spelled =>
    generalize (Text.words (content text)).map String.ofList = words at spelled ⊢
    cases spelled
    rfl

/-- The heater of a command has a valid name. -/
lemma heater_inv {text name : String} {word : ModeWord} (h : parse text = .heater name word) :
    isHeaterName name.toList := by
  have reads := ofContent_reads (content text)
  rw [← parse, h] at reads
  cases reads with
  | words spelled =>
    generalize (Text.words (content text)).map String.ofList = words at spelled
    cases spelled
    assumption

end Command

end HeatingHub
