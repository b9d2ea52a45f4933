import HeatingHub.CommandLine
import HeatingHub.Proofs.Command.Inversion

/-!
# The PIN in a text

A hub is only ever started with a row of digits for its PIN (`configure_isPin`). Such a PIN goes
through the reading of texts unharmed: upper case does not change it, no blank can part it, and so
the text `UNLOCK` with the PIN behind it is read as the command that carries this very PIN
(`parse_unlock`).
-/

namespace HeatingHub

/-! ## Where the PIN comes from -/

/-- A configuration that is read from a file has a PIN of digits. -/
lemma Config.ofBytes_isPin {path : String} {bytes : List UInt8} {config : Config}
    (h : Config.ofBytes path bytes = .ok config) : Config.isPin config.pin := by
  rw [Config.ofBytes] at h
  split at h
  · cases h
  · split at h
    · cases h
    · split at h
      · next valid =>
        cases h
        exact valid
      · cases h

/-- The configuration that a hub is started with has a PIN of digits. -/
theorem configure_isPin {options : Options} {present : Option String}
    {read : String → Except Fault (List UInt8)} {config : Config}
    (h : options.configure present read = .ok config) : Config.isPin config.pin := by
  rw [Options.configure] at h
  split at h
  · cases h
    exact (by decide : Config.isPin ({} : Config).pin)
  · next path _ =>
    cases found : read path with
    | error cause =>
      rw [found] at h
      cases h
    | ok bytes =>
      rw [found, Except.bind] at h
      split at h
      · next valid =>
        cases h
        have isPin := Config.ofBytes_isPin valid
        exact isPin
      · cases h

namespace Command

/-- A content that starts with none of the letters that fixed contents and `HELP` start with is read
by its words. -/
lemma ofContent_cons {c : Char} (rest : List Char) (other : c ∉ ['P', 'V', 'G', 'L', 'R', 'H']) :
    ofContent (c :: rest) =
      ofWords (c :: rest) ((Text.words (c :: rest)).map String.ofList) := by
  have phrase : ofPhrase? (String.ofList (c :: rest)) = none := by
    rw [ofPhrase?.eq_def]
    split
    case h_7 => rfl
    all_goals
      next same =>
      have whole := congrArg String.toList same
      rw [String.toList_ofList] at whole
      simp at whole
      simp [whole.1] at other
  have help : "HELP".toList.isPrefixOf (c :: rest) = false := by
    rw [← Bool.not_eq_true, List.isPrefixOf_iff_prefix]
    intro starts
    simp at starts
    simp [← starts.1] at other
  rw [ofContent, phrase]
  dsimp only
  rw [help, if_neg Bool.false_ne_true]

/-- The content of `UNLOCK` and a row of digits is that very text. -/
lemma content_unlock {pin : String} (digits : Text.allDigits pin.toList)
    (filled : pin.toList ≠ []) :
    content ("UNLOCK " ++ pin) = "UNLOCK".toList ++ ' ' :: pin.toList := by
  have typed : ("UNLOCK " ++ pin).toList = "UNLOCK".toList ++ ' ' :: pin.toList := by
    simp
  have folded : Text.upper "UNLOCK".toList = "UNLOCK".toList := by decide
  have edges : Text.trim ("UNLOCK".toList ++ ' ' :: pin.toList) =
      "UNLOCK".toList ++ ' ' :: pin.toList := by
    apply Text.trim_eq_self
    · intro c mem
      have first : c = 'U' := by simpa [eq_comm] using mem
      rw [first]
      decide
    · intro c mem
      obtain ⟨last, ending⟩ := Option.ne_none_iff_exists'.1 (mt List.getLast?_eq_none_iff.1 filled)
      rw [List.getLast?_append, List.getLast?_cons, ending] at mem
      cases mem
      exact Text.solid_of_allDigits digits _ (List.mem_of_mem_getLast? ending)
  rw [content, typed, edges, Text.upper, List.map_append, List.map_cons, ← Text.upper, folded,
    ← Text.upper, Text.upper_of_allDigits digits]
  rfl

/-- `UNLOCK` and a PIN of digits are read as the command that carries this PIN. -/
theorem parse_unlock {pin : String} (h : Config.isPin pin) :
    parse ("UNLOCK " ++ pin) = .unlock pin := by
  rw [Config.isPin, Bool.and_eq_true] at h
  obtain ⟨filled, digits⟩ := h
  have filled : pin.toList ≠ [] := by simpa using filled
  have solid : Text.Solid "UNLOCK".toList := by decide
  have whole := content_unlock digits filled
  have words : (Text.words (content ("UNLOCK " ++ pin))).map String.ofList = ["UNLOCK", pin] := by
    rw [whole, Text.words_append_cons (by decide), Text.words_of_solid solid (by decide),
      Text.words_of_solid (Text.solid_of_allDigits digits) filled, List.map_append,
      List.map_singleton, List.map_singleton, String.ofList_toList, String.ofList_toList]
    rfl
  have letter : content ("UNLOCK " ++ pin) = 'U' :: ("NLOCK".toList ++ ' ' :: pin.toList) := whole
  rw [parse]
  rw [letter] at words ⊢
  rw [ofContent_cons _ (by decide), words]
  rfl

end Command

end HeatingHub
