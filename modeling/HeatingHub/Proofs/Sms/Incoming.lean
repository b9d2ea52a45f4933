import HeatingHub.Proofs.Text.Line
import HeatingHub.Sms.Incoming

/-!
# Received messages, read back

The number of a received message is what stands behind the mark on the first line, without the
blanks around it, and a file whose first line has no mark holds no message
(`ofContent?_eq_none_iff`). The text is what stands behind the first empty line after that, without
the ends of its lines (`body_append_cons`). So it does not matter to the message how the lines of
its file end, whether the last one ends at all (`flatten_body_concat`), or what the lines of the
text look like.
-/

namespace HeatingHub.Sms

variable {headers : List (List Char)}

/-- The text of a message begins behind the first empty line. -/
lemma body_append_cons (filled : ∀ header ∈ headers, header ≠ []) (rest : List (List Char)) :
    body (headers ++ [] :: rest) = rest := by
  have passed : ∀ header ∈ headers, (!header.isEmpty) = true := by simpa using filled
  rw [body, List.dropWhile_append_of_pos passed]
  rfl

/-- Without an empty line the text of a message is empty. -/
lemma body_eq_nil (filled : ∀ header ∈ headers, header ≠ []) : body headers = [] := by
  have passed : ∀ header ∈ headers, (!header.isEmpty) = true := by simpa using filled
  rw [body, List.dropWhile_eq_nil_iff.2 passed]
  rfl

/-- An empty line at the end adds nothing to the text. -/
lemma flatten_body_concat (lines : List (List Char)) :
    (body (lines ++ [[]])).flatten = (body lines).flatten := by
  by_cases blank : [] ∈ lines
  · obtain ⟨headers, rest, rfl, before⟩ := List.eq_append_cons_of_mem blank
    have filled : ∀ header ∈ headers, header ≠ [] := fun _ mem same => before (same ▸ mem)
    rw [List.append_assoc, List.cons_append, body_append_cons filled, body_append_cons filled]
    simp
  · have filled : ∀ header ∈ lines, header ≠ [] := fun _ mem same => blank (same ▸ mem)
    rw [body_append_cons filled, body_eq_nil filled]

section

variable {content : List Char}

/-- A message is read from a file whose first line has the mark. -/
lemma ofContent?_of_firstLine {number : List Char}
    (first : Text.firstLine content = fromMark ++ number) :
    ofContent? content = some
      { number := String.ofList (Text.trim number)
        text := String.ofList (body (Text.lines (Text.otherLines content))).flatten } := by
  have filled : content ≠ [] := by
    rintro rfl
    cases first
  obtain ⟨line, split, ends⟩ := Text.lines_eq_cons filled
  rw [first] at ends
  -- A carriage return at the end of the first line is a blank behind the number.
  obtain ⟨shown, marked, trimmed⟩ : ∃ shown, fromMark ++ shown = line ∧
      Text.trim shown = Text.trim number := by
    obtain whole | whole := ends
    · exact ⟨number, whole, rfl⟩
    · obtain rfl | ⟨shown, last, rfl⟩ := List.eq_nil_or_concat' number
      · have last := congrArg List.getLast? whole
        rw [List.getLast?_concat] at last
        exact absurd last (by decide)
      · rw [← List.append_assoc] at whole
        obtain ⟨marked, same⟩ := List.append_inj' whole rfl
        cases same
        exact ⟨shown, marked, (Text.trim_concat_blank (by decide) shown).symm⟩
  rw [ofContent?, split]
  dsimp only
  rw [← marked, Text.after?_append, Option.map_some, trimmed]

/-- No message is read from any other file. -/
lemma ofContent?_eq_none_iff :
    ofContent? content = none ↔ ¬ fromMark <+: Text.firstLine content := by
  constructor
  · rintro refused ⟨number, first⟩
    rw [ofContent?_of_firstLine first.symm] at refused
    cases refused
  · intro unmarked
    by_cases filled : content = []
    · rw [filled]
      rfl
    · obtain ⟨line, split, ends⟩ := Text.lines_eq_cons filled
      rw [ofContent?, split]
      dsimp only
      rw [Option.map_eq_none_iff, Option.eq_none_iff_forall_ne_some]
      intro number marked
      have start : fromMark <+: line := ⟨number, List.isPrefixOf?_eq_some_iff_append_eq.1 marked⟩
      obtain whole | whole := ends
      · exact unmarked (whole ▸ start)
      · exact unmarked (whole ▸ start.trans (List.prefix_append line ['\r']))

/-- It does not matter to a message how the lines of its file end. -/
lemma ofContent?_of_lined {number : List Char} {lines : List (List Char)} (feed : '\n' ∉ number)
    (header : ∀ header ∈ headers, Text.IsLine header ∧ header ≠ [])
    (plain : ∀ line ∈ lines, Text.IsLine line)
    (lined : Text.Lined ((fromMark ++ number) :: (headers ++ [] :: lines)) content) :
    ofContent? content = some
      { number := String.ofList (Text.trim number), text := String.ofList lines.flatten } := by
  have feed' : '\n' ∉ fromMark ++ number :=
    List.mem_append.not.2 (not_or.2 ⟨by decide, feed⟩)
  obtain ⟨first, rest⟩ := lined.split feed' (by simp)
  have others : ∀ line ∈ headers ++ [] :: lines, Text.IsLine line := by
    intro line mem
    obtain mem | mem := List.mem_append.1 mem
    · exact (header line mem).1
    · obtain rfl | mem := List.mem_cons.1 mem
      · exact ⟨List.not_mem_nil, nofun⟩
      · exact plain line mem
  have text : (body (Text.lines (Text.otherLines content))).flatten = lines.flatten := by
    have filled : ∀ line ∈ headers, line ≠ [] := fun line mem => (header line mem).2
    have whole := congrArg List.flatten (body_append_cons filled lines)
    obtain same | same := rest.lines_eq others
    · rw [← same, whole]
    · rw [← flatten_body_concat, ← same, whole]
  obtain first | first := first
  · rw [ofContent?_of_firstLine first, text]
  · rw [List.append_assoc] at first
    rw [ofContent?_of_firstLine first, text, Text.trim_concat_blank (by decide)]

/-- Without an empty line, all lines but the first are header lines. -/
lemma ofContent?_of_unbroken {number : List Char}
    (first : Text.firstLine content = fromMark ++ number) (unbroken : ¬ Text.HasBlankLine content) :
    ofContent? content = some { number := String.ofList (Text.trim number), text := "" } := by
  have some : content ≠ [] := by
    rintro rfl
    cases first
  obtain ⟨line, split, -⟩ := Text.lines_eq_cons some
  have filled : ∀ header ∈ Text.lines (Text.otherLines content), header ≠ [] := by
    rintro header mem rfl
    exact unbroken (Text.hasBlankLine_of_nil_mem (by rwa [split, List.tail_cons]))
  rw [ofContent?_of_firstLine first, body_eq_nil filled]
  rfl

end

/-- A file with a number behind the mark, further header lines, an empty line and the lines of a text
is read as the number without the blanks around it and the lines of the text put together. Each line
may end in one of two ways, and the last one need not end. No message is read from a file exactly if
its first line does not start with the mark, and if there is no empty line in a file with the mark,
the text of its message is empty. -/
theorem read_as_written :
    (∀ (number : List Char) (headers lines : List (List Char)) (content : List Char),
      '\n' ∉ number → (∀ header ∈ headers, Text.IsLine header ∧ header ≠ []) →
      (∀ line ∈ lines, Text.IsLine line) →
      Text.Lined ((fromMark ++ number) :: (headers ++ [] :: lines)) content →
      ofContent? content = some
        { number := String.ofList (Text.trim number), text := String.ofList lines.flatten }) ∧
    (∀ content, ofContent? content = none ↔ ¬ fromMark <+: Text.firstLine content) ∧
    ∀ content number, Text.firstLine content = fromMark ++ number → ¬ Text.HasBlankLine content →
      ofContent? content = some { number := String.ofList (Text.trim number), text := "" } := by
  refine ⟨fun number headers lines content feed header plain lined => ?_,
    fun content => ofContent?_eq_none_iff, fun content number first unbroken => ?_⟩
  · exact ofContent?_of_lined feed header plain lined
  · exact ofContent?_of_unbroken first unbroken

/-- A text with an empty line and with a line that looks like a header in it; the lines end in
either way, and the last one does not end. -/
theorem read_as_written_of_mixed_ends :
    let content := "From:  0612345678\r\nSent: now\n\r\nALL\n\nFrom: ECO".toList
    let sms : Sms := { number := "0612345678", text := "ALLFrom: ECO" }
    ofContent? content = some sms ∧
      ofContent? "From: 1\n2".toList = some { number := "1", text := "" } := by
  intro content sms
  obtain ⟨written, -, unbroken⟩ := read_as_written
  have lined : Text.Lined [fromMark ++ " 0612345678".toList, "Sent: now".toList, [], "ALL".toList,
      [], "From: ECO".toList] content :=
    .returned _ <| .feed _ <| .returned [] <| .feed _ <| .feed [] <| .unended _
  refine ⟨written " 0612345678".toList ["Sent: now".toList]
    ["ALL".toList, [], "From: ECO".toList] content (by decide) (by decide) (by decide) lined, ?_⟩
  exact unbroken _ ['1'] (by decide) (by decide +kernel)

end HeatingHub.Sms
