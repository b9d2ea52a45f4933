import HeatingHub.Proofs.Sms.Spool
import HeatingHub.Proofs.Text.Gap
import HeatingHub.Proofs.Text.Line
import HeatingHub.Sms.Incoming

/-!
# The head and the body of a message's file

Whoever reads a file of the spool takes its lines up to the first blank line for the head and all
that follows for the body (`Text.sections?`), in which there may be blank lines again. As long as
the recipient of a message has no line feed, the head of its file is the line with the recipient,
whatever stands in the text (`sealed_of_line`), and the file tells the message (`Sealed.eq`). The
sender of a received message never has one (`Sms.line_of_content`), since the sender stands on the
first line of a file.
-/

namespace HeatingHub

namespace Text

/-- The lines before the first blank line, and what stands behind it, where `line` has been read of
the line that goes on; nothing if there is no blank line. -/
def sections? (line : List Char) : List Char → Option (List (List Char) × List Char)
  | [] => none
  | c :: rest =>
    if c ≠ '\n' then sections? (line ++ [c]) rest
    else if line.isEmpty then some ([], rest)
    else (sections? [] rest).map fun sections => (line :: sections.1, sections.2)

/-- Characters that are no line feeds join the line in hand. -/
lemma sections?_append {more : List Char} (feed : '\n' ∉ more) (line rest : List Char) :
    sections? line (more ++ rest) = sections? (line ++ more) rest := by
  induction more generalizing line with
  | nil => rw [List.nil_append, List.append_nil]
  | cons c more ih =>
    have other : c ≠ '\n' := fun same => feed (same ▸ List.mem_cons_self)
    rw [List.cons_append, sections?, if_pos other, ih (fun mem => feed (List.mem_cons_of_mem _ mem)),
      List.append_assoc]
    rfl

/-- One line with a blank line behind it is all of the head. -/
lemma sections?_of_line {line : List Char} (feed : '\n' ∉ line) (filled : line ≠ [])
    (body : List Char) : sections? [] (line ++ '\n' :: '\n' :: body) = some ([line], body) := by
  rw [sections?_append feed, List.nil_append, sections?, if_neg (not_not_intro rfl),
    if_neg (by simpa using filled)]
  rfl

end Text

namespace Spool

/-- The lines of a file's head, and the file's body. -/
def sections? (file : String) : Option (List String × String) :=
  (Text.sections? [] file.toList).map fun sections =>
    (sections.1.map String.ofList, String.ofList sections.2)

/-- The recipient of a message stands on one line, which is the head of the message's file, and the
body of the file is the text. -/
structure Sealed (sms : Sms) : Prop where
  line : '\n' ∉ sms.number.toList
  sections : sections? (content sms) = some (["To: " ++ sms.number], sms.text ++ "\n")

/-- No text can leave the body of its file. -/
theorem sealed_of_line {sms : Sms} (line : '\n' ∉ sms.number.toList) : Sealed sms where
  line
  sections := by
    have head : '\n' ∉ ("To: " ++ sms.number).toList := by
      rw [String.toList_append, List.mem_append]
      rintro (mark | number)
      · exact absurd mark (by decide)
      · exact line number
    have filled : ("To: " ++ sms.number).toList ≠ [] := by
      rw [String.toList_append]
      exact List.cons_ne_nil _ _
    have file : (content sms).toList =
        ("To: " ++ sms.number).toList ++ '\n' :: '\n' :: (sms.text ++ "\n").toList := by
      simp only [content, String.toList_append, List.append_assoc]
      rfl
    rw [sections?, file, Text.sections?_of_line head filled, Option.map_some, List.map_cons,
      List.map_nil, String.ofList_toList, String.ofList_toList]

/-- Different messages have different files. -/
lemma Sealed.eq {first second : Sms} (sealed : Sealed first) (sealed' : Sealed second)
    (same : content first = content second) : first = second := by
  have sections := sealed.sections.symm.trans ((congrArg sections? same).trans sealed'.sections)
  simp only [Option.some.injEq, Prod.mk.injEq, List.cons.injEq, and_true] at sections
  obtain ⟨number, text⟩ := sections
  cases first
  cases second
  rw [Sms.mk.injEq]
  exact ⟨(String.append_right_inj _).1 number, (String.append_left_inj _).1 text⟩

end Spool

/-- The sender of a message in a file stands on one line. -/
lemma Sms.line_of_content {content : List Char} {sms : Sms}
    (read : ofContent? content = some sms) : '\n' ∉ sms.number.toList := by
  rw [ofContent?] at read
  split at read
  · cases read
  · next first others split =>
    obtain ⟨number, marked, rfl⟩ := Option.map_eq_some_iff.1 read
    have line : '\n' ∉ first := Text.not_mem_of_mem_lines (split ▸ List.mem_cons_self)
    have whole : fromMark ++ number = first := List.isPrefixOf?_eq_some_iff_append_eq.1 marked
    rw [String.toList_ofList]
    exact fun feed => line (whole ▸ List.mem_append_right _ (Text.mem_of_mem_trim feed))

end HeatingHub
