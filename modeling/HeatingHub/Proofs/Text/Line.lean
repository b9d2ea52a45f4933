import HeatingHub.Proofs.Text.Word
import HeatingHub.Text.Line
import Mathlib.Data.List.Basic

/-!
# Lines and fields, read back

Each way of writing parts into one text is undone by the way of reading it: a line feed ends a line
(`lines_append_cons`) and takes a carriage return along (`lines_append_return`), the first separator
parts a key from its value (`splitOnce_append_cons`, `splitOnce_eq_some_iff`), the marks at the two
ends of a field come off (`after?_append`, `before?_append`), and commas part the members of a list
(`splitAt_intercalate`).

A text can be made of lines in several ways, as each may end with or without a carriage return, and
the last one need not end (`Lined`). The lines are found again whatever way it was
(`Lined.lines_eq`), and none of those behind the first is empty if no end of a line stands right
behind another (`hasBlankLine_of_nil_mem`).
-/

namespace HeatingHub.Text

/-- A line feed ends the line before it, unless a carriage return would go along with it. -/
lemma lines_append_cons {line : List Char} (rest : List Char) (feed : '\n' ∉ line)
    (last : line.getLast? ≠ some '\r') : lines (line ++ '\n' :: rest) = line :: lines rest := by
  -- By induction on the line; the reader looks two characters ahead for a carriage return, and so
  -- do the cases.
  induction line with
  | nil => rfl
  | cons c line ih =>
    have other : c ≠ '\n' := fun e => feed (e ▸ List.mem_cons_self)
    have ih := ih (fun mem => feed (List.mem_cons_of_mem _ mem))
    cases line with
    | nil =>
      have plain : c ≠ '\r' := fun e => last (e ▸ rfl)
      rw [List.cons_append, List.nil_append, lines]
      · rw [lines]
      · exact other
      · exact fun _ e _ => plain e
    | cons next line =>
      have ih := ih (by rwa [List.getLast?_cons_cons] at last)
      have inner : next ≠ '\n' := fun e => feed (e ▸ List.mem_cons_of_mem _ List.mem_cons_self)
      rw [List.cons_append, lines, ih]
      · exact other
      · exact fun _ _ e => inner (List.cons.inj e).1

/-- A line feed takes one carriage return along with the line before it. -/
lemma lines_append_return {line : List Char} (rest : List Char) (feed : '\n' ∉ line) :
    lines (line ++ '\r' :: '\n' :: rest) = line :: lines rest := by
  -- The induction of `lines_append_cons`, with the carriage return as the end of the line.
  induction line with
  | nil => rfl
  | cons c line ih =>
    have other : c ≠ '\n' := fun e => feed (e ▸ List.mem_cons_self)
    have ih := ih (fun mem => feed (List.mem_cons_of_mem _ mem))
    have next : ∀ rest', c = '\r' → line ++ '\r' :: '\n' :: rest = '\n' :: rest' → False := by
      intro rest' _ e
      cases line with
      | nil => exact absurd (List.cons.inj e).1 (by decide)
      | cons d line =>
        exact feed ((List.cons.inj e).1 ▸ List.mem_cons_of_mem _ List.mem_cons_self)
    rw [List.cons_append, lines, ih]
    · exact other
    · exact next

/-! ## Line by line -/

/-- What stands before the first line feed. -/
def firstLine (text : List Char) : List Char :=
  text.takeWhile (· ≠ '\n')

/-- What stands behind the first line feed. -/
def otherLines (text : List Char) : List Char :=
  (text.dropWhile (· ≠ '\n')).tail

section

variable {first : List Char} (feed : '\n' ∉ first) (rest : List Char)

include feed

/-- Where there is no line feed, every character is another. -/
lemma all_ne_feed : ∀ c ∈ first, (fun c => decide (c ≠ '\n')) c = true :=
  fun _ mem => decide_eq_true fun same => feed (same ▸ mem)

/-- The first line ends before the first line feed. -/
lemma firstLine_append : firstLine (first ++ '\n' :: rest) = first := by
  rw [firstLine, List.takeWhile_append_of_pos (all_ne_feed feed)]
  exact List.append_nil first

/-- The other lines begin behind the first line feed. -/
lemma otherLines_append : otherLines (first ++ '\n' :: rest) = rest := by
  rw [otherLines, List.dropWhile_append_of_pos (all_ne_feed feed)]
  rfl

/-- A text without a line feed is a single line. -/
lemma firstLine_eq_self : firstLine first = first :=
  List.takeWhile_eq_self_iff.2 (all_ne_feed feed)

/-- A text without a line feed has no other lines. -/
lemma otherLines_eq_nil : otherLines first = [] := by
  rw [otherLines, List.dropWhile_eq_nil_iff.2 (all_ne_feed feed)]
  rfl

/-- A line feed takes a carriage return along, if there is one before it. -/
lemma lines_append_feed : ∃ line, lines (first ++ '\n' :: rest) = line :: lines rest ∧
    (first = line ∨ first = line ++ ['\r']) := by
  by_cases last : first.getLast? = some '\r'
  · obtain ⟨line, rfl⟩ := List.getLast?_eq_some_iff.1 last
    have feed' : '\n' ∉ line := fun mem => feed (List.mem_append_left _ mem)
    refine ⟨line, ?_, .inr rfl⟩
    rw [List.append_assoc]
    exact lines_append_return rest feed'
  · exact ⟨first, lines_append_cons rest feed last, .inl rfl⟩

/-- What no line feed ends is a line of its own, if there is anything. -/
lemma lines_eq_singleton (filled : first ≠ []) : lines first = [first] := by
  induction first with
  | nil => exact absurd rfl filled
  | cons c first ih =>
    obtain ⟨other, feed⟩ := not_or.1 (mt List.mem_cons.2 feed)
    have plain : ∀ rest', c = '\r' → first = '\n' :: rest' → False :=
      fun _ _ same => feed (same ▸ List.mem_cons_self)
    cases first with
    | nil =>
      rw [lines, lines]
      · exact Ne.symm other
      · exact plain
    | cons d first =>
      rw [lines, ih feed (List.cons_ne_nil d first)]
      · exact Ne.symm other
      · exact plain

end

/-- The first line of a text is what stands before the first line feed, or all but a carriage return
at the end of that. -/
lemma lines_eq_cons {text : List Char} (filled : text ≠ []) :
    ∃ line, lines text = line :: lines (otherLines text) ∧
      (firstLine text = line ∨ firstLine text = line ++ ['\r']) := by
  by_cases feed : '\n' ∈ text
  · obtain ⟨first, rest, rfl, before⟩ := List.eq_append_cons_of_mem feed
    rw [firstLine_append before, otherLines_append before]
    exact lines_append_feed before rest
  · rw [firstLine_eq_self feed, otherLines_eq_nil feed]
    exact ⟨text, lines_eq_singleton feed filled, .inl rfl⟩

/-- A line as it can stand in a text, whatever ends it there. -/
structure IsLine (line : List Char) : Prop where
  feed : '\n' ∉ line
  last : line.getLast? ≠ some '\r'

/-- Whether characters can stand as a line can be computed. -/
instance (line : List Char) : Decidable (IsLine line) :=
  decidable_of_iff ('\n' ∉ line ∧ line.getLast? ≠ some '\r')
    ⟨fun ⟨feed, last⟩ => ⟨feed, last⟩, fun isLine => ⟨isLine.feed, isLine.last⟩⟩

/-- The text is made of these lines. Each is ended by a line feed or by a carriage return and a line
feed, and the end of the last one can be missing. -/
inductive Lined : List (List Char) → List Char → Prop
  | nil : Lined [] []
  | unended (line : List Char) : Lined [line] line
  | feed (line : List Char) {lines : List (List Char)} {text : List Char} (rest : Lined lines text) :
    Lined (line :: lines) (line ++ '\n' :: text)
  | returned (line : List Char) {lines : List (List Char)} {text : List Char}
    (rest : Lined lines text) : Lined (line :: lines) (line ++ '\r' :: '\n' :: text)

/-- The lines that a text is made of are found again in it, but for an empty one that nothing
ends. -/
lemma Lined.lines_eq {members : List (List Char)} {text : List Char} (h : Lined members text)
    (plain : ∀ line ∈ members, IsLine line) :
    members = lines text ∨ members = lines text ++ [[]] := by
  induction h with
  | nil => exact .inl rfl
  | unended line =>
    by_cases filled : line = []
    · exact .inr (by rw [filled]; rfl)
    · exact .inl (lines_eq_singleton (plain line List.mem_cons_self).feed filled).symm
  | feed line rest ih =>
    obtain ⟨first, others⟩ := List.forall_mem_cons.1 plain
    rw [lines_append_cons _ first.feed first.last]
    exact (ih others).imp (congrArg (line :: ·)) (congrArg (line :: ·))
  | returned line rest ih =>
    obtain ⟨first, others⟩ := List.forall_mem_cons.1 plain
    rw [lines_append_return _ first.feed]
    exact (ih others).imp (congrArg (line :: ·)) (congrArg (line :: ·))

/-- The first line of several, and what the others make up. -/
lemma Lined.split {first : List Char} {others : List (List Char)} {text : List Char}
    (h : Lined (first :: others) text) (feed : '\n' ∉ first) (several : others ≠ []) :
    (firstLine text = first ∨ firstLine text = first ++ ['\r']) ∧ Lined others (otherLines text) := by
  cases h with
  | unended => exact absurd rfl several
  | feed _ rest =>
    rw [firstLine_append feed, otherLines_append feed]
    exact ⟨.inl rfl, rest⟩
  | @returned _ _ text rest =>
    have feed' : '\n' ∉ first ++ ['\r'] := by simpa using feed
    have whole : first ++ '\r' :: '\n' :: text = first ++ ['\r'] ++ '\n' :: text := by simp
    rw [whole, firstLine_append feed', otherLines_append feed']
    exact ⟨.inr rfl, rest⟩

/-- A line of the text ends, and then the next one at once. -/
def HasBlankLine (text : List Char) : Prop :=
  ['\n', '\n'] <:+: text ∨ ['\n', '\r', '\n'] <:+: text

/-- Whether a text has a blank line can be computed. -/
instance (text : List Char) : Decidable (HasBlankLine text) :=
  inferInstanceAs (Decidable (_ ∨ _))

/-- A blank line stays when something is put before the text. -/
lemma HasBlankLine.append {text : List Char} (h : HasBlankLine text) (before : List Char) :
    HasBlankLine (before ++ text) :=
  h.imp (·.trans (List.suffix_append before text).isInfix)
    (·.trans (List.suffix_append before text).isInfix)

/-- What no line feed ends is no empty line. -/
lemma nil_not_mem_lines {text : List Char} (feed : '\n' ∉ text) : [] ∉ lines text := by
  by_cases filled : text = []
  · rw [filled]
    exact List.not_mem_nil
  · rw [lines_eq_singleton feed filled, List.mem_singleton]
    exact Ne.symm filled

/-- An empty line ends right behind the end of the line before it. -/
lemma hasBlankLine_of_nil_mem {text : List Char} (mem : [] ∈ (lines text).tail) :
    HasBlankLine text := by
  have feed : '\n' ∈ text := by
    by_contra none
    exact nil_not_mem_lines none (List.mem_of_mem_tail mem)
  obtain ⟨first, rest, whole, before⟩ := List.eq_append_cons_of_mem feed
  obtain ⟨line, split, -⟩ := lines_append_feed before rest
  rw [whole, split, List.tail_cons] at mem
  rw [whole]
  have feed : '\n' ∈ rest := by
    by_contra none
    exact nil_not_mem_lines none mem
  obtain ⟨second, others, rfl, between⟩ := List.eq_append_cons_of_mem feed
  obtain ⟨line, split, ends⟩ := lines_append_feed between others
  rw [split, List.mem_cons] at mem
  obtain rfl | later := mem
  · obtain rfl | rfl := ends
    · exact .inl ⟨first, others, by simp⟩
    · exact .inr ⟨first, others, by simp⟩
  · have rest := @hasBlankLine_of_nil_mem (second ++ '\n' :: others)
      (by rwa [split, List.tail_cons])
    exact (rest.append ['\n']).append first
termination_by text.length
decreasing_by simp only [whole, List.length_append, List.length_cons]; omega

/-- No line has a line feed in it. -/
lemma not_mem_of_mem_lines {text line : List Char} (mem : line ∈ lines text) : '\n' ∉ line := by
  induction text using lines.induct generalizing line with
  | case1 => cases mem
  | case2 rest ih | case3 rest ih =>
    rw [lines] at mem
    obtain rfl | mem := List.mem_cons.1 mem
    · exact List.not_mem_nil
    · exact ih mem
  | case4 c rest other plain none ih =>
    rw [lines, none, List.mem_singleton] at mem
    · rw [mem, List.mem_singleton]
      exact Ne.symm other
    · exact other
    · exact plain
  | case5 c rest other plain first others split ih =>
    -- The character joins the first line of the rest.
    rw [lines, split] at mem
    · rw [split] at ih
      obtain rfl | mem := List.mem_cons.1 mem
      · intro feed
        obtain same | feed := List.mem_cons.1 feed
        · exact other same.symm
        · exact ih List.mem_cons_self feed
      · exact ih (List.mem_cons_of_mem _ mem)
    · exact other
    · exact plain

/-- The first separator parts what stands before it from what stands behind it. -/
lemma splitOnce_append_cons {separator : Char} {key : List Char} (value : List Char)
    (h : separator ∉ key) :
    splitOnce separator (key ++ separator :: value) = some (key, value) := by
  induction key with
  | nil => exact if_pos rfl
  | cons c key ih =>
    have other : c ≠ separator := fun e => h (e ▸ List.mem_cons_self)
    rw [List.cons_append, splitOnce, if_neg other, ih fun mem => h (List.mem_cons_of_mem _ mem)]
    rfl

/-- A text is cut at a separator exactly if there is none before it. -/
lemma splitOnce_eq_some_iff {separator : Char} {text key value : List Char} :
    splitOnce separator text = some (key, value) ↔
      text = key ++ separator :: value ∧ separator ∉ key := by
  constructor
  · intro found
    induction text generalizing key with
    | nil => cases found
    | cons c text ih =>
      rw [splitOnce] at found
      split at found
      · next same =>
        cases found
        exact ⟨congrArg (· :: _) same, List.not_mem_nil⟩
      · next other =>
        obtain ⟨⟨start, rest⟩, split, parts⟩ := Option.map_eq_some_iff.1 found
        cases parts
        obtain ⟨rfl, apart⟩ := ih split
        refine ⟨rfl, fun mem => ?_⟩
        rcases List.mem_cons.1 mem with same | mem
        · exact other same.symm
        · exact apart mem
  · rintro ⟨rfl, apart⟩
    exact splitOnce_append_cons value apart

/-- What is put behind a text is put behind the part after its first separator. -/
lemma splitOnce_concat {separator c : Char} (other : c ≠ separator) (text : List Char) :
    splitOnce separator (text ++ [c]) =
      (splitOnce separator text).map fun parts => (parts.1, parts.2 ++ [c]) := by
  induction text with
  | nil => exact if_neg other
  | cons d text ih =>
    rw [List.cons_append, splitOnce, splitOnce]
    split
    · rfl
    · rw [ih, Option.map_map, Option.map_map]
      rfl

/-- A mark at the start of a text comes off it. -/
lemma after?_append (head text : List Char) : after? head (head ++ text) = some text :=
  List.isPrefixOf?_eq_some_iff_append_eq.2 rfl

/-- A mark at the end of a text comes off it. -/
lemma before?_append (tail text : List Char) : before? tail (text ++ tail) = some text :=
  List.isSuffixOf?_eq_some_iff_append_eq.2 rfl

/-- Members without separators are found again between the separators. -/
lemma splitAt_intercalate {separator : Char} {members : List (List Char)}
    (h : ∀ member ∈ members, separator ∉ member) (filled : members ≠ []) :
    splitAt separator ([separator].intercalate members) = members :=
  List.splitOn_intercalate separator h filled

end HeatingHub.Text
