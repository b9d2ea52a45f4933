import HeatingHub.Proofs.Text.Gap
import HeatingHub.Proofs.Text.Line
import HeatingHub.Text.Pattern

/-!
# What patterns match

A pattern takes certain texts and keeps certain parts of them (`Pattern.Takes`), whatever is tried
first. Its ways into a text are the starts of the text that it takes (`Pattern.mem_ways`). So it
matches a whole text exactly if it takes the text (`Pattern.parts?_eq_none_iff`), and if there is
only one choice of parts, it is that one (`Pattern.parts?_eq_some`).

Where there are several choices the order matters, and it is followed step by step
(`Pattern.parts?_seq`): a repetition starts with the longest row of characters (`reverse_starts`),
and a lazy one passes the rows with which nothing behind it goes on (`findSome?_starts`).
-/

namespace HeatingHub.Text

variable {kind : Char → Bool}

/-- The starts of a text are all the rows of characters of one kind at its beginning. -/
lemma mem_starts {text taken left : List Char} :
    (taken, left) ∈ starts kind text ↔
      text = taken ++ left ∧ taken ≠ [] ∧ ∀ c ∈ taken, kind c := by
  induction text generalizing taken with
  | nil =>
    constructor
    · exact fun mem => absurd mem List.not_mem_nil
    · rintro ⟨whole, filled, -⟩
      exact absurd (List.append_eq_nil_iff.1 whole.symm).1 filled
  | cons c rest ih =>
    rw [starts]
    constructor
    · -- A start is the first character alone, or goes on with a start of the rest.
      intro mem
      split at mem
      · next fits =>
        obtain first | later := List.mem_cons.1 mem
        · cases first
          exact ⟨rfl, List.cons_ne_nil c [], List.forall_mem_singleton.2 fits⟩
        · obtain ⟨⟨row, _⟩, more, same⟩ := List.mem_map.1 later
          cases same
          obtain ⟨rfl, -, row⟩ := ih.1 more
          exact ⟨rfl, List.cons_ne_nil _ _, List.forall_mem_cons.2 ⟨fits, row⟩⟩
      · exact absurd mem List.not_mem_nil
    · rintro ⟨whole, filled, row⟩
      cases taken with
      | nil => exact absurd rfl filled
      | cons d taken =>
        obtain ⟨rfl, rfl⟩ := List.cons.inj whole
        obtain ⟨fits, row⟩ := List.forall_mem_cons.1 row
        rw [if_pos fits]
        cases taken with
        | nil => exact List.mem_cons_self
        | cons d taken =>
          exact List.mem_cons_of_mem _
            (List.mem_map.2 ⟨_, ih.2 ⟨rfl, List.cons_ne_nil d taken, row⟩, rfl⟩)

/-- The longest row of characters of one kind is the first that a repetition tries. -/
lemma reverse_starts {row : List Char} (filled : row ≠ []) (fits : ∀ c ∈ row, kind c)
    {rest : List Char} (ends : ∀ c ∈ rest.head?, kind c = false) :
    ∃ shorter, (starts kind (row ++ rest)).reverse = (row, rest) :: shorter := by
  induction row with
  | nil => exact absurd rfl filled
  | cons c row ih =>
    obtain ⟨first, fits⟩ := List.forall_mem_cons.1 fits
    rw [List.cons_append, starts, if_pos first, List.reverse_cons, ← List.map_reverse]
    cases row with
    | nil =>
      have none : starts kind rest = [] := by
        cases rest with
        | nil => rfl
        | cons d rest => exact if_neg (Bool.eq_false_iff.1 (ends d rfl))
      exact ⟨[], by rw [List.nil_append, none]; rfl⟩
    | cons d row =>
      obtain ⟨shorter, longest⟩ := ih (List.cons_ne_nil d row) fits
      rw [longest]
      exact ⟨_, rfl⟩

/-- A lazy repetition passes the rows that lead to nothing. -/
lemma findSome?_starts {α : Type} {goal : List Char × List Char → Option α} {result : α}
    {row rest : List Char} (filled : row ≠ []) (fits : ∀ c ∈ row, kind c)
    (early : ∀ first more, first ≠ [] → more ≠ [] → row = first ++ more →
      goal (first, more ++ rest) = none)
    (found : goal (row, rest) = some result) :
    (starts kind (row ++ rest)).findSome? goal = some result := by
  induction row generalizing goal with
  | nil => exact absurd rfl filled
  | cons c row ih =>
    obtain ⟨first, fits⟩ := List.forall_mem_cons.1 fits
    rw [List.cons_append, starts, if_pos first, List.findSome?_cons]
    cases row with
    | nil =>
      rw [List.nil_append, found]
    | cons d row =>
      rw [early [c] (d :: row) (List.cons_ne_nil c []) (List.cons_ne_nil d row) rfl,
        List.findSome?_map]
      refine ih (List.cons_ne_nil d row) fits (fun first more _ some whole => ?_) found
      exact early (c :: first) more (List.cons_ne_nil c first) some (by rw [whole]; rfl)

namespace Pattern

/-- The pattern takes this text and keeps these parts of it. -/
def Takes : Pattern → List Char → List (List Char) → Prop
  | literal letters, text, parts => text = letters ∧ parts = []
  | many kind, text, parts => text ≠ [] ∧ (∀ c ∈ text, kind c) ∧ parts = []
  | few kind, text, parts => text ≠ [] ∧ (∀ c ∈ text, kind c) ∧ parts = []
  | seq first rest, text, parts =>
    ∃ start behind kept more, text = start ++ behind ∧ parts = kept ++ more ∧
      first.Takes start kept ∧ rest.Takes behind more
  | either first other, text, parts => first.Takes text parts ∨ other.Takes text parts
  | kept inner, text, parts => ∃ more, parts = text :: more ∧ inner.Takes text more

/-- The ways of a repetition are the starts that it finds, and they keep nothing. -/
lemma mem_map_ofStart {starts : List (List Char × List Char)} {way : Way} :
    way ∈ starts.map .ofStart ↔ (way.taken, way.left) ∈ starts ∧ way.kept = [] := by
  rw [List.mem_map]
  constructor
  · rintro ⟨start, mem, rfl⟩
    exact ⟨mem, rfl⟩
  · obtain ⟨taken, kept, left⟩ := way
    rintro ⟨mem, none⟩
    exact ⟨(taken, left), mem, congrArg (Way.mk taken · left) none.symm⟩

/-- The ways into a text are the starts of it that the pattern takes. -/
lemma mem_ways {pattern : Pattern} {text : List Char} {way : Way} :
    way ∈ pattern.ways text ↔ text = way.taken ++ way.left ∧ pattern.Takes way.taken way.kept := by
  -- The text is general, since the rest of a sequence goes on in what its first pattern leaves.
  induction pattern generalizing text way with
  | literal letters =>
    rw [ways, Option.mem_toList, Option.map_eq_some_iff, Takes]
    constructor
    · rintro ⟨left, found, rfl⟩
      exact ⟨(List.isPrefixOf?_eq_some_iff_append_eq.1 found).symm, rfl, rfl⟩
    · obtain ⟨taken, parts, left⟩ := way
      rintro ⟨rfl, rfl, rfl⟩
      exact ⟨left, after?_append taken left, rfl⟩
  | many kind =>
    rw [ways, mem_map_ofStart, List.mem_reverse, mem_starts, and_assoc, and_assoc, Takes]
  | few kind => rw [ways, mem_map_ofStart, mem_starts, and_assoc, and_assoc, Takes]
  | seq first rest ih ih' =>
    rw [ways, List.mem_flatMap, Takes]
    constructor
    · rintro ⟨start, mem, later⟩
      obtain ⟨next, mem', rfl⟩ := List.mem_map.1 later
      obtain ⟨whole, takes⟩ := ih.1 mem
      obtain ⟨whole', takes'⟩ := ih'.1 mem'
      refine ⟨?_, _, _, _, _, rfl, rfl, takes, takes'⟩
      rw [whole, whole']
      exact (List.append_assoc _ _ _).symm
    · obtain ⟨taken, parts, left⟩ := way
      rintro ⟨whole, start, behind, kept, more, rfl, rfl, takes, takes'⟩
      refine ⟨⟨start, kept, behind ++ left⟩, ih.2 ⟨?_, takes⟩, List.mem_map.2
        ⟨⟨behind, more, left⟩, ih'.2 ⟨rfl, takes'⟩, rfl⟩⟩
      exact whole.trans (List.append_assoc _ _ _)
  | either first other ih ih' =>
    rw [ways, List.mem_append, ih, ih', Takes, and_or_left]
  | kept inner ih =>
    rw [ways, List.mem_map, Takes]
    constructor
    · rintro ⟨within, mem, rfl⟩
      obtain ⟨whole, takes⟩ := ih.1 mem
      exact ⟨whole, within.kept, rfl, takes⟩
    · obtain ⟨taken, parts, left⟩ := way
      rintro ⟨whole, more, keeps, takes⟩
      exact ⟨⟨taken, more, left⟩, ih.2 ⟨whole, takes⟩, congrArg (Way.mk taken · left) keeps.symm⟩

section

variable {pattern first rest : Pattern} {text : List Char} {parts : List (List Char)}

/-- A pattern takes a text of which it keeps parts. -/
lemma takes_of_parts? (found : pattern.parts? text = some parts) : pattern.Takes text parts := by
  obtain ⟨way, first, rfl⟩ := Option.map_eq_some_iff.1 found
  obtain ⟨whole, takes⟩ := mem_ways.1 (List.mem_of_find?_eq_some first)
  have nothing : way.isWhole := List.find?_some first
  rw [List.isEmpty_iff.1 nothing, List.append_nil] at whole
  rwa [whole]

/-- A pattern keeps parts of every text that it takes. -/
lemma parts?_eq_none_iff : pattern.parts? text = none ↔ ∀ parts, ¬ pattern.Takes text parts := by
  constructor
  · intro none parts takes
    rw [parts?, Option.map_eq_none_iff, List.find?_eq_none] at none
    have mem : (⟨text, parts, []⟩ : Way) ∈ pattern.ways text :=
      mem_ways.2 ⟨(List.append_nil text).symm, takes⟩
    exact none _ mem rfl
  · intro refused
    cases found : pattern.parts? text with
    | none => rfl
    | some parts => exact absurd (takes_of_parts? found) (refused parts)

/-- If there is only one choice of parts, these are kept. -/
lemma parts?_eq_some (takes : pattern.Takes text parts)
    (only : ∀ others, pattern.Takes text others → others = parts) :
    pattern.parts? text = some parts := by
  cases found : pattern.parts? text with
  | none => exact absurd takes (parts?_eq_none_iff.1 found parts)
  | some others => rw [only others (takes_of_parts? found)]

/-- The ways of the first pattern are tried, until the rest matches what one of them leaves. -/
lemma parts?_seq :
    (seq first rest).parts? text =
      (first.ways text).findSome? fun way => (rest.parts? way.left).map (way.kept ++ ·) := by
  rw [parts?, ways, List.find?_flatMap, List.map_findSome?]
  refine congrArg (List.findSome? · _) (funext fun way => ?_)
  rw [Function.comp_apply, List.find?_map, Option.map_map, parts?, Option.map_map]
  rfl

/-- The letters of a pattern are taken off the text. -/
lemma parts?_seq_literal (letters : List Char) :
    (seq (literal letters) rest).parts? (letters ++ text) = rest.parts? text := by
  rw [parts?_seq, ways, after?_append, Option.map_some, Option.toList_some,
    List.findSome?_singleton]
  exact Option.map_id'

/-- A repetition takes as much as it can, if the rest goes on with what is left. -/
lemma parts?_seq_many {row : List Char} (filled : row ≠ []) (fits : ∀ c ∈ row, kind c)
    (ends : ∀ c ∈ text.head?, kind c = false) (found : rest.parts? text = some parts) :
    (seq (many kind) rest).parts? (row ++ text) = some parts := by
  obtain ⟨shorter, longest⟩ := reverse_starts filled fits ends
  let way := Way.ofStart (row, text)
  have first : (rest.parts? way.left).map (way.kept ++ ·) = some parts :=
    Option.map_eq_some_iff.2 ⟨parts, found, rfl⟩
  rw [parts?_seq, ways, longest, List.map_cons, List.findSome?_cons, first]

/-- A lazy repetition takes as little as it can, so that the rest goes on with what is left. -/
lemma parts?_seq_kept_few {row : List Char} (filled : row ≠ []) (fits : ∀ c ∈ row, kind c)
    (early : ∀ first more, first ≠ [] → more ≠ [] → row = first ++ more →
      rest.parts? (more ++ text) = none)
    (found : rest.parts? text = some parts) :
    (seq (kept (few kind)) rest).parts? (row ++ text) = some (row :: parts) := by
  rw [parts?_seq, ways, ways, List.findSome?_map, List.findSome?_map]
  refine findSome?_starts filled fits (fun first more some some' whole => ?_) ?_
  · exact Option.map_eq_none_iff.2 (early first more some some' whole)
  · exact Option.map_eq_some_iff.2 ⟨parts, found, rfl⟩

end

end Pattern

end HeatingHub.Text
