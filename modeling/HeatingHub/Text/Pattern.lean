import HeatingHub.Text.Line

/-!
# Patterns

A *pattern* says what a text must look like, and which parts of it are kept. The start of a text can
match in several ways. They are tried one after the other, and the first one that leaves nothing of
the text is the one that counts: a repetition takes as many characters as it can, and fewer only if
that fails, or the other way round if it is lazy; and of two alternatives the first one is tried
before the second.
-/

namespace HeatingHub.Text

/-- A pattern. -/
inductive Pattern
  /-- These characters. -/
  | literal (letters : List Char)
  /-- One character of this kind or more, and as many as can be. -/
  | many (kind : Char → Bool)
  /-- One character of this kind or more, and as few as can be. -/
  | few (kind : Char → Bool)
  /-- One pattern, and the other behind it. -/
  | seq (first rest : Pattern)
  /-- One pattern or, if that fails, the other. -/
  | either (first other : Pattern)
  /-- A pattern whose part of the text is kept. -/
  | kept (inner : Pattern)

/-- A way in which the start of a text matches a pattern: what the pattern takes of the text, the
parts that are kept, and what is left. -/
structure Way where
  taken : List Char
  kept : List (List Char) := []
  left : List Char

/-- The starts of a text that are characters of one kind, at least one of them, and what is left
behind each. The shortest start is the first. -/
def starts (kind : Char → Bool) : List Char → List (List Char × List Char)
  | [] => []
  | c :: rest =>
    if kind c then ([c], rest) :: (starts kind rest).map fun (taken, left) => (c :: taken, left)
    else []

namespace Way

/-- A way for which only characters are taken. -/
def ofStart (start : List Char × List Char) : Way where
  taken := start.1
  left := start.2

/-- A way that goes on with another one, in what the first leaves. -/
def andThen (way next : Way) : Way where
  taken := way.taken ++ next.taken
  kept := way.kept ++ next.kept
  left := next.left

/-- The way with all that it takes as the first part that is kept. -/
def keep (way : Way) : Way :=
  { way with kept := way.taken :: way.kept }

/-- Nothing of the text is left. -/
def isWhole (way : Way) : Bool :=
  way.left.isEmpty

end Way

namespace Pattern

/-- The ways in which the start of a text matches, in the order in which they are tried. -/
def ways : Pattern → List Char → List Way
  | literal letters, text =>
    ((after? letters text).map fun left => { taken := letters, left }).toList
  | many kind, text => (starts kind text).reverse.map .ofStart
  | few kind, text => (starts kind text).map .ofStart
  | seq first rest, text =>
    (first.ways text).flatMap fun way => (rest.ways way.left).map way.andThen
  | either first other, text => first.ways text ++ other.ways text
  | kept inner, text => (inner.ways text).map .keep

/-- The parts that are kept of a text that matches from its first character to its last. -/
def parts? (pattern : Pattern) (text : List Char) : Option (List (List Char)) :=
  ((pattern.ways text).find? (·.isWhole)).map (·.kept)

end Pattern

end HeatingHub.Text
