import HeatingHub.Text.Cut
import HeatingHub.Text.Line

/-!
# Places in the tree of directories

A path is a row of segments between slashes. Each segment leads from one place to the next: a name
leads down, two dots lead up, and an empty segment or a single dot lead nowhere. A path that begins
with a slash starts at the root, any other in the directory that the program runs in.
-/

namespace HeatingHub

/-- A place in the tree of directories. -/
structure Place where
  /-- The place is counted from the root, and not from the directory that the program runs in. -/
  fromRoot : Bool
  /-- The names on the way down to the place, the last one first. -/
  names : List (List Char) := []
  deriving DecidableEq

namespace Place

/-- The greatest width of a name. -/
def nameLimit : Nat := 255

/-- The greatest width of a path. -/
def pathLimit : Nat := 4095

/-- The segments of a path. -/
def segments (path : String) : List (List Char) :=
  Text.splitAt '/' path.toList

/-- A segment is the name of an entry, and not a way of speaking of the directory that it is read
in or of the one above. -/
def isName (segment : List Char) : Bool :=
  segment ∉ [[], ['.'], ['.', '.']]

/-- The place that a segment leads to. Nothing lies above the root. -/
def step (place : Place) (segment : List Char) : Place :=
  if isName segment then { place with names := segment :: place.names }
  else if segment = ['.', '.'] then { place with names := place.names.tail }
  else place

/-- The place where a path starts. -/
def start (path : String) : Place where
  fromRoot := path.toList.head? = some '/'

/-- The place that a path leads to. -/
def ofPath (path : String) : Place :=
  (segments path).foldl step (start path)

/-- The places that a path leads through before its last segment. -/
def above (path : String) : List Place :=
  ((segments path).dropLast).scanl step (start path)

/-- A name that is too wide for an entry. -/
def isLongName (segment : List Char) : Bool :=
  nameLimit < Text.width segment

/-- A path that is too wide to be followed at all. -/
def isLongPath (path : String) : Bool :=
  pathLimit < Text.width path.toList

/-- A new entry can have this path: it ends in a name, and no name in it is too wide. -/
def isEntryPath (path : String) : Bool :=
  (segments path).getLast?.any isName && !(segments path).any isLongName

end Place

end HeatingHub
