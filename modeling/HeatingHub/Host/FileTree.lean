import HeatingHub.Fault
import HeatingHub.Host.Place
import HeatingHub.Text.Utf8

/-!
# Files of the host

The files and directories that the hub looks at on its host. Every directory that the path of one
of them leads through is there as well. A path is followed one segment after the other, and the
first obstacle on the way is the one that is reported: a name that is too long is noticed only
where the directory that it is looked up in is there.
-/

namespace HeatingHub

/-- Files and directories by their paths; of two files at one place the later one counts. -/
structure FileTree where
  files : List (String × List UInt8) := []
  directories : List String := []

namespace FileTree

/-- What stands at a place. -/
inductive Node
  | directory
  | file (bytes : List UInt8)
  deriving DecidableEq

/-- The places of the directories. -/
def directoryPlaces (tree : FileTree) : List Place :=
  tree.directories.map Place.ofPath ++
    (tree.directories ++ tree.files.map (·.1)).flatMap Place.above

/-- What stands at a place, if anything. -/
def node? (tree : FileTree) (place : Place) : Option Node :=
  match tree.files.reverse.find? fun file => Place.ofPath file.1 = place with
  | some file => some (.file file.2)
  | none => if place ∈ tree.directoryPlaces then some .directory else none

/-- Follows segments from a directory. What more segments follow must be a directory, even when all
of them are empty. -/
def walk (tree : FileTree) (place : Place) : List (List Char) → Except IoFault Node
  | [] => .ok .directory
  | segment :: rest =>
    let next := place.step segment
    if !Place.isName segment then tree.walk next rest
    else if Place.isLongName segment then .error .nameTooLong
    else match tree.node? next with
      | none => .error .notFound
      | some .directory => tree.walk next rest
      | some (.file bytes) => if rest.isEmpty then .ok (.file bytes) else .error .notDirectory

/-- What a path leads to. -/
def find (tree : FileTree) (path : String) : Except IoFault Node :=
  if path.toList.contains '\x00' then .error .zeroInPath
  else if path.isEmpty then .error .notFound
  else if Place.isLongPath path then .error .nameTooLong
  else tree.walk (Place.start path) (Place.segments path)

/-- Something stands at the end of a path. -/
def holds (tree : FileTree) (path : String) : Bool :=
  (tree.find path).isOk

/-- A file can be put at this path, where directories that are missing are made. -/
def canHold (tree : FileTree) (path : String) : Bool :=
  Place.isEntryPath path &&
    match tree.find path with
    | .ok (.file _) | .error .notFound => true
    | _ => false

/-- The bytes of a file. -/
def read (tree : FileTree) (path : String) : Except Fault (List UInt8) :=
  match tree.find path with
  | .ok (.file bytes) => .ok bytes
  | .ok .directory => .error (.io .isDirectory)
  | .error cause => .error (.io cause)

/-- The text of a file. -/
def readText (tree : FileTree) (path : String) : Except Fault (List Char) :=
  (tree.read path).bind fun bytes =>
    match Text.decode? bytes with
    | some text => .ok text
    | none => .error (.io .notText)

/-- The name of the entry at a place, if that lies directly in the directory. -/
def entryOf? (directory place : Place) : Option (List Char) :=
  match place.names with
  | name :: names => if { place with names } = directory then some name else none
  | [] => none

/-- The names of what lies directly in a directory; a name may be listed more than once. -/
def children (tree : FileTree) (directory : String) : List (List Char) :=
  (tree.directoryPlaces ++ tree.files.map fun file => Place.ofPath file.1).filterMap
    (entryOf? (Place.ofPath directory))

end FileTree

end HeatingHub
