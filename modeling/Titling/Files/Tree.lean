import Titling.Files.Path

/-! File systems as values: which files hold which bytes, and which directories there are. -/

namespace Titling

/-- Files with their bytes and directories without; each path stands once. -/
structure FileTree where
  entries : List (Path × Option ByteArray) := []

namespace FileTree

/-- Writes a file or makes a directory; the directories above it come with it. -/
def write (tree : FileTree) (path : Path) (content : Option ByteArray) : FileTree where
  -- A path keeps its last content, and stands behind all others.
  entries := (tree.entries.filter fun entry => entry.1 != path) ++ [(path, content)]

/-- The bytes of a file. -/
def read? (tree : FileTree) (path : Path) : Option ByteArray :=
  (tree.entries.lookup path).join

/-- Tells whether there is a file. -/
def isFile (tree : FileTree) (path : Path) : Bool :=
  (tree.read? path).isSome

/-- Tells whether an entry makes a path a directory: as its own, or by lying below it. -/
def impliesDirectory (path : Path) (entry : Path × Option ByteArray) : Bool :=
  -- A file is no directory, while all that lies above an entry is one.
  path.isPrefixOf entry.1 && (entry.1 != path || entry.2.isNone)

/-- Tells whether there is a directory; the root of the file system always is one. -/
def isDirectory (tree : FileTree) (path : Path) : Bool :=
  path.isEmpty || tree.entries.any (impliesDirectory path)

/-- Goes one name further from a directory; without the directory there is no way. -/
def descend (tree : FileTree) (here : Option Path) (name : String) : Option Path :=
  (here.filter fun directory => tree.isDirectory directory).map (·.step name)

/-- Where a path leads, when each directory on the way has to be there. -/
def locate? (tree : FileTree) (path : Path) : Option Path :=
  -- Each name is a step from a directory that is there, and going up needs that one, too.
  path.foldl tree.descend (some [])

/-- Tells whether a directory on a path is asked for a name that is too long. -/
def refusesFrom (tree : FileTree) : (here : Path) → (names : Path) → Bool
  | _, [] => false
  | here, name :: rest =>
    -- Without the directory nothing is asked for, and the path just leads nowhere.
    tree.isDirectory here &&
      (Path.nameLimit < name.utf8ByteSize || tree.refusesFrom (here.step name) rest)

/-- Tells whether looking a path up fails, rather than finding nothing there. -/
def refuses (tree : FileTree) (path : Path) : Bool :=
  -- A text with the terminator is turned away before its length counts.
  !path.isBroken && (Path.textLimit ≤ path.text.utf8ByteSize || tree.refusesFrom [] path)

/-- The place that a path leads to, if a directory is there. -/
def directoryAt? (tree : FileTree) (path : Path) : Option Path :=
  (tree.locate? path).filter fun place => tree.isDirectory place

/-- The paths of the files and directories below a directory, each once. -/
def below (tree : FileTree) (directory : Path) : List Path :=
  (tree.entries.flatMap fun entry =>
    -- Directories on the way to a file count, although they have no entry of their own.
    ((directory.below? entry.1).map Path.heads).getD []).eraseDups

/--
Tells whether a directory cannot be gone through: a look-up of it, or of a directory anywhere below
it, fails. The names below stand behind those of the path, which may be longer than its place.
-/
def refusesBelow (tree : FileTree) (path : Path) : Bool :=
  tree.refuses path ||
    match tree.directoryAt? path with
    | some place => (tree.below place).any fun name =>
      tree.isDirectory (place ++ name) && tree.refuses (path ++ name)
    | none => false

end FileTree

end Titling
