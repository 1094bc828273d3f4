/-! Paths: names from the root of a file system down, in which `..` goes back up. -/

namespace Titling

/-- The names of a path; the empty path is the root of the file system. -/
abbrev Path := List String

namespace Path

/-- The name that stands for the directory above. -/
def up : String := ".."

/-- The character between the names in a path's text. -/
def separator : Char := '/'

/-- The names in a path's text; empty ones and single dots say nothing. -/
def names (text : String) : Path :=
  ((text.toList.splitOn separator).map String.ofList).filter fun name => name != "" && name != "."

/-- Tells whether a path's text begins at the root of the file system. -/
def isAbsolute (text : String) : Bool :=
  text.startsWith "/"

/-- The path that a text names as seen from a directory. -/
def join (directory : Path) (text : String) : Path :=
  -- An absolute text does not depend on the directory.
  if isAbsolute text then names text else directory ++ names text

/-- The directory above; the root lies in itself. -/
def parent (path : Path) : Path :=
  path.dropLast

/-- Goes one name further, or back up. -/
def step (path : Path) (name : String) : Path :=
  -- Above the root there is nothing else, so going up from it stays there.
  if name = up then path.parent else path ++ [name]

/-- The path without any `..`, worked out from the names alone. -/
def normalize (path : Path) : Path :=
  path.foldl step []

/-- Compares paths name by name, and names by code points; a path comes before those below it. -/
def le : Path → Path → Bool
  | [], _ => true
  | _ :: _, [] => false
  -- Names are compared whole, and a separator counts for nothing.
  | first :: rest, other :: others =>
    if first = other then le rest others else first < other

/-- The names of a path below a directory, if it lies there. -/
def below? (directory path : Path) : Option Path :=
  if directory.isPrefixOf path then some (path.drop directory.length) else none

/-- A path in one text, which begins at the root of the file system. -/
def text (path : Path) : String :=
  -- The text of the root alone is its separator.
  "/" ++ "/".intercalate path

/-- The most bytes that a name may have. -/
def nameLimit : Nat := 255

/-- The number of bytes that the text of a path has to stay below. -/
def textLimit : Nat := 4096

/-- The character that ends a text for a file system, so that no name holds it. -/
def terminator : Char := '\x00'

/-- Tells whether a path has a name that no file can have, as it holds the terminator. -/
def isBroken (path : Path) : Bool :=
  path.any fun name => name.contains terminator

/-- The paths that a path goes through, from the first name on and itself included. -/
def heads : Path → List Path
  | [] => []
  | name :: rest => [name] :: (heads rest).map (name :: ·)

/-- A directory and those above it, from the nearest on; the root of the file system is left out. -/
def ancestors (path : Path) : List Path :=
  path.heads.reverse

end Path

end Titling
