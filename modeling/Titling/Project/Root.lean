import Titling.Files.Tree

/-! Finding the project that a directory belongs to. -/

namespace Titling.Project

/-- The file that describes a project and holds its settings. -/
def settingsFile : String := "pyproject.toml"

/-- The directory of a project's history. -/
def historyDirectory : String := ".git"

/-- Tells whether a directory holds a project's description or its history. -/
def isRoot (tree : FileTree) (directory : Path) : Bool :=
  tree.isFile (directory ++ [settingsFile]) || tree.isDirectory (directory ++ [historyDirectory])

/-- The nearest project root at or above a directory; without any it is the directory itself. -/
def rootOf (tree : FileTree) (start : Path) : Path :=
  (start.normalize.ancestors.find? (isRoot tree)).getD start.normalize

/-- Why no project can be looked for. -/
inductive SearchError where
  | brokenName
  | overlongName
deriving DecidableEq, Repr

/-- Tells whether a project can be looked for; the first place looked at is the deepest one. -/
def checkStart (tree : FileTree) (start : Path) : Except SearchError Unit :=
  -- A broken name is found out before anything is looked up.
  if start.isBroken then .error .brokenName
  else if tree.refuses (start.normalize ++ [settingsFile]) then .error .overlongName
  else .ok ()

/-- The project root for any directory, or the reason why none can be looked for. -/
def findRoot (tree : FileTree) (start : Path) : Except SearchError Path := do
  checkStart tree start
  return rootOf tree start

/-- The nearest settings file at or above a directory. -/
def settingsPath? (tree : FileTree) (start : Path) : Option Path :=
  (start.normalize.ancestors.map (· ++ [settingsFile])).find? tree.isFile

end Titling.Project
