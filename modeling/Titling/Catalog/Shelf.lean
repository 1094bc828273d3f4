import Titling.Catalog.Directory
import Titling.Project.Root

/-! Looking up messages in the catalogs of a language, and of the default language after it. -/

namespace Titling

namespace Catalog

/-- The root under which the program's own catalogs are installed. -/
def home : Path := ["usr", "share", "titling"]

/-- The roots that are read where none are given: the program's own, and a project. -/
def usualRoots (project : Path) : List Path :=
  [home, project]

/-- The roots to begin with, which are the usual ones for a directory if none are given. -/
def initialRoots (tree : FileTree) (directory : Path) (given : List Path) :
    Except Project.SearchError (List Path) :=
  if given.isEmpty then (Project.findRoot tree directory).map usualRoots else .ok given

/-- The directory of a root in which catalogs are delivered. -/
def deliveredPlace : Path := ["needle"]

/-- The directory of a root in which a project keeps catalogs of its own. -/
def projectPlace : Path := [".drape", "needle"]

/-- The directories of a language; in each root the project's own one comes last. -/
def directoriesOf (roots : List Path) (language : String) : List Path :=
  roots.flatMap fun root =>
    [Path.join (root ++ deliveredPlace) language, Path.join (root ++ projectPlace) language]

/-- The catalog of a language over all roots. -/
def loadLanguage (tree : FileTree) (roots : List Path) (language : String) : Loaded :=
  loadDirectories tree (directoriesOf roots language) []

/--
The languages to look in. The language asked for comes first, if it says something, or else the one
that is set, even if to nothing; the default one comes at the end.
-/
def languages (standard : String) (setting asked : Option String) : List String :=
  -- An empty language that was asked for counts as none, but one that is set does not.
  let target := match asked.filter fun language => !language.isEmpty with
    | some language => language
    | none => setting.getD standard
  if target = standard then [target] else [target, standard]

/-- The text under an id in the first language that has one; without any the id itself. -/
def lookup (tree : FileTree) (roots : List Path) (id : String) : (languages : List String) →
    Except Error String
  | [] => .ok id
  | language :: rest => do
    let catalog ← (loadLanguage tree roots language).result
    -- The next language is only read if this one has no text under the id.
    match catalog.get? id with
    | some text => return text
    | none => lookup tree roots id rest

end Catalog

/-- Catalog roots with the languages that have been read from them so far. -/
structure Shelf where
  roots : List Path
  standard : String := "en"
  loaded : List (String × Catalog) := []

namespace Shelf

/-- A text or the reason why there is none, and the files left out while it was looked up. -/
structure Answer where
  text : Except Catalog.Error String
  skipped : List Path := []

/-- A shelf on the roots that are given, or on the usual ones for a directory if there are none. -/
def ofRoots (tree : FileTree) (directory : Path) (given : List Path) (standard : String := "en") :
    Except Project.SearchError Shelf := do
  return { roots := ← Catalog.initialRoots tree directory given, standard }

/-- Adds a root behind the others and forgets what was read; a known root changes nothing. -/
def addRoot (shelf : Shelf) (root : Path) : Shelf :=
  if root ∈ shelf.roots then shelf
  else { shelf with roots := shelf.roots ++ [root], loaded := [] }

/-- The catalog of a language, read the first time it is wanted. -/
def fetch (shelf : Shelf) (tree : FileTree) (language : String) : Shelf × Catalog.Loaded :=
  match shelf.loaded.lookup language with
  | some catalog => (shelf, { result := .ok catalog })
  | none =>
    let loaded := Catalog.loadLanguage tree shelf.roots language
    match loaded.result with
    | .ok catalog => ({ shelf with loaded := (language, catalog) :: shelf.loaded }, loaded)
    -- A language that cannot be read is tried anew the next time.
    | .error _ => (shelf, loaded)

/-- The text under an id in the first of several languages that has one. -/
def search (tree : FileTree) (id : String) : Shelf → (languages : List String) → Shelf × Answer
  | shelf, [] => (shelf, { text := .ok id })
  | shelf, language :: rest =>
    let (shelf, loaded) := shelf.fetch tree language
    match loaded.result with
    | .error error => (shelf, { text := .error error, skipped := loaded.skipped })
    | .ok catalog =>
      match catalog.get? id with
      | some text => (shelf, { text := .ok text, skipped := loaded.skipped })
      | none =>
        let (shelf, answer) := search tree id shelf rest
        (shelf, { answer with skipped := loaded.skipped ++ answer.skipped })

/-- The text under an id; what was read for it stays on the shelf. -/
def get (shelf : Shelf) (tree : FileTree) (setting asked : Option String) (id : String) :
    Shelf × Answer :=
  search tree id shelf (Catalog.languages shelf.standard setting asked)

end Shelf

end Titling
