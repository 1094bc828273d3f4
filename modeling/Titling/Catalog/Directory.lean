import Titling.Dictionary
import Titling.Files.Tree
import Titling.Json.Reader

/-! Message catalogs in directories: JSON files whose entries are texts under message ids. -/

namespace Titling

/-- Texts under message ids. -/
abbrev Catalog := Dictionary String

namespace Catalog

/--
Why a catalog cannot be had: a file holds JSON that is no object, or a path is too long, be it that
of a directory or that of one below it.
-/
inductive Error where
  | notTable (path : Path)
  | refused (directory : Path)
deriving DecidableEq, Repr

/-- What a catalog file turns out to be. -/
inductive Content where
  | entries (catalog : Catalog)
  | unreadable
  | notTable

/-- The end of the name of a catalog file. -/
def extension : String := ".json"

/-- The entry that a field makes; no id is broken, so a broken name makes none. -/
def entryOf? (field : List Text.Point × Json.Document) : Option (String × String) :=
  (Text.textOf? field.1).map fun name => (name, field.2.display)

/-- What the bytes of a file hold; a value is kept as its text. -/
def Content.ofBytes (bytes : ByteArray) : Content :=
  match (String.fromUTF8? bytes).bind Json.read? with
  -- Whatever kind a value is of, its text is the message.
  | some (.table fields) => .entries (fields.filterMap entryOf?)
  | some _ => .notTable
  | none => .unreadable

/-- What is at a path; a directory cannot be read as a file. -/
def Content.ofPath (tree : FileTree) (path : Path) : Content :=
  match tree.read? path with
  | some bytes => .ofBytes bytes
  | none => .unreadable

/-- What a path leads to; from one that is too long no more can be read than from a directory. -/
def contentAt (tree : FileTree) (path : Path) : Content :=
  if tree.refuses path then .unreadable else .ofPath tree ((tree.locate? path).getD path)

/-- Tells whether a path is named as catalog files are. -/
def isCatalogName (path : Path) : Bool :=
  (path.getLast?.map fun name => name.endsWith extension).getD false

/-- The catalog files of a directory at any depth, in the order of their paths. -/
def filesIn (tree : FileTree) (directory : Path) : List Path :=
  match tree.directoryAt? directory with
  | none => []
  | some place =>
    let names := (tree.below place).filter isCatalogName
    (names.mergeSort Path.le).map fun name => directory ++ name

/-- A catalog or the reason why there is none, and the files that were left out on the way. -/
structure Loaded where
  result : Except Error Catalog
  skipped : List Path := []

/-- Reads files into a catalog in turn, so that later entries win. -/
def loadFiles (tree : FileTree) : (files : List Path) → Catalog → Loaded
  | [], catalog => { result := .ok catalog }
  | file :: rest, catalog =>
    match contentAt tree file with
    | .entries entries => loadFiles tree rest (catalog.update entries)
    -- The files behind it are not read any more.
    | .notTable => { result := .error (.notTable file) }
    | .unreadable =>
      let loaded := loadFiles tree rest catalog
      { loaded with skipped := file :: loaded.skipped }

/-- Reads directories into a catalog in turn, up to one that cannot be gone through. -/
def loadDirectories (tree : FileTree) : (directories : List Path) → Catalog → Loaded
  | [], catalog => { result := .ok catalog }
  | directory :: rest, catalog =>
    -- All files are listed before the first one is read.
    if tree.refusesBelow directory then { result := .error (.refused directory) }
    else
      let loaded := loadFiles tree (filesIn tree directory) catalog
      match loaded.result with
      | .error _ => loaded
      | .ok catalog =>
        let others := loadDirectories tree rest catalog
        { others with skipped := loaded.skipped ++ others.skipped }

/-- The catalog of one directory. -/
def loadDirectory (tree : FileTree) (directory : Path) : Loaded :=
  loadDirectories tree [directory] []

end Catalog

end Titling
