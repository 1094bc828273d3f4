import Mathlib.Data.List.Sort
import Titling.Proofs.Catalog.Calls

/-!
Languages do not mix: a look-up reads the directories of the language that is set and of the default
one, and what happens elsewhere makes no difference to it.

An empty setting names no language. The directories of all languages are read for it.
-/

namespace Titling.Catalog

/-- The directories for the language that is set, or else the default one, and for the default. -/
def consulted (roots : List Path) (standard : String) (setting : Option String) : List Path :=
  placesOf roots (setting.getD standard) ++ placesOf roots standard

section Congruence

variable {first second : FileTree}

/-- A directory that is seen alike has the same catalog files. -/
theorem filesIn_congr {directory : Path} (alike : first.SeenAlike second directory) :
    filesIn first directory = filesIn second directory := by
  -- Both lists are in the order of paths, so it is enough that they have the same files.
  refine (pairwise_filesIn first directory).eq_of_mem_iff (pairwise_filesIn second directory)
    fun file => ?_
  rw [mem_filesIn_iff_below, mem_filesIn_iff_below, ← alike.found]
  constructor
  · rintro ⟨place, name, found, rfl, below, named⟩
    exact ⟨place, name, found, rfl, (alike.mem_below_iff found name).mp below, named⟩
  · rintro ⟨place, name, found, rfl, below, named⟩
    exact ⟨place, name, found, rfl, (alike.mem_below_iff found name).mpr below, named⟩

/-- The catalog files of a directory that is seen alike hold the same. -/
theorem contentAt_congr (plain : first.IsPlain) {directory file : Path}
    (alike : first.SeenAlike second directory) (inside : file ∈ filesIn first directory) :
    contentAt first file = contentAt second file := by
  obtain ⟨place, name, found, rfl, below, -⟩ := (mem_filesIn_iff_below _ _ _).mp inside
  -- In both trees the path leads to the place of the directory, and from there to the file.
  have down : Path.up ∉ name := plain.of_mem_below below
  have located : first.locate? directory = some place := (Option.filter_eq_some_iff.mp found).1
  have other : second.locate? directory = some place :=
    (Option.filter_eq_some_iff.mp (alike.found ▸ found)).1
  rw [contentAt, contentAt, alike.opened place found name down,
    FileTree.locate?_of_mem_below located below down,
    FileTree.locate?_of_mem_below other ((alike.mem_below_iff found name).mp below) down,
    Option.getD_some, Content.ofPath, Content.ofPath, alike.files place found]

/-- Files that hold the same are read the same. -/
theorem loadFiles_congr {files : List Path}
    (same : ∀ file ∈ files, contentAt first file = contentAt second file) (catalog : Catalog) :
    loadFiles first files catalog = loadFiles second files catalog := by
  -- Induct over the files: at one without a table both readings end, and otherwise both go on.
  induction files generalizing catalog with
  | nil => rfl
  | cons file rest ih =>
    have here : contentAt first file = contentAt second file := same file List.mem_cons_self
    have later := ih fun other inside => same other (List.mem_cons_of_mem file inside)
    rw [loadFiles, loadFiles, here]
    cases contentAt second file with
    | entries entries => exact later (catalog.update entries)
    | notTable => rfl
    | unreadable => simp only [later catalog]

/-- Directories that are seen alike are read the same. -/
theorem loadDirectories_congr (plain : first.IsPlain) {directories : List Path}
    (alike : ∀ directory ∈ directories, first.SeenAlike second directory) (catalog : Catalog) :
    loadDirectories first directories catalog = loadDirectories second directories catalog := by
  -- Each directory is refused in both trees or in neither, and lists the same files.
  induction directories generalizing catalog with
  | nil => rfl
  | cons directory rest ih =>
    have here := alike directory List.mem_cons_self
    have later := ih fun other inside => alike other (List.mem_cons_of_mem directory inside)
    have files : loadFiles first (filesIn first directory) catalog =
        loadFiles second (filesIn second directory) catalog := by
      rw [← filesIn_congr here]
      exact loadFiles_congr (fun file inside => contentAt_congr plain here inside) catalog
    simp only [loadDirectories, here.refusesBelow_eq plain, files, later]

end Congruence

end Titling.Catalog

namespace Titling.Shelf

open Catalog

section Congruence

variable {first second : FileTree}

/-- A language that would be read the same is fetched the same, be it on the shelf or not. -/
theorem fetch_congr {shelf : Shelf} {language : String}
    (same : loadLanguage first shelf.roots language = loadLanguage second shelf.roots language) :
    shelf.fetch first language = shelf.fetch second language := by
  simp only [fetch, same]

/-- Languages that would be read the same are searched the same. -/
theorem search_congr (id : String) {shelf : Shelf} {languages : List String}
    (same : ∀ language ∈ languages,
      loadLanguage first shelf.roots language = loadLanguage second shelf.roots language) :
    search first id shelf languages = search second id shelf languages := by
  -- Induct over the languages: the first one is fetched alike, and so the same shelf is left.
  induction languages generalizing shelf with
  | nil => rfl
  | cons language rest ih =>
    have here := fetch_congr (same language List.mem_cons_self)
    -- The others are searched on the shelf as it is then, which has the same roots.
    have roots : (shelf.fetch second language).1.roots = shelf.roots :=
      (fetch_kept shelf language).roots
    have later : search first id (shelf.fetch second language).1 rest =
        search second id (shelf.fetch second language).1 rest := by
      apply ih
      rw [roots]
      exact fun other inside => same other (List.mem_cons_of_mem language inside)
    simp only [search, here, later]

/-- A shelf gives the same from two trees if the directories of its languages are seen alike. -/
theorem get_congr (plain : first.IsPlain) {shelf : Shelf} {setting : Option String}
    (standard : shelf.standard = "" ∨ Path.IsName shelf.standard)
    (chosen : ∀ language, setting = some language → language = "" ∨ Path.IsName language)
    (alike : ∀ directory ∈ consulted shelf.roots shelf.standard setting,
      first.SeenAlike second directory) (id : String) :
    shelf.get first setting none id = shelf.get second setting none id := by
  have target : setting.getD shelf.standard = "" ∨ Path.IsName (setting.getD shelf.standard) := by
    cases setting with
    | none => exact standard
    | some language => exact chosen language rfl
  -- Both languages are names or empty, so they are read from no other directories.
  have read : ∀ language, (language = "" ∨ Path.IsName language) →
      (∀ directory ∈ placesOf shelf.roots language, first.SeenAlike second directory) →
      loadLanguage first shelf.roots language = loadLanguage second shelf.roots language := by
    intro language named alike
    rw [loadLanguage, loadLanguage, directoriesOf_eq_placesOf shelf.roots named]
    exact loadDirectories_congr plain alike []
  have wanted := read _ target fun directory inside =>
    alike directory (List.mem_append_left _ inside)
  have default := read _ standard fun directory inside =>
    alike directory (List.mem_append_right _ inside)
  apply search_congr
  intro language inside
  rw [languages_eq] at inside
  -- The languages are the one that is wanted, and behind it the default one if it is another.
  split at inside
  · rw [List.mem_singleton.mp inside]
    exact wanted
  · rcases List.mem_pair.mp inside with rfl | rfl
    · exact wanted
    · exact default

end Congruence

/-- The text that a look-up gives does not depend on what was called before, but for the roots. -/
theorem textAfter_eq_get (tree : FileTree) {start : Shelf} (empty : start.loaded = [])
    (calls : List Call) (setting asked : Option String) (id : String) :
    textAfter tree start calls setting asked id =
      (get { roots := currentRoots start.roots calls, standard := start.standard }
        tree setting asked id).2.text := by
  rw [textAfter_eq empty, get_text (isCoherent_of_empty rfl), lookup_eq_textFrom]

/-- A shelf begins alike in two trees if the usual roots, where they are needed, are the same. -/
theorem ofRoots_congr {first second : FileTree} {directory : Path} {given : List Path}
    (usual : given = [] → Project.findRoot first directory = Project.findRoot second directory)
    (standard : String) :
    ofRoots first directory given standard = ofRoots second directory given standard := by
  by_cases none : given = []
  · subst none
    rw [ofRoots_nil, ofRoots_nil, usual rfl]
  · rw [ofRoots_of_given directory none, ofRoots_of_given directory none]

/--
A look-up that names no language gives the id, or a text that is bound to it in the directories of
the language that is set or of the default one, and nothing outside these makes a difference.

It gives a text unless something ends the reading of the directories that it needs. The directories
of a language are called as the language is; only for an empty setting they are those of all
languages. Where nothing changes in these directories, the same is given from the start, and by
a shelf on which something is already. A shelf begins with the same roots, too, unless none are
given and another project is found.
-/
theorem text_of_languages {tree : FileTree} (plain : tree.IsPlain) (directory : Path)
    (given : List Path) {standard : String} (named : Path.IsName standard) {start : Shelf}
    (opened : ofRoots tree directory given standard = .ok start) {setting : Option String}
    (chosen : ∀ language, setting = some language → language = "" ∨ Path.IsName language)
    (calls : List Call) (id : String) :
    ((∃ text, textAfter tree start calls setting none id = .ok text) ↔
      obstacle? tree (placesOf (currentRoots start.roots calls) (setting.getD standard)) = none ∧
        ((lastBound? id (bindings tree (placesOf (currentRoots start.roots calls)
            (setting.getD standard)))).isSome = true ∨
          obstacle? tree (placesOf (currentRoots start.roots calls) standard) = none)) ∧
    (∀ text, textAfter tree start calls setting none id = .ok text →
      text = id ∨ ∃ place ∈ consulted (currentRoots start.roots calls) standard setting,
        ∃ file ∈ filesIn tree place, (id, text) ∈ bindingsIn tree file) ∧
    ∀ other,
      (∀ place ∈ consulted (currentRoots start.roots calls) standard setting,
        tree.Unchanged other place) →
      ((given = [] → Project.findRoot other directory = Project.findRoot tree directory) →
        ofRoots other directory given standard = .ok start) ∧
      textAfter other start calls setting none id = textAfter tree start calls setting none id ∧
      ∀ shelf : Shelf, shelf.roots = currentRoots start.roots calls → shelf.standard = standard →
        shelf.get other setting none id = shelf.get tree setting none id := by
  obtain ⟨-, rfl, empty⟩ := ofRoots_eq_ok_iff.mp opened
  have target : target start.standard setting none = setting.getD start.standard := rfl
  have wanted : setting.getD start.standard = "" ∨ Path.IsName (setting.getD start.standard) := by
    cases setting with
    | none => exact .inr named
    | some language => exact chosen language rfl
  have places := directoriesOf_eq_placesOf (currentRoots start.roots calls) wanted
  have others := directoriesOf_eq_placesOf (currentRoots start.roots calls) (.inr named)
  refine ⟨?_, ?_, ?_⟩
  · -- The directories of both languages are those that are named by them.
    rw [exists_textAfter_iff empty, target, places, others]
  · intro text found
    rw [textAfter_eq empty, target] at found
    refine (bound_of_textFrom found).imp_right ?_
    rintro ⟨language, inside, bound, read, last⟩
    -- What is bound last is bound in a file that one of the directories lists.
    obtain ⟨-, rfl⟩ := readIn_eq_ok_iff.mp read
    obtain ⟨place, read, file, listed, bound⟩ := mem_bindings_iff.mp (mem_of_lastBound? last)
    refine ⟨place, ?_, file, listed, bound⟩
    rw [consulted, ← places, ← others, List.mem_append]
    rcases List.mem_pair.mp inside with rfl | rfl
    · exact .inl read
    · exact .inr read
  · -- The first tree is not changed in what is read, so that it may as well be the other one.
    intro other unchanged
    have same : ∀ shelf : Shelf, shelf.roots = currentRoots start.roots calls →
        shelf.standard = start.standard →
        shelf.get other setting none id = shelf.get tree setting none id := by
      intro shelf current kept
      have standard : shelf.standard = "" ∨ Path.IsName shelf.standard := .inr (kept ▸ named)
      refine (get_congr plain standard chosen ?_ id).symm
      rw [current, kept]
      exact fun place inside => (unchanged place inside).seenAlike
    -- From the start it is a shelf on which nothing is yet.
    refine ⟨fun usual => (ofRoots_congr usual _).trans opened, ?_, same⟩
    rw [textAfter_eq_get other empty, textAfter_eq_get tree empty]
    exact congrArg (·.2.text) (same { roots := _, standard := _ } rfl rfl)

/-- A site with texts in one language and none in the default one. -/
def german : FileTree where
  entries := [(["site", "needle", "de", "main.json"], some (greetingFile "Hallo"))]

/-- The shelf of the site, on which nothing is yet. -/
def germanShelf : Shelf where
  roots := [["site"]]

/-- The only file of the site has a greeting. -/
theorem contentAt_german :
    contentAt german ["site", "needle", "de", "main.json"] = .entries [("greet", "Hallo")] :=
  contentAt_of_greetingFile (by decide) (Json.isPlainText_ofList (by decide)) rfl

/-- A language is read from the site as it is, if its directories list the file. -/
theorem readIn_german {language : String} {first second : Path}
    (directories : directoriesOf [["site"]] language = [first, second])
    (ordinary : ∀ place ∈ [first, second], place.Fits ∧ Path.up ∉ place)
    (files : filesIn german first = [["site", "needle", "de", "main.json"]])
    (own : filesIn german second = []) :
    readIn german [["site"]] language = .ok [("greet", "Hallo")] := by
  have each : ∀ entry ∈ german.entries, entry.1.Fits := by decide
  have unrefused : ∀ place ∈ [first, second], german.refusesBelow place = false := by
    intro place inside
    exact FileTree.refusesBelow_of_fits (ordinary place inside).1 (ordinary place inside).2 each
  -- Nothing ends the reading, and what is bound is what the one file has.
  refine readIn_eq_ok_iff.mpr ⟨?_, ?_⟩
  · rw [directories]
    simp [obstacle?, obstacleIn?, unrefused, files, own, holdsOther, contentAt_german]
  · rw [directories]
    simp only [bindings, List.flatMap_cons, List.flatMap_nil, files, own, List.append_nil,
      bindingsIn, contentAt_german]

/-- A broken file of a third language makes no difference to a text in the language that is set. -/
theorem text_of_languages_beside_french :
    ofRoots german ["work"] [["site"]] "en" = .ok germanShelf ∧
    textAfter german germanShelf [] (some "de") none "greet" = .ok "Hallo" ∧
    textAfter (german.write ["site", "needle", "fr", "list.json"] (some "[]".toUTF8)) germanShelf
      [] (some "de") none "greet" = .ok "Hallo" := by
  have plain : german.IsPlain := by
    intro entry inside
    rw [german, List.mem_singleton] at inside
    subst inside
    decide
  have english : Path.IsName "en" := by constructor <;> decide
  have wanted : Path.IsName "de" := by constructor <;> decide
  have opened : ofRoots german ["work"] [["site"]] "en" = .ok germanShelf :=
    ofRoots_of_given _ (List.cons_ne_nil _ _) _
  have directories : directoriesOf [["site"]] "de" =
      [["site", "needle", "de"], ["site", ".drape", "needle", "de"]] :=
    directoriesOf_eq_placesOf _ (.inr wanted)
  have main : (german.below ["site", "needle", "de"]).filter isCatalogName = [["main.json"]] := by
    decide +kernel
  have read : readIn german [["site"]] "de" = .ok [("greet", "Hallo")] :=
    readIn_german directories (by decide)
      (filesIn_of_ordered (by decide) (by decide) main (by decide))
      (filesIn_of_nowhere (by decide))
  have text : textAfter german germanShelf [] (some "de") none "greet" = .ok "Hallo" := by
    rw [textAfter_eq rfl]
    exact textFrom_of_bound read rfl
  have chosen : ∀ language, some "de" = some language → language = "" ∨ Path.IsName language := by
    intro language same
    exact .inr (Option.some.inj same ▸ wanted)
  obtain ⟨-, -, unchanged⟩ := text_of_languages plain _ _ english opened chosen [] "greet"
  refine ⟨opened, text, Eq.trans (unchanged _ ?_).2.1 text⟩
  -- Each directory that is read has an ordinary path, and the file is written outside.
  have each : ∀ directory ∈ consulted [["site"]] "en" (some "de"),
      ((∀ name ∈ directory, name.utf8ByteSize ≤ Path.nameLimit) ∧
        directory.text.utf8ByteSize < Path.textLimit) ∧ Path.up ∉ directory ∧
        ¬ directory <+: ["site", "needle", "fr", "list.json"] := by
    decide
  intro directory inside
  obtain ⟨⟨names, short⟩, down, outside⟩ := each directory inside
  refine .ofOrdinary ⟨names, short⟩ down fun name => ⟨?_, ?_⟩
  · exact (FileTree.isDirectory_write_of_outside german outside _ name).symm
  · exact (FileTree.read?_write_of_outside german outside _ name).symm

/--
An empty setting leads to a text of a language that is neither set nor the default one.

In the default language there is no file at all, and the text goes with the file of the other one.
-/
theorem text_not_of_languages_of_empty :
    (∀ directory ∈ placesOf [["site"]] "en", filesIn german directory = []) ∧
    textAfter german germanShelf [] (some "") none "greet" = .ok "Hallo" ∧
    textAfter {} germanShelf [] (some "") none "greet" = .ok "greet" := by
  have directories : directoriesOf [["site"]] "" =
      [["site", "needle"], ["site", ".drape", "needle"]] :=
    directoriesOf_eq_placesOf _ (.inl rfl)
  refine ⟨?_, ?_, ?_⟩
  · have nowhere : ∀ directory ∈ placesOf [["site"]] "en",
        german.directoryAt? directory = none := by
      decide
    exact fun directory inside => filesIn_of_nowhere (nowhere directory inside)
  · have main : (german.below ["site", "needle"]).filter isCatalogName = [["de", "main.json"]] := by
      decide +kernel
    have read : readIn german [["site"]] "" = .ok [("greet", "Hallo")] :=
      readIn_german directories (by decide)
        (filesIn_of_ordered (by decide) (by decide) main (by decide))
        (filesIn_of_nowhere (by decide))
    rw [textAfter_eq rfl]
    exact textFrom_of_bound read rfl
  · -- Without the file there is no text in the default language either.
    have english : directoriesOf [["site"]] "en" = placesOf [["site"]] "en" :=
      directoriesOf_eq_placesOf _ (.inr (by constructor <;> decide))
    have all : readIn {} [["site"]] "" = .ok [] := by
      apply readIn_of_nowhere <;> rw [directories] <;> decide
    have default : readIn {} [["site"]] "en" = .ok [] := by
      apply readIn_of_nowhere <;> rw [english] <;> decide
    rw [textAfter_eq rfl]
    exact (textFrom_of_unbound all rfl).trans (congrArg _ default)

end Titling.Shelf
