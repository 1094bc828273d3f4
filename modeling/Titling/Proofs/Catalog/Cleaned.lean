import Mathlib.Data.List.Sort
import Titling.Proofs.Catalog.Calls
import Titling.Proofs.Files.Removal

/-!
Catalog files that hold no table: a look-up passes over those that cannot be read.

The text is the one that is found without any such file, unless reading ends at a file that can be
read and holds something else.
-/

namespace Titling.Catalog

/-- Tells whether what bytes hold is a table. -/
def Content.isTable : Content → Bool
  | .entries _ => true
  | _ => false

/-- Tells whether a place is named as catalog files are, but no table can be read there. -/
def isFaulty (tree : FileTree) (place : Path) : Bool :=
  isCatalogName place && !(Content.ofPath tree place).isTable

/-- A tree without the catalog files that hold no table. -/
def cleaned (tree : FileTree) : FileTree :=
  tree.withoutFiles (isFaulty tree)

/-- The directories are the same without the faulty files. -/
theorem isDirectory_cleaned (tree : FileTree) (path : Path) :
    (cleaned tree).isDirectory path = tree.isDirectory path :=
  FileTree.isDirectory_withoutFiles tree (isFaulty tree) path

/-- Nothing is at the place of a faulty file any more, and all else is as it was. -/
theorem content_cleaned (tree : FileTree) (place : Path) :
    Content.ofPath (cleaned tree) place =
      if isFaulty tree place then .unreadable else Content.ofPath tree place := by
  rw [Content.ofPath, cleaned, FileTree.read?_withoutFiles]
  cases isFaulty tree place <;> rfl

/-- No file in the cleaned tree holds anything but a table. -/
theorem holdsTables_cleaned (tree : FileTree) : HoldsTables (cleaned tree) := by
  intro place bytes named found other
  -- The file is still there, so it is not faulty.
  have kept : isFaulty tree place = false ∧ tree.read? place = some bytes := by
    rw [cleaned, FileTree.read?_withoutFiles] at found
    cases faulty : isFaulty tree place with
    | true => simp [faulty] at found
    | false => exact ⟨rfl, by simpa [faulty] using found⟩
  have table : (Content.ofBytes bytes).isTable = true := by
    simpa [isFaulty, named, Content.ofPath, kept.2] using kept.1
  rw [other] at table
  exact Bool.false_ne_true table

/-- A path that leads to a faulty file leads to nothing any more, and all else is as it was. -/
theorem contentAt_cleaned (tree : FileTree) (file : Path) :
    contentAt (cleaned tree) file =
      if isFaulty tree ((tree.locate? file).getD file) then .unreadable
      else contentAt tree file := by
  -- No directory comes or goes, so that paths are refused and lead somewhere as they did.
  rw [contentAt, contentAt, FileTree.refuses_congr (isDirectory_cleaned tree),
    FileTree.locate?_congr (isDirectory_cleaned tree), content_cleaned]
  split <;> simp

/-- A file binds the same without the faulty files, since these bind nothing. -/
theorem bindingsIn_cleaned (tree : FileTree) (file : Path) :
    bindingsIn (cleaned tree) file = bindingsIn tree file := by
  rw [bindingsIn, bindingsIn, contentAt_cleaned]
  cases faulty : isFaulty tree ((tree.locate? file).getD file) with
  | false => rfl
  | true =>
    -- What is no table binds nothing, whether it can be read or not.
    rw [isFaulty, Bool.and_eq_true, Bool.not_eq_true'] at faulty
    rw [if_pos rfl, contentAt]
    cases tree.refuses file with
    | true => rfl
    | false =>
      cases content : Content.ofPath tree ((tree.locate? file).getD file) with
      | entries entries => simp [content, Content.isTable] at faulty
      | unreadable => rfl
      | notTable => rfl

/-- Tells whether what a file's path leads to is no faulty file. -/
def isKept (tree : FileTree) (file : Path) : Bool :=
  let place := (tree.locate? file).getD file
  tree.isDirectory place || !isFaulty tree place

/-- What is not kept binds nothing. -/
theorem bindingsIn_of_not_kept {tree : FileTree} {file : Path} (lost : isKept tree file = false) :
    bindingsIn tree file = [] := by
  simp only [isKept, Bool.or_eq_false_iff, Bool.not_eq_false'] at lost
  rw [← bindingsIn_cleaned, bindingsIn, contentAt_cleaned, if_pos lost.2]

/-- In the cleaned tree those files of a directory are listed that are kept. -/
theorem filesIn_cleaned {tree : FileTree} (plain : tree.IsPlain) (directory : Path) :
    filesIn (cleaned tree) directory = (filesIn tree directory).filter (isKept tree) := by
  -- Both lists are in the order of paths, so it is enough that they have the same files.
  have before := (pairwise_filesIn tree directory).filter (isKept tree)
  refine (pairwise_filesIn (cleaned tree) directory).eq_of_mem_iff before fun file => ?_
  rw [List.mem_filter, mem_filesIn_iff_below, mem_filesIn_iff_below,
    FileTree.directoryAt?_congr (isDirectory_cleaned tree)]
  -- A listed file's path leads to its place below that of the directory.
  have placed : ∀ place name, tree.directoryAt? directory = some place →
      name ∈ tree.below place →
      (tree.locate? (directory ++ name)).getD (directory ++ name) = place ++ name := by
    intro place name found below
    have located := (Option.filter_eq_some_iff.mp found).1
    rw [FileTree.locate?_of_mem_below located below (plain.of_mem_below below), Option.getD_some]
  constructor
  · -- A file that is still listed was kept.
    rintro ⟨place, name, found, rfl, below, named⟩
    obtain ⟨listed, kept⟩ := (FileTree.mem_below_withoutFiles _ _ _ _).mp below
    refine ⟨⟨place, name, found, rfl, listed, named⟩, ?_⟩
    simpa [isKept, placed place name found listed] using kept
  · -- A file that is kept is still below the place, as a directory or as a file.
    rintro ⟨⟨place, name, found, rfl, listed, named⟩, kept⟩
    refine ⟨place, name, found, rfl, (FileTree.mem_below_withoutFiles _ _ _ _).mpr ⟨listed, ?_⟩,
      named⟩
    simpa [isKept, placed place name found listed] using kept

/-- Items that give nothing may be left out. -/
theorem flatMap_filter_of_nil {α β : Type} {items : List α} {kept : α → Bool} {give : α → List β}
    (nothing : ∀ item, kept item = false → give item = []) :
    (items.filter kept).flatMap give = items.flatMap give := by
  induction items with
  | nil => rfl
  | cons item rest ih =>
    cases stays : kept item with
    | true => simp [stays, ih]
    | false => simp [stays, ih, nothing item stays]

/-- Directories bind the same without the faulty files. -/
theorem bindings_cleaned {tree : FileTree} (plain : tree.IsPlain) (directories : List Path) :
    bindings (cleaned tree) directories = bindings tree directories := by
  have same : bindingsIn (cleaned tree) = bindingsIn tree := funext (bindingsIn_cleaned tree)
  -- Of each directory those files are left out that bind nothing.
  induction directories with
  | nil => rfl
  | cons directory rest ih =>
    rw [bindings_cons, bindings_cons, ih, same, filesIn_cleaned plain,
      flatMap_filter_of_nil fun file => bindingsIn_of_not_kept]

/-- In the cleaned tree nothing but a refusal ends reading directories. -/
theorem obstacle?_cleaned (tree : FileTree) (directories : List Path) :
    obstacle? (cleaned tree) directories = (directories.find? tree.refusesBelow).map .refused := by
  -- Refusals depend on directories alone, and these have stayed.
  have refuses : (cleaned tree).refusesBelow = tree.refusesBelow :=
    funext (FileTree.refusesBelow_congr (isDirectory_cleaned tree))
  rw [obstacle?_of_tables ((holdsTables_cleaned tree).obstacle?_ne directories), refuses]

/-- A language that is read without meeting what is no table is read so without faulty files. -/
theorem readIn_cleaned {tree : FileTree} (plain : tree.IsPlain) {roots : List Path}
    {language : String} (tables : ∀ file, readIn tree roots language ≠ .error (.notTable file)) :
    readIn (cleaned tree) roots language = readIn tree roots language := by
  have unmet : ∀ file,
      obstacle? tree (directoriesOf roots language) ≠ some (.notTable file) := by
    intro file met
    exact tables file (readIn_eq_error_iff.mpr met)
  rw [readIn, readIn, obstacle?_cleaned, bindings_cleaned plain, obstacle?_of_tables unmet]

/-- A text that is read without meeting what is no table is read so without faulty files. -/
theorem textFrom_cleaned {tree : FileTree} (plain : tree.IsPlain) {roots : List Path}
    {first second id : String}
    (tables : ∀ file, textFrom (readIn tree roots) first second id ≠ .error (.notTable file)) :
    textFrom (readIn (cleaned tree) roots) first second id =
      textFrom (readIn tree roots) first second id := by
  cases target : readIn tree roots first with
  | error error =>
    -- The look-up fails as the first language does, so that one does not fail at a file either.
    have same : readIn (cleaned tree) roots first = readIn tree roots first := by
      apply readIn_cleaned plain
      intro file met
      exact tables file (textFrom_of_failed met)
    rw [textFrom_of_failed target, textFrom_of_failed (same.trans target)]
  | ok bound =>
    -- The first language has been read, so that it has met no faulty file.
    have same : readIn (cleaned tree) roots first = .ok bound := by
      rw [readIn_cleaned plain, target]
      simp [target]
    cases last : lastBound? id bound with
    | some text => rw [textFrom_of_bound target last, textFrom_of_bound same last]
    | none =>
      rw [textFrom_of_unbound target last] at tables ⊢
      rw [textFrom_of_unbound same last, readIn_cleaned plain]
      -- The second language is needed, and the look-up fails as it does.
      intro file met
      exact tables file (by rw [met]; rfl)

/-- Without faulty files no text is kept back by one. -/
theorem textFrom_cleaned_ne (tree : FileTree) (roots : List Path) (first second id : String)
    (file : Path) :
    textFrom (readIn (cleaned tree) roots) first second id ≠ .error (.notTable file) := by
  intro failed
  obtain ⟨language, -, unread⟩ := error_of_textFrom failed
  have met := readIn_eq_error_iff.mp unread
  rw [obstacle?_cleaned] at met
  -- What is left to end the reading is a refusal, and that names no file.
  obtain ⟨directory, -, refused⟩ := Option.map_eq_some_iff.mp met
  exact Error.noConfusion refused

/-- Without faulty files a language is read to the end if its directories can be gone through. -/
theorem readIn_cleaned_of_unrefused {tree : FileTree} {roots : List Path} {language : String}
    (unrefused : ∀ directory ∈ directoriesOf roots language,
      tree.refusesBelow directory = false) :
    ∃ bound, readIn (cleaned tree) roots language = .ok bound := by
  refine ⟨_, readIn_eq_ok_iff.mpr ⟨?_, rfl⟩⟩
  rw [obstacle?_cleaned, find?_refusesBelow_of_unrefused unrefused]
  rfl

/-- No catalog file says where a project is, so that its root is found as before. -/
theorem findRoot_cleaned (tree : FileTree) (start : Path) :
    Project.findRoot (cleaned tree) start = Project.findRoot tree start := by
  have described : ∀ directory, (cleaned tree).isFile (directory ++ [Project.settingsFile]) =
      tree.isFile (directory ++ [Project.settingsFile]) := by
    intro directory
    -- The file that describes a project is not named as a catalog.
    have other : Project.settingsFile.endsWith extension = false := by decide +kernel
    have sound : isFaulty tree (directory ++ [Project.settingsFile]) = false := by
      simp [isFaulty, isCatalogName, other]
    rw [FileTree.isFile, FileTree.isFile, cleaned, FileTree.read?_withoutFiles, sound,
      if_neg Bool.false_ne_true]
  have roots : Project.isRoot (cleaned tree) = Project.isRoot tree := by
    funext directory
    rw [Project.isRoot, Project.isRoot, described, isDirectory_cleaned]
  rw [Project.findRoot, Project.findRoot, Project.checkStart, Project.checkStart,
    FileTree.refuses_congr (isDirectory_cleaned tree), Project.rootOf, Project.rootOf, roots]

end Titling.Catalog

namespace Titling.Shelf

open Catalog

/--
A look-up gives a text, and the one that is found without the catalog files that hold no table,
exactly if nothing ends the reading of the languages that it needs.

A shelf begins with the same roots without these files. Nothing but a file that can be read and
holds something else makes a difference, for files that cannot be read are skipped; without the
faulty files only a directory that cannot be gone through keeps the text back.
-/
theorem text_of_cleaned {tree : FileTree} (plain : tree.IsPlain) (directory : Path)
    (given : List Path) (standard : String) {start : Shelf}
    (opened : ofRoots tree directory given standard = .ok start) (calls : List Call)
    (setting asked : Option String) (id : String) :
    ofRoots (cleaned tree) directory given standard = .ok start ∧
    ((∃ text, textAfter tree start calls setting asked id = .ok text ∧
        textAfter (cleaned tree) start calls setting asked id = .ok text) ↔
      obstacle? tree (directoriesOf (currentRoots start.roots calls)
          (target standard setting asked)) = none ∧
        ((lastBound? id (bindings tree (directoriesOf (currentRoots start.roots calls)
            (target standard setting asked)))).isSome = true ∨
          obstacle? tree (directoriesOf (currentRoots start.roots calls) standard) = none)) ∧
    (textAfter tree start calls setting asked id =
        textAfter (cleaned tree) start calls setting asked id ↔
      ∀ file, textAfter tree start calls setting asked id ≠ .error (.notTable file)) ∧
    ((∀ place ∈
        directoriesOf (currentRoots start.roots calls) (target standard setting asked) ++
          directoriesOf (currentRoots start.roots calls) standard,
        tree.refusesBelow place = false) →
      ∃ text, textAfter (cleaned tree) start calls setting asked id = .ok text) ∧
    ∀ language, obstacle? tree (directoriesOf (currentRoots start.roots calls) language) = none →
      (loadLanguage tree (currentRoots start.roots calls) language).skipped =
        ((directoriesOf (currentRoots start.roots calls) language).flatMap (filesIn tree)).filter
          (isUnreadable tree) := by
  obtain ⟨initial, rfl, empty⟩ := ofRoots_eq_ok_iff.mp opened
  refine ⟨?_, ?_, ⟨?_, ?_⟩, ?_, ?_⟩
  · -- The present project, if it counts at all, is found as before.
    refine ofRoots_eq_ok_iff.mpr ⟨?_, rfl, empty⟩
    rw [← initial, initialRoots, initialRoots, findRoot_cleaned]
  · -- By the run lemma this is when a text is given at all.
    rw [← exists_textAfter_iff empty]
    constructor
    · rintro ⟨text, found, -⟩
      exact ⟨text, found⟩
    · -- A text that is given is no failure, so the faulty files make no difference to it.
      rintro ⟨text, found⟩
      refine ⟨text, found, ?_⟩
      rw [textAfter_eq empty] at found ⊢
      rw [textFrom_cleaned plain, found]
      simp [found]
  · -- Without the faulty files no look-up fails at one.
    intro same file failed
    rw [same, textAfter_eq empty] at failed
    exact textFrom_cleaned_ne _ _ _ _ _ file failed
  · -- A look-up that meets no faulty file does as well without them.
    intro tables
    simp only [textAfter_eq empty] at tables ⊢
    exact (textFrom_cleaned plain tables).symm
  · intro unrefused
    -- Both languages are read to the end, and so the text is given from one of them.
    obtain ⟨bound, first⟩ := readIn_cleaned_of_unrefused fun place inside =>
      unrefused place (List.mem_append_left _ inside)
    have second := readIn_cleaned_of_unrefused fun place inside =>
      unrefused place (List.mem_append_right _ inside)
    simp only [textAfter_eq empty]
    exact exists_textFrom_iff.mpr ⟨bound, first, .inr second⟩
  · intro language passed
    exact loadDirectories_skipped passed []

/-- A site with two languages; in one a file cannot be read, and in the other one is a list. -/
def mixed : FileTree where
  entries :=
    [(["site", "needle", "de", "broken.json"], some "\x7b".toUTF8),
      (["site", "needle", "de", "main.json"], some (greetingFile "Hallo")),
      (["site", "needle", "en", "list.json"], some "[]".toUTF8),
      (["site", "needle", "en", "main.json"], some (greetingFile "Hello"))]

/-- No name in the site goes up. -/
theorem isPlain_mixed : mixed.IsPlain := by
  intro entry inside
  simp only [mixed, List.mem_cons, List.not_mem_nil, or_false] at inside
  rcases inside with rfl | rfl | rfl | rfl <;> decide

/-- The site's directories of either language, and the files in them. -/
theorem filesIn_mixed :
    directoriesOf [["site"]] "de" = [["site", "needle", "de"], ["site", ".drape", "needle", "de"]] ∧
    directoriesOf [["site"]] "en" = [["site", "needle", "en"], ["site", ".drape", "needle", "en"]] ∧
    filesIn mixed ["site", "needle", "de"] =
      [["site", "needle", "de", "broken.json"], ["site", "needle", "de", "main.json"]] ∧
    filesIn mixed ["site", ".drape", "needle", "de"] = [] ∧
    filesIn mixed ["site", "needle", "en"] =
      [["site", "needle", "en", "list.json"], ["site", "needle", "en", "main.json"]] ∧
    filesIn mixed ["site", ".drape", "needle", "en"] = [] := by
  have german : Path.IsName "de" := by constructor <;> decide
  have english : Path.IsName "en" := by constructor <;> decide
  have broken : (mixed.below ["site", "needle", "de"]).filter isCatalogName =
      [["broken.json"], ["main.json"]] := by
    decide +kernel
  have list : (mixed.below ["site", "needle", "en"]).filter isCatalogName =
      [["list.json"], ["main.json"]] := by
    decide +kernel
  -- The file names stand in the order of paths, so they are listed as they are.
  refine ⟨directoriesOf_eq_placesOf _ (.inr german), directoriesOf_eq_placesOf _ (.inr english),
    ?_, filesIn_of_nowhere (by decide), ?_, filesIn_of_nowhere (by decide)⟩
  · exact filesIn_of_ordered (by decide) (by decide) broken (by decide)
  · exact filesIn_of_ordered (by decide) (by decide) list (by decide)

/-- Each directory of the site can be gone through. -/
theorem refusesBelow_mixed {directory : Path}
    (inside : directory ∈ directoriesOf [["site"]] "de" ++ directoriesOf [["site"]] "en") :
    mixed.refusesBelow directory = false := by
  have ordinary : ∀ directory ∈ directoriesOf [["site"]] "de" ++ directoriesOf [["site"]] "en",
      directory.Fits ∧ Path.up ∉ directory := by
    obtain ⟨german, english, -⟩ := filesIn_mixed
    rw [german, english]
    decide
  -- Ordinary paths are not refused, and neither is a file below them.
  have each : ∀ entry ∈ mixed.entries, entry.1.Fits := by decide
  obtain ⟨fits, down⟩ := ordinary directory inside
  exact FileTree.refusesBelow_of_fits fits down each

/-- What can be read of the language in which a file is broken. -/
theorem readIn_mixed : readIn mixed [["site"]] "de" = .ok [("greet", "Hallo")] := by
  obtain ⟨german, -, files, own, -, -⟩ := filesIn_mixed
  -- Of the two files the broken one is skipped, and what the other one binds is left.
  have broken : contentAt mixed ["site", "needle", "de", "broken.json"] = .unreadable := by
    rw [contentAt_of_text (by decide) rfl]
    cbv
  have main : contentAt mixed ["site", "needle", "de", "main.json"] =
      .entries [("greet", "Hallo")] :=
    contentAt_of_greetingFile (by decide) (Json.isPlainText_ofList (by decide)) rfl
  have unrefused : ∀ directory ∈ directoriesOf [["site"]] "de",
      mixed.refusesBelow directory = false :=
    fun directory inside => refusesBelow_mixed (List.mem_append_left _ inside)
  rw [german] at unrefused
  refine readIn_eq_ok_iff.mpr ⟨?_, ?_⟩
  · rw [german]
    simp [obstacle?, obstacleIn?, unrefused, files, own, holdsOther, broken, main]
  · rw [german]
    simp only [bindings, List.flatMap_cons, List.flatMap_nil, files, own, List.append_nil,
      bindingsIn, broken, main, List.nil_append]

/-- The shelf of the site, on which nothing is yet. -/
def mixedShelf : Shelf where
  roots := [["site"]]

/-- It is the shelf to begin with if the site is the only root that is given. -/
theorem ofRoots_mixed (tree : FileTree) (directory : Path) :
    ofRoots tree directory [["site"]] "en" = .ok mixedShelf :=
  ofRoots_of_given directory (List.cons_ne_nil _ _) "en"

/-- A file that cannot be read is passed over, and the text is the one found without it. -/
theorem text_of_cleaned_behind_broken :
    mixed.IsPlain ∧ ofRoots mixed ["site"] [["site"]] "en" = .ok mixedShelf ∧ ∃ text,
      textAfter mixed mixedShelf [] none (some "de") "greet" = .ok text ∧
      textAfter (cleaned mixed) mixedShelf [] none (some "de") "greet" = .ok text := by
  have target : target "en" none (some "de") = "de" := by decide
  have opened := ofRoots_mixed mixed ["site"]
  obtain ⟨-, same, -⟩ := text_of_cleaned isPlain_mixed _ _ _ opened [] none (some "de") "greet"
  obtain ⟨passed, bound⟩ := readIn_eq_ok_iff.mp readIn_mixed
  have greeted : (lastBound? "greet" (bindings mixed (directoriesOf [["site"]] "de"))).isSome := by
    rw [bound]
    rfl
  -- The language that is asked for is read to the end and binds the id.
  refine ⟨isPlain_mixed, opened, same.mpr ?_⟩
  rw [target]
  exact ⟨passed, .inl greeted⟩

/-- A list among the files of a language keeps its texts back, which are found without the list. -/
theorem text_not_of_cleaned_behind_list :
    ofRoots mixed ["site"] [["site"]] "en" = .ok mixedShelf ∧
    textAfter mixed mixedShelf [] none none "greet" =
      .error (.notTable ["site", "needle", "en", "list.json"]) ∧
    textAfter (cleaned mixed) mixedShelf [] none none "greet" = .ok "Hello" := by
  obtain ⟨-, english, -, -, files, own⟩ := filesIn_mixed
  have list : contentAt mixed ["site", "needle", "en", "list.json"] = .notTable := by
    rw [contentAt_of_text (by decide) rfl]
    cbv
  have main : contentAt mixed ["site", "needle", "en", "main.json"] =
      .entries [("greet", "Hello")] :=
    contentAt_of_greetingFile (by decide) (Json.isPlainText_ofList (by decide)) rfl
  have unrefused : ∀ directory ∈ directoriesOf [["site"]] "en",
      mixed.refusesBelow directory = false :=
    fun directory inside => refusesBelow_mixed (List.mem_append_right _ inside)
  have target : target "en" none none = "en" := rfl
  refine ⟨ofRoots_mixed mixed ["site"], ?_⟩
  rw [textAfter_eq rfl, textAfter_eq rfl, mixedShelf, target]
  -- Reading ends at the list, although the file behind it has the text.
  constructor
  · apply textFrom_of_failed
    rw [currentRoots, List.foldl_nil, readIn_eq_error_iff, english]
    rw [english] at unrefused
    simp [obstacle?, obstacleIn?, unrefused, files, holdsOther, list]
  · -- Without the list the language binds what its other file does.
    obtain ⟨bound, read⟩ := readIn_cleaned_of_unrefused unrefused
    have same := (readIn_eq_ok_iff.mp read).2
    rw [bindings_cleaned isPlain_mixed, english] at same
    simp only [bindings, List.flatMap_cons, List.flatMap_nil, files, own, List.append_nil,
      bindingsIn, list, main, List.nil_append] at same
    exact textFrom_of_bound read (by rw [← same]; rfl)

end Titling.Shelf
