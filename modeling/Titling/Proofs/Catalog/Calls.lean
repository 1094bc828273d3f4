import Titling.Proofs.Catalog.Packaged
import Titling.Proofs.Catalog.Shelf

/-!
Calls on a shelf in any order: what was read for earlier ones never shows in an answer.

Each answer is that of a shelf with the roots of the moment from which nothing has been read yet.
-/

namespace Titling.Shelf

variable {tree : FileTree}

/-- A call on a shelf: to look up a text, or to add a root. -/
inductive Call where
  | get (setting asked : Option String) (id : String)
  | addRoot (root : Path)

/-- The shelf as a call leaves it. -/
def perform (tree : FileTree) (shelf : Shelf) : Call → Shelf
  | .get setting asked id => (shelf.get tree setting asked id).1
  | .addRoot root => shelf.addRoot root

/-- The shelf as calls in turn leave it. -/
def after (tree : FileTree) (shelf : Shelf) (calls : List Call) : Shelf :=
  calls.foldl (perform tree) shelf

/-- The roots behind a call: one that is added stands at the end, unless it is there already. -/
def Call.rootsAfter (roots : List Path) : Call → List Path
  | .addRoot root => if roots.contains root then roots else roots ++ [root]
  | .get .. => roots

/-- The roots behind calls in turn. -/
def currentRoots (roots : List Path) (calls : List Call) : List Path :=
  calls.foldl Call.rootsAfter roots

/-- A call changes the roots as it says. -/
theorem perform_roots (shelf : Shelf) (call : Call) :
    (perform tree shelf call).roots = call.rootsAfter shelf.roots := by
  -- A look-up changes no roots, and adding one does what the roots behind the call say.
  cases call with
  | get setting asked id => exact (search_kept id shelf _).roots
  | addRoot root =>
    simp only [perform, addRoot, Call.rootsAfter, List.contains_iff_mem]
    split <;> rfl

/-- No call changes the default language. -/
theorem perform_standard (shelf : Shelf) (call : Call) :
    (perform tree shelf call).standard = shelf.standard := by
  cases call with
  | get setting asked id => exact (search_kept id shelf _).standard
  | addRoot root =>
    simp only [perform, addRoot]
    split <;> rfl

/-- Every call leaves a coherent shelf coherent. -/
theorem IsCoherent.perform {shelf : Shelf} (coherent : shelf.IsCoherent tree) (call : Call) :
    (shelf.perform tree call).IsCoherent tree := by
  cases call with
  | get setting asked id => exact (search_kept id shelf _).coherent coherent
  | addRoot root => exact coherent.addRoot root

/-- Behind any calls a shelf has the roots that they leave, and its default language. -/
theorem after_roots (shelf : Shelf) (calls : List Call) :
    (after tree shelf calls).roots = currentRoots shelf.roots calls ∧
      (after tree shelf calls).standard = shelf.standard := by
  -- Induct over the calls: the rest are made on the shelf that the first one leaves.
  induction calls generalizing shelf with
  | nil => exact ⟨rfl, rfl⟩
  | cons call rest ih =>
    obtain ⟨roots, standard⟩ := ih (shelf.perform tree call)
    rw [perform_roots] at roots
    rw [perform_standard] at standard
    exact ⟨roots, standard⟩

/-- Behind any calls a coherent shelf is coherent. -/
theorem IsCoherent.after {shelf : Shelf} (coherent : shelf.IsCoherent tree) (calls : List Call) :
    (shelf.after tree calls).IsCoherent tree := by
  induction calls generalizing shelf with
  | nil => exact coherent
  | cons call rest ih => exact ih (coherent.perform call)

/-- A root that is there already changes nothing on the shelf. -/
theorem perform_addRoot_of_mem {shelf : Shelf} {root : Path} (known : root ∈ shelf.roots) :
    perform tree shelf (.addRoot root) = shelf := by
  rw [perform, addRoot, if_pos known]

/-- A root that is there already may be added or not, whatever is called behind it. -/
theorem after_addRoot_of_mem {shelf : Shelf} {calls : List Call} {root : Path}
    (known : root ∈ currentRoots shelf.roots calls) (later : List Call) :
    after tree shelf (calls ++ .addRoot root :: later) = after tree shelf (calls ++ later) := by
  -- Where the call is made the root is one of the shelf's, which are what the calls leave.
  have there : root ∈ (after tree shelf calls).roots := by
    rw [(after_roots shelf calls).1]
    exact known
  simp only [after, List.foldl_append, List.foldl_cons] at there ⊢
  rw [perform_addRoot_of_mem there]

/-- No call takes a root away. -/
theorem subset_currentRoots (roots : List Path) (calls : List Call) :
    roots ⊆ currentRoots roots calls := by
  induction calls generalizing roots with
  | nil => exact List.Subset.refl roots
  | cons call rest ih =>
    -- The first call leaves each root, and so do the rest by induction.
    refine List.Subset.trans (fun root inside => ?_) (ih (call.rootsAfter roots))
    cases call with
    | get setting asked id => exact inside
    | addRoot other =>
      rw [Call.rootsAfter]
      split
      · exact inside
      · exact List.mem_append_left _ inside

/-- The text that a look-up gives behind calls on a shelf. -/
def textAfter (tree : FileTree) (start : Shelf) (calls : List Call)
    (setting asked : Option String) (id : String) : Except Catalog.Error String :=
  ((after tree start calls).get tree setting asked id).2.text

/-- Behind any calls the text is the one read from the roots that they leave. -/
theorem textAfter_eq {start : Shelf} (empty : start.loaded = []) (calls : List Call)
    (setting asked : Option String) (id : String) :
    textAfter tree start calls setting asked id =
      Catalog.textFrom (Catalog.readIn tree (currentRoots start.roots calls))
        (Catalog.target start.standard setting asked) start.standard id := by
  -- What was called leaves roots and a coherent shelf, and such a shelf answers as if read now.
  obtain ⟨current, kept⟩ := @after_roots tree start calls
  rw [textAfter, get_text ((isCoherent_of_empty empty).after calls), current, kept,
    Catalog.lookup_eq_textFrom]

/-- The text is given unless something ends the reading of the directories that it needs. -/
theorem exists_textAfter_iff {start : Shelf} (empty : start.loaded = []) {calls : List Call}
    {setting asked : Option String} {id : String} :
    (∃ text, textAfter tree start calls setting asked id = .ok text) ↔
      Catalog.obstacle? tree (Catalog.directoriesOf (currentRoots start.roots calls)
          (Catalog.target start.standard setting asked)) = none ∧
        ((Catalog.lastBound? id (Catalog.bindings tree (Catalog.directoriesOf
            (currentRoots start.roots calls)
            (Catalog.target start.standard setting asked)))).isSome = true ∨
          Catalog.obstacle? tree
            (Catalog.directoriesOf (currentRoots start.roots calls) start.standard) = none) := by
  rw [textAfter_eq empty, Catalog.exists_textFrom_iff]
  -- A language that is read has no obstacle, and it is bound to what its directories bind.
  simp only [Catalog.readIn_eq_ok_iff]
  constructor
  · rintro ⟨bound, ⟨passed, rfl⟩, needed⟩
    exact ⟨passed, needed.imp_right fun ⟨_, other, _⟩ => other⟩
  · rintro ⟨passed, needed⟩
    exact ⟨_, ⟨passed, rfl⟩, needed.imp_right fun other => ⟨_, other, rfl⟩⟩

/--
A look-up gives what a shelf that has read nothing gives, whatever was called on the shelf before.

A shelf begins with the roots that are given, or with the usual ones if there are none. Where each
catalog file holds a table, the text is the last one bound to the id in the target language, or else
in the default one, or else the id, unless a directory of these languages cannot be gone through.
The files of a directory are all those below it that are named as catalogs are, in the order of
their paths. A root that is there already changes nothing.
-/
theorem get_uncached (tree : FileTree) (holds : Catalog.HoldsTables tree) (directory : Path)
    (given : List Path) (standard : String) (calls : List Call) :
    (given ≠ [] → ofRoots tree directory given standard = .ok { roots := given, standard }) ∧
    (given = [] → ofRoots tree directory given standard =
      (Project.findRoot tree directory).map fun project =>
        { roots := Catalog.usualRoots project, standard }) ∧
    ∀ start, ofRoots tree directory given standard = .ok start →
      (∀ setting asked id,
        (∃ fresh,
          ofRoots tree directory (currentRoots start.roots calls) standard = .ok fresh ∧
          textAfter tree start calls setting asked id =
            (fresh.get tree setting asked id).2.text) ∧
        textAfter tree start calls setting asked id =
          Catalog.latestText tree (currentRoots start.roots calls) standard setting asked id ∧
        ((∀ place ∈
            Catalog.directoriesOf (currentRoots start.roots calls)
              (Catalog.target standard setting asked) ++
            Catalog.directoriesOf (currentRoots start.roots calls) standard,
            tree.refusesBelow place = false) →
          textAfter tree start calls setting asked id =
            .ok (((Catalog.lastBound? id (Catalog.bindings tree (Catalog.directoriesOf
                (currentRoots start.roots calls) (Catalog.target standard setting asked)))).or
              (Catalog.lastBound? id (Catalog.bindings tree (Catalog.directoriesOf
                (currentRoots start.roots calls) standard)))).getD id))) ∧
      (∀ place,
        (Catalog.filesIn tree place).Pairwise (· < ·) ∧
        ∀ file, file ∈ Catalog.filesIn tree place ↔
          ∃ found name, tree.locate? place = some found ∧ file = place ++ name ∧
            (∃ entry ∈ tree.entries, found ++ name <+: entry.1) ∧
            ∃ last, name.getLast? = some last ∧ last.endsWith Catalog.extension = true) ∧
      (∀ root ∈ currentRoots start.roots calls, ∀ later,
        currentRoots start.roots (calls ++ .addRoot root :: later) =
          currentRoots start.roots (calls ++ later) ∧
        after tree start (calls ++ .addRoot root :: later) =
          after tree start (calls ++ later)) := by
  refine ⟨fun some => ofRoots_of_given directory some standard, ?_, fun start opened => ⟨?_,
    fun place => ⟨Catalog.pairwise_filesIn tree place, Catalog.mem_filesIn_iff tree place⟩, ?_⟩⟩
  · -- Without given roots they are the usual ones, if there is a project to be found.
    rintro rfl
    exact ofRoots_nil directory standard
  · obtain ⟨-, rfl, empty⟩ := ofRoots_eq_ok_iff.mp opened
    intro setting asked id
    -- The roots of the moment are roots to begin with, too, as there is one at least.
    have some : currentRoots start.roots calls ≠ [] := by
      obtain ⟨root, others, split⟩ :=
        List.exists_cons_of_ne_nil (roots_ne_nil_of_ofRoots opened)
      have inside : root ∈ start.roots := split ▸ List.mem_cons_self
      exact List.ne_nil_of_mem (subset_currentRoots start.roots calls inside)
    have latest := Catalog.lookup_languages holds (currentRoots start.roots calls) start.standard
      setting asked id
    have text : textAfter tree start calls setting asked id =
        Catalog.lookup tree (currentRoots start.roots calls) id
          (Catalog.languages start.standard setting asked) := by
      rw [textAfter_eq empty, Catalog.lookup_eq_textFrom]
    refine ⟨⟨_, ofRoots_of_given directory some _, ?_⟩, text.trans latest, fun unrefused =>
      (text.trans latest).trans (Catalog.latestText_of_unrefused unrefused id)⟩
    rw [text, get_text (isCoherent_of_empty rfl)]
  · intro root known later
    -- The roots of a shelf are those that its calls leave, so they are the same, too.
    have unchanged := @after_addRoot_of_mem tree start calls root known later
    have same := congrArg Shelf.roots unchanged
    rw [(after_roots _ _).1, (after_roots _ _).1] at same
    exact ⟨same, unchanged⟩

/-- The bytes of a catalog that has a greeting and nothing else. -/
def greetingFile (words : String) : ByteArray :=
  Catalog.fileOf [("greet", words)]

/-- The greeting is read from the bytes. -/
theorem ofBytes_greetingFile {words : String} (plain : Json.IsPlainText words) :
    Catalog.Content.ofBytes (greetingFile words) = .entries [("greet", words)] := by
  refine Catalog.ofBytes_fileOf (List.cons_ne_nil _ _) (fun entry inside => ?_)
    (List.nodup_singleton "greet")
  rw [List.mem_singleton.mp inside]
  exact ⟨Json.isPlainText_ofList (by decide), plain⟩

/-- At the place of the bytes is the greeting. -/
theorem contentAt_of_greetingFile {tree : FileTree} {file : Path} {words : String}
    (fits : file.Fits) (plain : Json.IsPlainText words)
    (written : tree.read? ((tree.locate? file).getD file) = some (greetingFile words)) :
    Catalog.contentAt tree file = .entries [("greet", words)] := by
  rw [Catalog.contentAt_of_fits tree fits, Catalog.Content.ofPath, written]
  exact ofBytes_greetingFile plain

/-- A package with a greeting, and a site that has a greeting of its own. -/
def greetings : FileTree where
  entries :=
    [(["package", "needle", "en", "main.json"], some (greetingFile "Hello")),
      (["site", ".drape", "needle", "en", "own.json"], some (greetingFile "Hi"))]

/-- Both greetings stand in tables. -/
theorem holdsTables_greetings : Catalog.HoldsTables greetings := by
  -- Only what stands in the list of files can be read.
  apply Catalog.holdsTables_of_entries
  intro path bytes inside
  simp only [greetings, List.mem_cons, Prod.mk.injEq, Option.some.injEq, List.not_mem_nil,
    or_false] at inside
  rcases inside with ⟨-, rfl⟩ | ⟨-, rfl⟩
  · rw [ofBytes_greetingFile (Json.isPlainText_ofList (by decide))]
    exact Catalog.Content.noConfusion
  · rw [ofBytes_greetingFile (Json.isPlainText_ofList (by decide))]
    exact Catalog.Content.noConfusion

/-- The directories of the package and the site in the default language, and the files in them. -/
theorem filesIn_greetings :
    Catalog.directoriesOf [["package"], ["site"]] "en" =
      [["package", "needle", "en"], ["package", ".drape", "needle", "en"],
        ["site", "needle", "en"], ["site", ".drape", "needle", "en"]] ∧
    Catalog.filesIn greetings ["package", "needle", "en"] =
      [["package", "needle", "en", "main.json"]] ∧
    Catalog.filesIn greetings ["package", ".drape", "needle", "en"] = [] ∧
    Catalog.filesIn greetings ["site", "needle", "en"] = [] ∧
    Catalog.filesIn greetings ["site", ".drape", "needle", "en"] =
      [["site", ".drape", "needle", "en", "own.json"]] := by
  have english : Path.IsName "en" := by constructor <;> decide
  -- Two of the four directories do not exist, and the others have one file each.
  refine ⟨?_, ?_, Catalog.filesIn_of_nowhere (by decide),
    Catalog.filesIn_of_nowhere (by decide), ?_⟩
  · exact Catalog.directoriesOf_eq_placesOf _ (.inr english)
  · exact Catalog.filesIn_of_ordered (by decide) (by decide) (by decide +kernel)
      (List.pairwise_singleton _ ["main.json"])
  · exact Catalog.filesIn_of_ordered (by decide) (by decide) (by decide +kernel)
      (List.pairwise_singleton _ ["own.json"])

/-- The greeting of the site is bound behind that of the package, if its root comes later. -/
theorem bindings_greetings :
    Catalog.bindings greetings (Catalog.directoriesOf [["package"], ["site"]] "en") =
      [("greet", "Hello"), ("greet", "Hi")] := by
  obtain ⟨english, package, packageOwn, site, siteOwn⟩ := filesIn_greetings
  have hello : Catalog.bindingsIn greetings ["package", "needle", "en", "main.json"] =
      [("greet", "Hello")] := by
    rw [Catalog.bindingsIn,
      contentAt_of_greetingFile (by decide) (Json.isPlainText_ofList (by decide)) rfl]
  have hi : Catalog.bindingsIn greetings ["site", ".drape", "needle", "en", "own.json"] =
      [("greet", "Hi")] := by
    rw [Catalog.bindingsIn,
      contentAt_of_greetingFile (by decide) (Json.isPlainText_ofList (by decide)) rfl]
  -- The directories are read in their order, and those without files bind nothing.
  rw [english]
  simp only [Catalog.bindings, List.flatMap_cons, List.flatMap_nil, package, packageOwn, site,
    siteOwn, hello, hi, List.append_nil, List.nil_append, List.singleton_append]

/--
The greeting of a site counts from when its root was added, although its language was read before.

There are no texts in the language asked for, so the one in the default language is the answer.
-/
theorem get_uncached_behind_added_root :
    Catalog.HoldsTables greetings ∧ ∃ start,
      ofRoots greetings ["work"] [["package"]] "en" = .ok start ∧
      textAfter greetings start
        [.get none (some "de") "greet", .addRoot ["site"], .addRoot ["package"]]
        none (some "de") "greet" = .ok "Hi" := by
  -- The first call reads the default language, before the root of the site is there.
  obtain ⟨given, -, reads⟩ := get_uncached greetings holdsTables_greetings ["work"] [["package"]]
    "en" [.get none (some "de") "greet", .addRoot ["site"], .addRoot ["package"]]
  have opened := given (List.cons_ne_nil _ _)
  obtain ⟨answers, -, -⟩ := reads _ opened
  have named : Path.IsName "de" := by constructor <;> decide
  have german : Catalog.directoriesOf [["package"], ["site"]] "de" =
      [["package", "needle", "de"], ["package", ".drape", "needle", "de"],
        ["site", "needle", "de"], ["site", ".drape", "needle", "de"]] :=
    Catalog.directoriesOf_eq_placesOf _ (.inr named)
  -- Neither root has a directory of the language asked for.
  have unbound : Catalog.bindings greetings
      (Catalog.directoriesOf [["package"], ["site"]] "de") = [] := by
    apply Catalog.bindings_of_nowhere
    rw [german]
    decide
  have unrefused : ∀ place ∈ Catalog.directoriesOf [["package"], ["site"]] "de" ++
      Catalog.directoriesOf [["package"], ["site"]] "en",
      greetings.refusesBelow place = false := by
    have ordinary : ∀ place ∈ Catalog.directoriesOf [["package"], ["site"]] "de" ++
        Catalog.directoriesOf [["package"], ["site"]] "en", place.Fits ∧ Path.up ∉ place := by
      rw [german, filesIn_greetings.1]
      decide
    have each : ∀ entry ∈ greetings.entries, entry.1.Fits := by decide
    intro place inside
    exact FileTree.refusesBelow_of_fits (ordinary place inside).1 (ordinary place inside).2 each
  have target : Catalog.target "en" none (some "de") = "de" := by decide
  have roots : currentRoots [["package"]]
      [.get none (some "de") "greet", .addRoot ["site"], .addRoot ["package"]] =
        [["package"], ["site"]] := by
    decide
  obtain ⟨-, -, text⟩ := answers none (some "de") "greet"
  rw [roots, target, unbound, bindings_greetings] at text
  exact ⟨holdsTables_greetings, _, opened, text unrefused⟩

/--
Where a root has a name that is too long, a look-up fails although nothing is bound in any language.

The id is not its own text there, as it is where the root is just missing.
-/
theorem get_uncached_not_of_overlong_root :
    Catalog.HoldsTables {} ∧
    Catalog.bindings {} (Catalog.directoriesOf [[Path.nameOf 256]] "en") = [] ∧
    ∃ start, ofRoots {} ["work"] [[Path.nameOf 256]] "en" = .ok start ∧
      (start.get {} none none "greet").2.text =
        .error (.refused [Path.nameOf 256, "needle", "en"]) := by
  have holds : Catalog.HoldsTables {} := by
    apply Catalog.holdsTables_of_entries
    intro path bytes inside
    exact absurd inside List.not_mem_nil
  have directories : Catalog.directoriesOf [[Path.nameOf 256]] "en" =
      [[Path.nameOf 256, "needle", "en"], [Path.nameOf 256, ".drape", "needle", "en"]] := by
    have named : Path.IsName "en" := by constructor <;> decide
    exact Catalog.directoriesOf_eq_placesOf _ (.inr named)
  -- The name is refused in the root of the file system, for its length alone.
  have whole : Path.isBroken [Path.nameOf 256, "needle", "en"] = false :=
    Path.isBroken_of_whole (List.forall_mem_cons.mpr ⟨Path.not_mem_nameOf 256, by decide⟩)
  have refused : FileTree.refusesBelow {} [Path.nameOf 256, "needle", "en"] = true :=
    FileTree.refusesBelow_of_refuses (FileTree.refuses_of_overlong _ whole (by decide +kernel))
  -- There are no entries, so that no file is listed anywhere.
  have empty : ∀ directory, Catalog.filesIn {} directory = [] := by
    intro directory
    rw [List.eq_nil_iff_forall_not_mem]
    intro file inside
    obtain ⟨-, -, -, -, ⟨entry, listed, -⟩, -⟩ := (Catalog.mem_filesIn_iff _ _ _).mp inside
    exact absurd listed List.not_mem_nil
  refine ⟨holds, ?_, _, ofRoots_of_given _ (List.cons_ne_nil _ _) _, ?_⟩
  · rw [directories, Catalog.bindings]
    simp only [List.flatMap_cons, List.flatMap_nil, empty, List.append_nil]
  · rw [get_text (isCoherent_of_empty rfl), Catalog.lookup_languages holds, Catalog.latestText]
    have target : Catalog.target "en" none none = "en" := rfl
    rw [target, Catalog.boundIn, directories, List.find?_cons, refused]
    rfl

end Titling.Shelf
