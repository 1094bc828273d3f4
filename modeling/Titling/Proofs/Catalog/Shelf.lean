import Titling.Catalog.Shelf

/-! Shelves whose catalogs are those that would be read now, and what keeps them so. -/

namespace Titling.Shelf

/-- Tells that each catalog on a shelf is what would be read from its roots now. -/
def IsCoherent (tree : FileTree) (shelf : Shelf) : Prop :=
  ∀ language catalog, shelf.loaded.lookup language = some catalog →
    (Catalog.loadLanguage tree shelf.roots language).result = .ok catalog

/-- What stays the same on a shelf, and stays true of it, when something is looked up. -/
structure Kept (tree : FileTree) (before after : Shelf) : Prop where
  roots : after.roots = before.roots
  standard : after.standard = before.standard
  coherent : before.IsCoherent tree → after.IsCoherent tree

variable {tree : FileTree}

/-- A shelf on which nothing is yet is coherent. -/
theorem isCoherent_of_empty {shelf : Shelf} (empty : shelf.loaded = []) :
    shelf.IsCoherent tree := by
  intro language catalog known
  rw [empty] at known
  cases known

/-- A shelf to begin with has its roots and its default language, and nothing on it yet. -/
theorem ofRoots_eq_ok_iff {directory : Path} {given : List Path} {standard : String}
    {start : Shelf} :
    ofRoots tree directory given standard = .ok start ↔
      Catalog.initialRoots tree directory given = .ok start.roots ∧
        start.standard = standard ∧ start.loaded = [] := by
  obtain ⟨roots, language, loaded⟩ := start
  rw [ofRoots]
  cases Catalog.initialRoots tree directory given with
  | error error => simp [bind, Except.bind]
  | ok initial => simp [bind, Except.bind, pure, Except.pure, eq_comm]

/-- Roots that are given are those of the shelf, whatever project there is. -/
theorem ofRoots_of_given (directory : Path) {given : List Path} (some : given ≠ [])
    (standard : String) :
    ofRoots tree directory given standard = .ok { roots := given, standard } := by
  -- A list with a root in it is taken as it is, without a look at the files.
  rw [ofRoots_eq_ok_iff, Catalog.initialRoots, List.isEmpty_eq_false_iff.mpr some]
  exact ⟨rfl, rfl, rfl⟩

/-- Where no roots are given, they are those of the program and of the present project. -/
theorem ofRoots_nil (directory : Path) (standard : String) :
    ofRoots tree directory [] standard =
      (Project.findRoot tree directory).map fun project =>
        { roots := Catalog.usualRoots project, standard } := by
  rw [ofRoots, Catalog.initialRoots, List.isEmpty_nil, if_pos rfl]
  cases Project.findRoot tree directory <;> rfl

/-- A shelf to begin with has a root at least. -/
theorem roots_ne_nil_of_ofRoots {directory : Path} {given : List Path} {standard : String}
    {start : Shelf} (opened : ofRoots tree directory given standard = .ok start) :
    start.roots ≠ [] := by
  by_cases empty : given = []
  · -- The usual roots are two.
    subst empty
    rw [ofRoots_nil] at opened
    cases found : Project.findRoot tree directory with
    | error error => simp [found, Except.map] at opened
    | ok project =>
      simp only [found, Except.map, Except.ok.injEq] at opened
      rw [← opened]
      exact List.cons_ne_nil _ _
  · rw [ofRoots_of_given directory empty, Except.ok.injEq] at opened
    rwa [← opened]

/-- What is kept by one look-up and by the next is kept by both. -/
theorem Kept.trans {before between after : Shelf} (first : Kept tree before between)
    (second : Kept tree between after) : Kept tree before after where
  roots := second.roots.trans first.roots
  standard := second.standard.trans first.standard
  coherent := fun coherent => second.coherent (first.coherent coherent)

/-- A language that is on the shelf is taken from it. -/
theorem fetch_of_known {shelf : Shelf} {language : String} {catalog : Catalog}
    (known : shelf.loaded.lookup language = some catalog) :
    shelf.fetch tree language = (shelf, { result := .ok catalog }) := by
  rw [fetch, known]

/-- A language that is not on the shelf is read from the roots and put there. -/
theorem fetch_of_loaded {shelf : Shelf} {language : String} {catalog : Catalog}
    (unknown : shelf.loaded.lookup language = none)
    (loaded : (Catalog.loadLanguage tree shelf.roots language).result = .ok catalog) :
    shelf.fetch tree language =
      ({ shelf with loaded := (language, catalog) :: shelf.loaded },
        Catalog.loadLanguage tree shelf.roots language) := by
  simp only [fetch, unknown, loaded]

/-- A language that cannot be read leaves the shelf as it was. -/
theorem fetch_of_failed {shelf : Shelf} {language : String} {error : Catalog.Error}
    (unknown : shelf.loaded.lookup language = none)
    (failed : (Catalog.loadLanguage tree shelf.roots language).result = .error error) :
    shelf.fetch tree language = (shelf, Catalog.loadLanguage tree shelf.roots language) := by
  simp only [fetch, unknown, failed]

/-- Putting a language on the shelf as it is read from the roots keeps the shelf coherent. -/
theorem IsCoherent.put {shelf : Shelf} (coherent : shelf.IsCoherent tree) {language : String}
    {catalog : Catalog}
    (loaded : (Catalog.loadLanguage tree shelf.roots language).result = .ok catalog) :
    IsCoherent tree { shelf with loaded := (language, catalog) :: shelf.loaded } := by
  intro other found known
  -- The language that was put is asked for, or one that was on the shelf before.
  rw [List.lookup_cons] at known
  split at known
  · rename_i same
    rw [eq_of_beq same, loaded, Option.some.inj known]
  · exact coherent other found known

/-- Fetching a language keeps the shelf. -/
theorem fetch_kept (shelf : Shelf) (language : String) :
    Kept tree shelf (shelf.fetch tree language).1 := by
  -- On the shelf, or read in vain, or read and put there: the roots are those before in each case.
  cases known : shelf.loaded.lookup language with
  | some catalog =>
    rw [fetch_of_known known]
    exact ⟨rfl, rfl, id⟩
  | none =>
    cases loaded : (Catalog.loadLanguage tree shelf.roots language).result with
    | error error =>
      rw [fetch_of_failed known loaded]
      exact ⟨rfl, rfl, id⟩
    | ok catalog =>
      rw [fetch_of_loaded known loaded]
      exact ⟨rfl, rfl, fun coherent => coherent.put loaded⟩

/-- From a coherent shelf a language is fetched as it would be read from its roots now. -/
theorem fetch_result {shelf : Shelf} (coherent : shelf.IsCoherent tree) (language : String) :
    (shelf.fetch tree language).2.result =
      (Catalog.loadLanguage tree shelf.roots language).result := by
  -- What is on the shelf is what would be read, by coherence; all else is read now.
  cases known : shelf.loaded.lookup language with
  | some catalog => rw [fetch_of_known known, coherent language catalog known]
  | none =>
    cases loaded : (Catalog.loadLanguage tree shelf.roots language).result with
    | error error => rw [fetch_of_failed known loaded, loaded]
    | ok catalog => rw [fetch_of_loaded known loaded, loaded]

/-- A search ends at a language that cannot be read. -/
theorem search_of_failed {id : String} {shelf : Shelf} {language : String} {error : Catalog.Error}
    (failed : (shelf.fetch tree language).2.result = .error error) (rest : List String) :
    search tree id shelf (language :: rest) =
      ((shelf.fetch tree language).1,
        { text := .error error, skipped := (shelf.fetch tree language).2.skipped }) := by
  simp only [search, failed]

/-- A search ends at the first language that has a text under the id. -/
theorem search_of_found {id text : String} {shelf : Shelf} {language : String} {catalog : Catalog}
    (fetched : (shelf.fetch tree language).2.result = .ok catalog)
    (found : catalog.get? id = some text) (rest : List String) :
    search tree id shelf (language :: rest) =
      ((shelf.fetch tree language).1,
        { text := .ok text, skipped := (shelf.fetch tree language).2.skipped }) := by
  simp only [search, fetched, found]

/-- A search goes on from a language without a text under the id, on the shelf as it is then. -/
theorem search_of_missing {id : String} {shelf : Shelf} {language : String} {catalog : Catalog}
    (fetched : (shelf.fetch tree language).2.result = .ok catalog)
    (missing : catalog.get? id = none) (rest : List String) :
    (search tree id shelf (language :: rest)).1 =
        (search tree id (shelf.fetch tree language).1 rest).1 ∧
      (search tree id shelf (language :: rest)).2.text =
        (search tree id (shelf.fetch tree language).1 rest).2.text := by
  simp only [search, fetched, missing, and_self]

/-- Searching languages keeps the shelf. -/
theorem search_kept (id : String) (shelf : Shelf) (languages : List String) :
    Kept tree shelf (search tree id shelf languages).1 := by
  -- Induct over the languages: the search ends at one, or goes on from a shelf that is kept.
  induction languages generalizing shelf with
  | nil => exact ⟨rfl, rfl, fun coherent => coherent⟩
  | cons language rest ih =>
    have first : Kept tree shelf (shelf.fetch tree language).1 := fetch_kept shelf language
    cases fetched : (shelf.fetch tree language).2.result with
    | error error =>
      rw [search_of_failed fetched]
      exact first
    | ok catalog =>
      cases text : catalog.get? id with
      | some text =>
        rw [search_of_found fetched text]
        exact first
      | none =>
        rw [(search_of_missing fetched text rest).1]
        exact first.trans (ih _)

/-- A coherent shelf is searched as its languages would be read from its roots now. -/
theorem search_text (id : String) {shelf : Shelf} (coherent : shelf.IsCoherent tree)
    (languages : List String) :
    (search tree id shelf languages).2.text = Catalog.lookup tree shelf.roots id languages := by
  induction languages generalizing shelf with
  | nil => rfl
  | cons language rest ih =>
    have kept : Kept tree shelf (shelf.fetch tree language).1 := fetch_kept shelf language
    -- On both sides the language is read as from its roots, so that both go on in the same way.
    rw [Catalog.lookup, ← fetch_result coherent language]
    cases fetched : (shelf.fetch tree language).2.result with
    | error error =>
      rw [search_of_failed fetched]
      rfl
    | ok catalog =>
      simp only [bind, Except.bind]
      cases text : catalog.get? id with
      | some text =>
        rw [search_of_found fetched text]
        rfl
      | none =>
        -- The others are searched on the shelf as it is then, which has the same roots.
        rw [(search_of_missing fetched text rest).2, ih (kept.coherent coherent), kept.roots]

/-- A coherent shelf gives the text that would be read from its roots now. -/
theorem get_text {shelf : Shelf} (coherent : shelf.IsCoherent tree) (setting asked : Option String)
    (id : String) :
    (shelf.get tree setting asked id).2.text =
      Catalog.lookup tree shelf.roots id (Catalog.languages shelf.standard setting asked) :=
  search_text id coherent _

/-- Adding a root leaves a coherent shelf coherent: a new one takes off all that was read. -/
theorem IsCoherent.addRoot {shelf : Shelf} (coherent : shelf.IsCoherent tree) (root : Path) :
    (shelf.addRoot root).IsCoherent tree := by
  unfold Shelf.addRoot
  -- A root that is there changes nothing, and with a new one nothing is on the shelf any more.
  split
  · exact coherent
  · exact isCoherent_of_empty rfl

end Titling.Shelf
