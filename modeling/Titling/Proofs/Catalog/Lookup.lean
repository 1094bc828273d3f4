import Titling.Catalog.Shelf
import Titling.Proofs.Catalog.Directory

/-! Looking a text up without any shelf: it is the one that is bound to its id last. -/

namespace Titling.Catalog

/-- The names from the place of catalogs to those of a language; an empty language adds none. -/
def within (language : String) : Path :=
  if language = "" then [] else [language]

/-- The directories of a language in each root, named by the language itself. -/
def placesOf (roots : List Path) (language : String) : List Path :=
  roots.flatMap fun root =>
    [root ++ deliveredPlace ++ within language, root ++ projectPlace ++ within language]

/-- A language that is empty or one name leads to no directory but its own. -/
theorem directoriesOf_eq_placesOf (roots : List Path) {language : String}
    (named : language = "" ∨ Path.IsName language) :
    directoriesOf roots language = placesOf roots language := by
  -- The text of the language is read as a path, and that has no more than this one name.
  have joined : ∀ place, Path.join place language = place ++ within language := by
    intro place
    rcases named with rfl | named
    · rw [Path.join_empty, within, if_pos rfl, List.append_nil]
    · rw [Path.join_of_isName named, within, if_neg named.nonempty]
  simp only [directoriesOf, placesOf, joined]

/-- The language to look in first: the one asked for, if not empty, or that set, or the default. -/
def target (standard : String) (setting asked : Option String) : String :=
  ((asked.filter fun language => !language.isEmpty).or setting).getD standard

/-- What the catalogs of a language bind, in the order of reading, unless a directory is refused. -/
def boundIn (tree : FileTree) (roots : List Path) (language : String) :
    Except Error (List (String × String)) :=
  match (directoriesOf roots language).find? tree.refusesBelow with
  | some directory => .error (.refused directory)
  | none => .ok (bindings tree (directoriesOf roots language))

/-- The text bound to an id last in the target language, or in the default one, or else the id. -/
def latestText (tree : FileTree) (roots : List Path) (standard : String)
    (setting asked : Option String) (id : String) : Except Error String := do
  match lastBound? id (← boundIn tree roots (target standard setting asked)) with
  | some text => return text
  | none => return (lastBound? id (← boundIn tree roots standard)).getD id

/-- If no directory is refused, an id has its latest text in the target language or the default. -/
theorem latestText_of_unrefused {tree : FileTree} {roots : List Path} {standard : String}
    {setting asked : Option String}
    (unrefused : ∀ directory ∈ directoriesOf roots (target standard setting asked) ++
      directoriesOf roots standard, tree.refusesBelow directory = false) (id : String) :
    latestText tree roots standard setting asked id =
      .ok (((lastBound? id (bindings tree (directoriesOf roots (target standard setting asked)))).or
        (lastBound? id (bindings tree (directoriesOf roots standard)))).getD id) := by
  -- Each of the two languages is read to the end, and they are looked in one after the other.
  have bound : ∀ language,
      (∀ directory ∈ directoriesOf roots language, tree.refusesBelow directory = false) →
      boundIn tree roots language = .ok (bindings tree (directoriesOf roots language)) := by
    intro language unrefused
    rw [boundIn, find?_refusesBelow_of_unrefused unrefused]
  have first := bound (target standard setting asked) fun directory inside =>
    unrefused directory (List.mem_append_left _ inside)
  have second := bound standard fun directory inside =>
    unrefused directory (List.mem_append_right _ inside)
  rw [latestText, first, second]
  simp only [bind, Except.bind]
  cases lastBound? id (bindings tree (directoriesOf roots (target standard setting asked))) <;> rfl

/-- The languages to look in are the target and the default one behind it, each once. -/
theorem languages_eq (standard : String) (setting asked : Option String) :
    languages standard setting asked =
      if target standard setting asked = standard then [target standard setting asked]
      else [target standard setting asked, standard] := by
  unfold languages target
  -- Only what is asked for and says something comes before the setting.
  cases asked.filter fun language => !language.isEmpty <;> rfl

/-- What the catalogs of a language bind, in the order of reading, unless something ends it. -/
def readIn (tree : FileTree) (roots : List Path) (language : String) :
    Except Error (List (String × String)) :=
  match obstacle? tree (directoriesOf roots language) with
  | some error => .error error
  | none => .ok (bindings tree (directoriesOf roots language))

/-- A language is read to the end if nothing ends it before, and then it has what is bound in it. -/
theorem readIn_eq_ok_iff {tree : FileTree} {roots : List Path} {language : String}
    {bound : List (String × String)} :
    readIn tree roots language = .ok bound ↔
      obstacle? tree (directoriesOf roots language) = none ∧
        bindings tree (directoriesOf roots language) = bound := by
  -- Something ends it, or nothing does; the answer is what the first case or the second says.
  rw [readIn]
  cases obstacle? tree (directoriesOf roots language) <;> simp

/-- A language cannot be read if something ends reading its directories. -/
theorem readIn_eq_error_iff {tree : FileTree} {roots : List Path} {language : String}
    {error : Error} :
    readIn tree roots language = .error error ↔
      obstacle? tree (directoriesOf roots language) = some error := by
  rw [readIn]
  cases obstacle? tree (directoriesOf roots language) <;> simp

/-- The text bound to an id last in one language, or in a second one, or else the id itself. -/
def textFrom (read : String → Except Error (List (String × String))) (first second id : String) :
    Except Error String := do
  match lastBound? id (← read first) with
  | some text => return text
  | none => return (lastBound? id (← read second)).getD id

/-- Where each catalog file holds a table, only a refused directory ends reading a language. -/
theorem HoldsTables.readIn_eq {tree : FileTree} (holds : HoldsTables tree) (roots : List Path) :
    readIn tree roots = boundIn tree roots := by
  funext language
  -- Of the two things that may end reading only the refusal is left.
  rw [readIn, boundIn, obstacle?_of_tables (holds.obstacle?_ne _)]
  cases (directoriesOf roots language).find? tree.refusesBelow <;> rfl

/-- A language without any directory is read to the end, and it binds nothing. -/
theorem readIn_of_nowhere {tree : FileTree} {roots : List Path} {language : String}
    (fits : ∀ directory ∈ directoriesOf roots language, directory.Fits)
    (nowhere : ∀ directory ∈ directoriesOf roots language, tree.directoryAt? directory = none) :
    readIn tree roots language = .ok [] := by
  refine readIn_eq_ok_iff.mpr ⟨?_, bindings_of_nowhere nowhere⟩
  rw [obstacle?, List.findSome?_eq_none_iff]
  intro directory inside
  -- Nothing is below a directory that is not there, so that only it could be refused itself.
  have unrefused : tree.refusesBelow directory = false := by
    rw [FileTree.refusesBelow, FileTree.refuses_of_fits tree (fits directory inside),
      nowhere directory inside]
    rfl
  rw [obstacleIn?, unrefused, filesIn_of_nowhere (nowhere directory inside)]
  rfl

/-- The catalog of a language has what is read of it. -/
theorem loadLanguage_result (tree : FileTree) (roots : List Path) (language : String) :
    (loadLanguage tree roots language).result =
      (readIn tree roots language).map Dictionary.ofEntries := by
  rw [loadLanguage, loadDirectories_result, readIn]
  cases obstacle? tree (directoriesOf roots language) <;> rfl

/-- Looking an id up takes the text bound to it last in the first language, or else goes on. -/
theorem lookup_cons (tree : FileTree) (roots : List Path) (id : String) (language : String)
    (rest : List String) :
    lookup tree roots id (language :: rest) =
      match readIn tree roots language with
      | .error error => .error error
      | .ok bound =>
        match lastBound? id bound with
        | some text => .ok text
        | none => lookup tree roots id rest := by
  rw [lookup, loadLanguage_result]
  -- What is bound last is what the catalog that is made of the bindings has.
  cases readIn tree roots language with
  | error error => rfl
  | ok bound =>
    simp only [Except.map, bind, Except.bind, get?_ofEntries]
    cases lastBound? id bound <;> rfl

/-- Looking an id up in the languages there are to look in gives the text read from them. -/
theorem lookup_eq_textFrom (tree : FileTree) (roots : List Path) (standard : String)
    (setting asked : Option String) (id : String) :
    lookup tree roots id (languages standard setting asked) =
      textFrom (readIn tree roots) (target standard setting asked) standard id := by
  rw [languages_eq, textFrom]
  by_cases same : target standard setting asked = standard
  · -- Where the target is the default language there is nothing to look for a second time.
    rw [if_pos same, lookup_cons, same]
    cases readIn tree roots standard with
    | error error => rfl
    | ok bound =>
      simp only [bind, Except.bind]
      cases lastBound? id bound <;> rfl
  · rw [if_neg same, lookup_cons, lookup_cons]
    -- Otherwise the default language comes second, and the id itself where that has no text either.
    cases readIn tree roots (target standard setting asked) with
    | error error => rfl
    | ok bound =>
      simp only [bind, Except.bind]
      cases lastBound? id bound with
      | some text => rfl
      | none =>
        cases readIn tree roots standard with
        | error error => rfl
        | ok bound =>
          simp only
          cases lastBound? id bound <;> rfl

/-- Where each catalog file holds a table, an id has its latest text. -/
theorem lookup_languages {tree : FileTree} (holds : HoldsTables tree) (roots : List Path)
    (standard : String) (setting asked : Option String) (id : String) :
    lookup tree roots id (languages standard setting asked) =
      latestText tree roots standard setting asked id := by
  rw [lookup_eq_textFrom, holds.readIn_eq]
  rfl

section TextFrom

variable {read : String → Except Error (List (String × String))} {first second id : String}
  {bound : List (String × String)}

/-- Where the first language cannot be read there is no text. -/
theorem textFrom_of_failed {error : Error} (failed : read first = .error error) :
    textFrom read first second id = .error error := by
  rw [textFrom, failed]
  rfl

/-- What the first language binds is the text, whatever the second one does. -/
theorem textFrom_of_bound {text : String} (target : read first = .ok bound)
    (last : lastBound? id bound = some text) : textFrom read first second id = .ok text := by
  rw [textFrom, target]
  simp only [bind, Except.bind, last]
  rfl

/-- Where the first language binds nothing the second one is read. -/
theorem textFrom_of_unbound (target : read first = .ok bound)
    (last : lastBound? id bound = none) :
    textFrom read first second id =
      (read second).map fun others => (lastBound? id others).getD id := by
  rw [textFrom, target]
  simp only [bind, Except.bind, last]
  cases read second <;> rfl

/-- A text is read unless the first language cannot be read, or the second where it is needed. -/
theorem exists_textFrom_iff :
    (∃ text, textFrom read first second id = .ok text) ↔
      ∃ bound, read first = .ok bound ∧
        ((lastBound? id bound).isSome = true ∨ ∃ others, read second = .ok others) := by
  -- The cases are those of the reading: the first language fails, has a text, or has none.
  cases target : read first with
  | error error => simp [textFrom_of_failed target]
  | ok bound =>
    cases last : lastBound? id bound with
    | some text => simp [textFrom_of_bound target last, last]
    | none =>
      rw [textFrom_of_unbound target last]
      cases read second <;> simp [Except.map, last]

/-- What keeps a text from being read keeps one of the languages from being read. -/
theorem error_of_textFrom {error : Error}
    (failed : textFrom read first second id = .error error) :
    ∃ language ∈ [first, second], read language = .error error := by
  cases target : read first with
  -- What the first language fails with is the answer.
  | error reason =>
    rw [textFrom_of_failed target] at failed
    cases failed
    exact ⟨first, by simp, target⟩
  | ok bound =>
    cases last : lastBound? id bound with
    | some text => simp [textFrom_of_bound target last] at failed
    | none =>
      rw [textFrom_of_unbound target last] at failed
      -- The first language has no text, so that the answer is what comes of the second one.
      cases standard : read second with
      | error reason =>
        rw [standard] at failed
        cases failed
        exact ⟨second, by simp, standard⟩
      | ok others => simp [standard, Except.map] at failed

/-- A text that is read is bound to its id in one of the languages, or it is the id. -/
theorem bound_of_textFrom {text : String}
    (found : textFrom read first second id = .ok text) :
    text = id ∨ ∃ language ∈ [first, second], ∃ bound, read language = .ok bound ∧
      lastBound? id bound = some text := by
  cases target : read first with
  | error error => simp [textFrom_of_failed target] at found
  | ok bound =>
    cases last : lastBound? id bound with
    | some latest =>
      rw [textFrom_of_bound target last] at found
      cases found
      exact .inr ⟨first, by simp, bound, target, last⟩
    -- Without a text in the first language it is that of the second one, or the id.
    | none =>
      rw [textFrom_of_unbound target last] at found
      cases standard : read second with
      | error error => simp [standard, Except.map] at found
      | ok others =>
        rw [standard] at found
        cases latest : lastBound? id others with
        | none => exact .inl (by simpa [Except.map, latest] using found.symm)
        | some other =>
          have same : other = text := by simpa [Except.map, latest] using found
          exact .inr ⟨second, by simp, others, standard, same ▸ latest⟩

end TextFrom

end Titling.Catalog
