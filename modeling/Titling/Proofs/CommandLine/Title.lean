import Titling.Proofs.Catalog.Lookup
import Titling.Proofs.Catalog.Packaged
import Titling.Proofs.CommandLine.Report
import Titling.Proofs.CommandLine.Variables
import Titling.Proofs.Project.Walks
import Titling.Proofs.Title.Accepted
import Titling.Proofs.Title.Failed
import Titling.Proofs.Title.InlineText
import Titling.Proofs.Title.Visible

/-!
The `title` command: it prints the whole title, or nothing at all and one message that says why.

What is sent does not depend on the console, so the messages are those of a run that collects them.
-/

namespace Titling.CommandLine

open Titling.Markup
open Titling.Message
open Titling.Project (Entries SettingsError)

/-- The bus of a site, with any renderer. -/
def busTo (renderer : Renderer) (site : Site) : Bus :=
  Bus.onCatalogs (some renderer) (Catalog.install site.files) (catalogRoots site) site.language

/-- What a call in a site prints where messages go to a renderer. -/
def reportTo (renderer : Renderer) (site : Site) (invocation : Invocation) : Report :=
  match Project.entriesAt site.files site.directory with
  | .error error => { ending := .escape (.settings error) }
  | .ok entries => runTitle (busTo renderer site) entries invocation

/-- The messages that a call sends. -/
def messagesOf (site : Site) (invocation : Invocation) : List (Level × String) :=
  (reportTo .collecting site invocation).messages

/-- The title that a call asks for on the layout page. -/
def layoutTitleOf (settings : Settings) (options : Options) : Option Element :=
  titleElement? settings options.layoutTitle options.layoutExpression options.layoutPattern

/-- The title that a call asks for on the content page. -/
def contentTitleOf (settings : Settings) (options : Options) : Option Element :=
  titleElement? settings options.contentTitle options.contentExpression options.contentPattern

/-- The pass that a call asks for. -/
def passOf (settings : Settings) (options : Options) : Title.Outcome :=
  Title.run settings Title.Expression.evaluate Element.merge (layoutTitleOf settings options)
    (contentTitleOf settings options) (contextFor options.assignments)

/-- The line of a verbose call for a recorded title. -/
def recordLine (line : String × String) : String :=
  line.1 ++ " = " ++ line.2

/--
A title element has a pattern and an expression as attributes and a text as its child, each where it
is given; without any of the three there is no element.
-/
theorem titleElement?_eq (settings : Settings) (text expression pattern : Option String) :
    titleElement? settings text expression pattern =
      if text = none ∧ expression = none ∧ pattern = none then none
      else some {
        tag := "title"
        attributes := (pattern.map (settings.directive, ·)).toList ++
          (expression.map (settings.textAttribute, ·)).toList
        children := (text.map Node.text).toList } := by
  -- The two attributes differ in their last letters, so neither takes the place of the other.
  have apart : settings.directive ≠ settings.textAttribute := by
    refine Title.directive_ne ?_
    have last : ":text".toList.getLast? = some 't' := by decide
    rw [Settings.textAttribute, String.toList_append, List.getLast?_append, last, Option.some_or]
    decide
  -- Under two distinct names all that is given is kept, in this order.
  rw [titleElement?, Element.ofOptional, Dictionary.ofEntries_of_nodup]
  · cases text <;> cases expression <;> cases pattern <;> simp [Element.present]
  · simp [Dictionary.names, apart]

/-- The texts of messages are the packaged ones whatever the renderer is. -/
theorem isPackaged_busTo {site : Site} {verbose : Bool}
    (packaged : (consoleBus site verbose).IsPackaged) (renderer : Renderer) :
    (busTo renderer site).IsPackaged :=
  packaged

/-- The program prints what is reported to its console. -/
theorem runCall_eq_reportTo (site : Site) (invocation : Invocation) :
    runCall site invocation = reportTo (.console invocation.verbose) site invocation :=
  rfl

section Report

variable {site : Site} {entries : Entries} {invocation : Invocation} {renderer : Renderer}

/-- An argument that is no variable ends a call with a message about it. -/
theorem reportTo_of_refused (loads : Project.entriesAt site.files site.directory = .ok entries)
    (packaged : (busTo renderer site).IsPackaged) {argument : String}
    (refused : IsFirstRefused invocation.options.assignments argument) :
    reportTo renderer site invocation = {
      printed := renderer.render .error
        ("Invalid --var '" ++ argument ++ "', expected NAME=VALUE.")
      ending := .exit 1 } := by
  rw [reportTo, loads]
  -- The first argument that is no variable ends the run before any title is made.
  simp only [runTitle, parseVariables_of_refused refused]
  rw [sending_of_message rfl (packaged.message_invalidVariable argument)]
  simp only [Report.after, List.append_nil]

/-- Where all arguments are variables, a call is a pass under the settings. -/
theorem reportTo_of_accepted (loads : Project.entriesAt site.files site.directory = .ok entries)
    (accepted : ∀ argument ∈ invocation.options.assignments, ¬ IsRefused argument) :
    reportTo renderer site invocation =
      match settingsFor invocation.options entries with
      | .error error => { ending := .escape (.settings error) }
      | .ok settings =>
        printNotices (busTo renderer site) invocation.verbose
          (printAnswer (busTo renderer site) (passOf settings invocation.options).answer) {}
          (passOf settings invocation.options).notices := by
  rw [reportTo, loads]
  -- All arguments are variables, which are the context of the pass.
  simp only [runTitle, parseVariables_of_accepted accepted]
  rfl

/-- A pass that fails on an expression is answered by a message. -/
theorem printAnswer_evaluation {bus : Bus} (installed : bus.renderer = some renderer)
    (packaged : bus.IsPackaged) (cause : Title.EvaluationError) :
    printAnswer bus (.error (.evaluation cause)) =
      { printed := renderer.render .error cause.message, ending := .exit 1 } := by
  -- The message is the failure in its own words, and the call is over with it.
  rw [printAnswer, sending_of_message installed (packaged.message_failure _)]
  · simp only [Report.after, List.append_nil]
    rfl
  all_goals simp

/-- A pass that succeeds is answered by the markup, and a message for each recorded title. -/
theorem printAnswer_ok {bus : Bus} (installed : bus.renderer = some renderer)
    (packaged : bus.IsPackaged) (result : Option Element) (record : Title.Record) :
    printAnswer bus (.ok (result, record)) = {
      printed := .output (Text.withoutStyle ((result.map Element.markup).getD "") ++ "\n") ::
        record.lines.flatMap fun line => renderer.render .debug (recordLine line) } := by
  -- The markup comes first, and each recorded title has a line behind it.
  rw [printAnswer, printRecord_eq installed packaged]
  rfl

end Report

/-- Tells that a call fails: it prints nothing, and the only message is an error. -/
structure Fails (site : Site) (invocation : Invocation) (message : String) : Prop where
  ending : (runCall site invocation).ending = .exit 1
  output : (runCall site invocation).output = ""
  messages : messagesOf site invocation = [(.error, message)]

/-- Tells that a call ends in an error that is not handled: nothing is printed or sent. -/
structure Escapes (site : Site) (invocation : Invocation) (escape : Escape) : Prop where
  ending : (runCall site invocation).ending = .escape escape
  output : (runCall site invocation).output = ""
  messages : messagesOf site invocation = []

/--
Tells that a call succeeds: it prints the markup of the result on a line, or an empty line if there
is none, and one line for each recorded title behind it if it is verbose. Beside the messages of
these lines there is at most a warning.
-/
structure Succeeds (site : Site) (invocation : Invocation) (result : Option Element)
    (record : Title.Record) : Prop where
  ending : (runCall site invocation).ending = .exit 0
  output : (runCall site invocation).output =
    String.join ((((result.map Element.markup).getD "") ::
      if invocation.verbose then record.lines.map recordLine else []).map fun line =>
        Text.withoutStyle line ++ "\n")
  messages : messagesOf site invocation = record.lines.map (fun line => (.debug, recordLine line)) ∨
    messagesOf site invocation =
      (.warning, deprecation) :: record.lines.map fun line => (.debug, recordLine line)

section Console

/-- A console shows errors apart from the output. -/
theorem output?_error (verbose : Bool) (message : String) :
    ((Renderer.console verbose).render .error message).filterMap Emission.output? = [] := by
  simp [Renderer.render, Level.isDiagnostic, Emission.output?]

/-- A console shows warnings apart from the output. -/
theorem output?_warned (verbose : Bool) (latch : Latch) (notices : List Title.Notice) :
    (warned (.console verbose) latch notices).filterMap Emission.output? = [] := by
  -- On a console a warning is a line apart from the output, if there is one.
  unfold warned
  split <;> simp [Renderer.render, Level.isDiagnostic, Emission.output?]

/-- A console shows debugging messages only if it is verbose, and then as output. -/
theorem output?_debug (verbose : Bool) (lines : List (String × String)) :
    (lines.flatMap fun line => (Renderer.console verbose).render .debug (recordLine line)).filterMap
        Emission.output? =
      if verbose then lines.map fun line => Text.withoutStyle (recordLine line) ++ "\n"
      else [] := by
  -- Quiet consoles leave all lines out, and a verbose one shows each of them in turn.
  cases verbose with
  | false => simp [Renderer.render]
  | true =>
    induction lines with
    | nil => rfl
    | cons line rest ih => simp_all [Renderer.render, Level.isDiagnostic, Emission.output?]

/-- Debugging messages are collected as they are. -/
theorem message?_debug (lines : List (String × String)) :
    (lines.flatMap fun line => Renderer.collecting.render .debug (recordLine line)).filterMap
        Emission.message? = lines.map fun line => (.debug, recordLine line) := by
  induction lines with
  | nil => rfl
  | cons line rest ih => simpa [Renderer.render, Emission.message?] using ih

end Console

/-- A pass that fails is not warned of. -/
theorem warned_of_failed {settings : Settings} {options : Options} {error : Title.Error}
    (failed : (passOf settings options).answer = .error error) (renderer : Renderer) :
    warned renderer {} (passOf settings options).notices = [] := by
  -- There is no notice of the deprecated token, as no title was composed.
  have silent := Title.deprecatedToken_not_mem_of_run failed
  exact if_neg fun told => silent told.2

section Outcome

variable {site : Site} {entries : Entries} {invocation : Invocation}

/-- A call with an argument that is no variable fails. -/
theorem fails_of_refused (loads : Project.entriesAt site.files site.directory = .ok entries)
    (packaged : (consoleBus site false).IsPackaged) {argument : String}
    (refused : IsFirstRefused invocation.options.assignments argument) :
    Fails site invocation ("Invalid --var '" ++ argument ++ "', expected NAME=VALUE.") := by
  have report : ∀ renderer, reportTo renderer site invocation = {
      printed := renderer.render .error
        ("Invalid --var '" ++ argument ++ "', expected NAME=VALUE.")
      ending := .exit 1 } :=
    -- The report is the same for the console and for what collects the messages.
    fun renderer => reportTo_of_refused loads (isPackaged_busTo packaged renderer) refused
  refine ⟨?_, ?_, ?_⟩
  · rw [runCall_eq_reportTo, report]
  · rw [runCall_eq_reportTo, report, Report.output_eq, output?_error]
    rfl
  · rw [messagesOf, report]
    rfl

/-- A call whose settings cannot be made escapes. -/
theorem escapes_of_settings (loads : Project.entriesAt site.files site.directory = .ok entries)
    (accepted : ∀ argument ∈ invocation.options.assignments, ¬ IsRefused argument)
    {error : SettingsError} (unset : settingsFor invocation.options entries = .error error) :
    Escapes site invocation (.settings error) := by
  have report : ∀ renderer, reportTo renderer site invocation =
      { ending := .escape (.settings error) } := by
    -- No renderer has anything to do with settings.
    intro renderer
    rw [reportTo_of_accepted loads accepted, unset]
  refine ⟨?_, ?_, ?_⟩
  · rw [runCall_eq_reportTo, report]
  · rw [runCall_eq_reportTo, report]
    rfl
  · rw [messagesOf, report]
    rfl

section Pass

variable (loads : Project.entriesAt site.files site.directory = .ok entries)
  (packaged : (consoleBus site false).IsPackaged)
  (accepted : ∀ argument ∈ invocation.options.assignments, ¬ IsRefused argument)
  {settings : Settings} (set : settingsFor invocation.options entries = .ok settings)

include loads packaged accepted set

/-- A call ends and prints as its answer does; at most a warning is sent before that. -/
theorem runCall_of_settings :
    let outcome := passOf settings invocation.options
    let shown := printAnswer (busTo (.console invocation.verbose) site) outcome.answer
    (runCall site invocation).ending = shown.ending ∧
    (runCall site invocation).output = String.join (shown.printed.filterMap Emission.output?) ∧
    messagesOf site invocation =
      (warned .collecting {} outcome.notices).filterMap Emission.message? ++
        (printAnswer (busTo .collecting site) outcome.answer).messages := by
  have texts := isPackaged_busTo packaged
  refine ⟨?_, ?_, ?_⟩
  · -- What is printed before the answer ends nothing.
    rw [runCall_eq_reportTo, reportTo_of_accepted loads accepted, set]
    exact ending_printNotices rfl (texts _) _ _ _ _
  · rw [runCall_eq_reportTo, reportTo_of_accepted loads accepted, set, Report.output_eq]
    -- Neither log lines nor a warning are shown as output.
    rw [@filterMap_printNotices _ _ _ Emission.output? (fun _ => rfl) rfl (texts _),
      output?_warned, List.nil_append]
  · rw [messagesOf, reportTo_of_accepted loads accepted, set]
    exact filterMap_printNotices (fun _ => rfl) rfl (texts _) _ _ _ _

/-- A call whose pass has an expression without a value fails. -/
theorem fails_of_evaluation {cause : Title.EvaluationError}
    (failed : (passOf settings invocation.options).answer = .error (.evaluation cause)) :
    Fails site invocation cause.message := by
  -- There is one message in the answer, and none in front of it.
  obtain ⟨ending, output, messages⟩ := runCall_of_settings loads packaged accepted set
  have texts := isPackaged_busTo packaged
  rw [failed, printAnswer_evaluation rfl (texts _)] at ending output
  rw [failed, printAnswer_evaluation rfl (texts _), warned_of_failed failed] at messages
  rw [output?_error] at output
  exact ⟨ending, output, messages⟩

/-- A call whose pass cannot read a value escapes. -/
theorem escapes_of_overlong
    (failed : (passOf settings invocation.options).answer = .error .overlongReference) :
    Escapes site invocation .overlongReference := by
  obtain ⟨ending, output, messages⟩ := runCall_of_settings loads packaged accepted set
  -- The answer has no message at all, and there is none in front of it either.
  rw [failed] at ending output
  rw [failed, warned_of_failed failed] at messages
  exact ⟨ending, output, messages⟩

/-- A call whose pass has an answer succeeds. -/
theorem succeeds_of_pass {result : Option Element} {record : Title.Record}
    (answered : (passOf settings invocation.options).answer = .ok (result, record)) :
    Succeeds site invocation result record := by
  -- The answer is printed to the end, with at most the warning in front of it.
  obtain ⟨ending, output, messages⟩ := runCall_of_settings loads packaged accepted set
  have texts := isPackaged_busTo packaged
  rw [answered, printAnswer_ok rfl (texts _)] at ending output messages
  refine ⟨ending, ?_, ?_⟩
  · rw [output]
    simp only [List.filterMap_cons, Emission.output?, output?_debug]
    cases invocation.verbose <;> simp [Function.comp_def]
  · rw [messages, Report.messages, List.filterMap_cons_none rfl, message?_debug]
    unfold warned
    split
    · exact .inr rfl
    · exact .inl rfl

end Pass

/-- Entries make no settings only where a prefix has an integer that is too long to be written. -/
theorem overlongInteger_of_settings {entries : Entries} {error : SettingsError}
    (unset : entries.settings = .error error) : error = .overlongInteger := by
  -- A prefix has no text exactly where it has such an integer in it.
  have overlong : ∀ value reason, Entries.prefixText value = .error reason →
      reason = .overlongInteger := by
    intro value reason failed
    rw [Entries.prefixText] at failed
    cases shown : value.display with
    | ok text => simp [shown, Except.mapError] at failed
    | error cause =>
      -- There is one reason only why a value has no text.
      cases cause
      rw [shown] at failed
      exact (Except.error.inj failed).symm
  -- The prefixes are asked in this order, and the first one without a text is the reason.
  cases dialect : Entries.prefixText entries.dialect with
  | error reason =>
    simp only [Entries.settings, dialect, Bind.bind, Except.bind, Except.error.injEq] at unset
    exact unset ▸ overlong _ _ dialect
  | ok text =>
    cases standard : Entries.prefixText entries.standard with
    | error reason =>
      simp only [Entries.settings, dialect, standard, Bind.bind, Except.bind,
        Except.error.injEq] at unset
      exact unset ▸ overlong _ _ standard
    | ok text =>
      simp [Entries.settings, dialect, standard, Bind.bind, Except.bind, Pure.pure,
        Except.pure] at unset

/-- A pass of a call fails by the expression of a side. -/
theorem failsBy_of_passOf {settings : Settings} {options : Options} {error : Title.Error}
    (failed : (passOf settings options).answer = .error error) :
    Title.FailsBy settings Title.Expression.evaluate (layoutTitleOf settings options)
      (contentTitleOf settings options) (contextFor options.assignments) error :=
  Title.failsBy_of_run (source?_contextFor options.assignments) failed

/-- A pass of a call fails for want of a value, or because a value cannot be read. -/
theorem error_of_passOf {settings : Settings} {options : Options} {error : Title.Error}
    (failed : (passOf settings options).answer = .error error) :
    (∃ cause, error = .evaluation cause) ∨ error = .overlongReference := by
  -- Of the two reasons of a side the evaluator's own may be of two kinds.
  cases failsBy_of_passOf failed with
  | overlong _ _ _ => exact .inr rfl
  | @evaluator side expression cause _ unevaluated =>
    cases cause with
    | evaluation cause => exact .inl ⟨cause, rfl⟩
    | overlongInteger =>
      -- The variables of a call are texts, so that none of them is too long an integer.
      rw [Title.evaluate_passContext] at unevaluated
      obtain ⟨name, found⟩ := Title.Expression.exists_overlong_of_evaluate unevaluated
      exact absurd found (string?_contextFor_ne _ name _)

/-- A call exits with one exactly if an argument is no variable, or an expression has no value. -/
theorem exit_one_iff (loads : Project.entriesAt site.files site.directory = .ok entries)
    (packaged : (consoleBus site false).IsPackaged) (invocation : Invocation) :
    (runCall site invocation).ending = .exit 1 ↔
      (∃ argument ∈ invocation.options.assignments, IsRefused argument) ∨
        ∃ settings cause, settingsFor invocation.options entries = .ok settings ∧
          (passOf settings invocation.options).answer = .error (.evaluation cause) := by
  by_cases refused : ∃ argument ∈ invocation.options.assignments, IsRefused argument
  · -- The first such argument makes the call fail.
    obtain ⟨argument, first⟩ := exists_isFirstRefused refused
    simp only [(fails_of_refused loads packaged first).ending, refused, true_or]
  · have accepted : ∀ argument ∈ invocation.options.assignments, ¬ IsRefused argument :=
      fun argument inside none => refused ⟨argument, inside, none⟩
    simp only [refused, false_or]
    -- Otherwise the settings and the answer of the pass say which of the endings it is.
    cases set : settingsFor invocation.options entries with
    | error error => simp [(escapes_of_settings loads accepted set).ending]
    | ok settings =>
      cases answer : (passOf settings invocation.options).answer with
      | ok answered =>
        simp [(succeeds_of_pass loads packaged accepted set answer).ending, answer]
      | error error =>
        rcases error_of_passOf answer with ⟨cause, rfl⟩ | rfl
        · simp [(fails_of_evaluation loads packaged accepted set answer).ending, answer]
        · simp [(escapes_of_overlong loads packaged accepted set answer).ending, answer]

end Outcome

/-- A site without any file. -/
def emptySite : Site where
  files := {}
  directory := ["site"]

/-- In a site without any file the settings are the usual ones. -/
theorem entriesAt_emptySite :
    Project.entriesAt emptySite.files emptySite.directory = .ok {} := by
  have passed : Project.checkStart emptySite.files emptySite.directory = .ok () :=
    Project.checkStart_of_fits (Path.isBroken_of_whole (by decide))
      ⟨by decide, by decide⟩
  rcases Project.entriesAt_cases passed with ⟨place, -, nearest, -⟩ | ⟨-, usual⟩
  · cases nearest.has
  · exact usual

/-- The directory with the packaged catalogs. -/
def packagedPlace : Path := ["usr", "share", "titling", "needle", "en"]

/-- The files of the packaged catalogs, whatever is in them. -/
def packagedFiles (commands titles : ByteArray) : FileTree where
  entries := [(packagedPlace ++ ["cli.json"], some commands),
    (packagedPlace ++ ["title.json"], some titles)]

/-- Without any other file the packaged catalogs are all that is read. -/
theorem readIn_packagedFiles {commands titles : ByteArray} {first second : Catalog}
    (ofCommands : Catalog.Content.ofBytes commands = .entries first)
    (ofTitles : Catalog.Content.ofBytes titles = .entries second) :
    Catalog.readIn (packagedFiles commands titles) (catalogRoots emptySite) "en" =
      .ok (first ++ second) := by
  have directories : Catalog.directoriesOf (catalogRoots emptySite) "en" =
      [packagedPlace, ["usr", "share", "titling", ".drape", "needle", "en"],
        ["site", "needle", "en"], ["site", ".drape", "needle", "en"]] :=
    Catalog.directoriesOf_eq_placesOf _ (.inr (by constructor <;> decide))
  -- Which files are read does not depend on what is in them.
  have here : Catalog.filesIn (packagedFiles commands titles) packagedPlace =
      [packagedPlace ++ ["cli.json"], packagedPlace ++ ["title.json"]] := by
    have below : (packagedFiles commands titles).below packagedPlace =
        [["cli.json"], ["title.json"]] := rfl
    have named : ((packagedFiles commands titles).below packagedPlace).filter
        Catalog.isCatalogName = [["cli.json"], ["title.json"]] := by
      rw [below]
      decide +kernel
    exact Catalog.filesIn_of_ordered (by decide) rfl named (by decide)
  have elsewhere : Catalog.filesIn (packagedFiles commands titles)
        ["usr", "share", "titling", ".drape", "needle", "en"] = [] ∧
      Catalog.filesIn (packagedFiles commands titles) ["site", "needle", "en"] = [] ∧
      Catalog.filesIn (packagedFiles commands titles) ["site", ".drape", "needle", "en"] = [] :=
    ⟨Catalog.filesIn_of_nowhere rfl, Catalog.filesIn_of_nowhere rfl,
      Catalog.filesIn_of_nowhere rfl⟩
  have each : ∀ entry ∈ (packagedFiles commands titles).entries, entry.1.Fits := by
    have places : ∀ name ∈ ["cli.json", "title.json"], Path.Fits (packagedPlace ++ [name]) := by
      decide
    intro entry inside
    simp only [packagedFiles, List.mem_cons, List.not_mem_nil, or_false] at inside
    rcases inside with rfl | rfl
    · exact places _ (by simp)
    · exact places _ (by simp)
  have ordinary : ∀ place ∈ Catalog.directoriesOf (catalogRoots emptySite) "en",
      place.Fits ∧ Path.up ∉ place := by
    rw [directories]
    decide
  have unrefused : ∀ place ∈ Catalog.directoriesOf (catalogRoots emptySite) "en",
      (packagedFiles commands titles).refusesBelow place = false := by
    intro place inside
    exact FileTree.refusesBelow_of_fits (ordinary place inside).1 (ordinary place inside).2 each
  rw [directories] at unrefused
  have commandsRead : Catalog.contentAt (packagedFiles commands titles)
      (packagedPlace ++ ["cli.json"]) = .entries first := by
    rw [Catalog.contentAt_of_fits _ (each _ List.mem_cons_self), Catalog.Content.ofPath]
    exact ofCommands
  have titlesRead : Catalog.contentAt (packagedFiles commands titles)
      (packagedPlace ++ ["title.json"]) = .entries second := by
    rw [Catalog.contentAt_of_fits _ (each _ (List.mem_cons_of_mem _ List.mem_cons_self)),
      Catalog.Content.ofPath]
    exact ofTitles
  rw [Catalog.readIn_eq_ok_iff, directories]
  constructor
  · simp [Catalog.obstacle?, Catalog.obstacleIn?, unrefused, here, elsewhere, Catalog.holdsOther,
      commandsRead, titlesRead]
  · simp [Catalog.bindings, here, elsewhere, Catalog.bindingsIn, commandsRead, titlesRead]

/-- In a site without any file messages have the packaged texts. -/
theorem isPackaged_emptySite : (consoleBus emptySite false).IsPackaged := by
  have read : Catalog.readIn (Catalog.install emptySite.files) (catalogRoots emptySite) "en" =
      .ok (Catalog.commandMessages ++ Catalog.titleMessages) :=
    readIn_packagedFiles Catalog.ofBytes_commandMessages Catalog.ofBytes_titleMessages
  -- The two files share no id, so the order in which they are read does not matter.
  have bound : ∀ entry ∈ Catalog.titleMessages ++ Catalog.commandMessages,
      Catalog.lastBound? entry.1 (Catalog.commandMessages ++ Catalog.titleMessages) =
        some entry.2 := by
    decide +kernel
  intro entry inside
  exact (Catalog.lookup_eq_textFrom _ _ _ _ _ _).trans
    (Catalog.textFrom_of_bound read (bound entry inside))

/--
A call of the `title` command is all or nothing, under any settings that can be read.

If an argument is no variable, the first such one is refused. Otherwise, and if the settings can be
made, the pass is made over the elements of the options, in the context of the variables: each name
has the value of the last argument for it. If the pass has an answer, it is printed; if an
expression has no value, that is the one message that is sent, and nothing is printed. Only in these
two ways does the command exit with one. Nothing is printed or sent either where a prefix or a
reference has too many digits.
-/
theorem all_or_nothing {site : Site} {entries : Entries}
    (loads : Project.entriesAt site.files site.directory = .ok entries)
    (packaged : (consoleBus site false).IsPackaged) (invocation : Invocation) :
    (∀ argument, IsFirstRefused invocation.options.assignments argument →
      Fails site invocation ("Invalid --var '" ++ argument ++ "', expected NAME=VALUE.")) ∧
    ((∀ argument ∈ invocation.options.assignments, ¬ IsRefused argument) →
      (∀ error, settingsFor invocation.options entries = .error error →
        error = .overlongInteger ∧ Escapes site invocation (.settings error)) ∧
      ∀ settings, settingsFor invocation.options entries = .ok settings →
        (∀ result record, (passOf settings invocation.options).answer = .ok (result, record) →
          Succeeds site invocation result record) ∧
        ∀ error, (passOf settings invocation.options).answer = .error error →
          Title.FailsBy settings Title.Expression.evaluate
            (layoutTitleOf settings invocation.options)
            (contentTitleOf settings invocation.options)
            (contextFor invocation.options.assignments) error ∧
          ((∃ cause, error = .evaluation cause ∧ Fails site invocation cause.message) ∨
            (error = .overlongReference ∧ Escapes site invocation .overlongReference))) ∧
    ((runCall site invocation).ending = .exit 1 ↔
      (∃ argument ∈ invocation.options.assignments, IsRefused argument) ∨
        ∃ settings cause, settingsFor invocation.options entries = .ok settings ∧
          (passOf settings invocation.options).answer = .error (.evaluation cause)) ∧
    (∀ settings text expression pattern, titleElement? settings text expression pattern =
      if text = none ∧ expression = none ∧ pattern = none then none
      else some {
        tag := "title"
        attributes := (pattern.map (settings.directive, ·)).toList ++
          (expression.map (settings.textAttribute, ·)).toList
        children := (text.map Node.text).toList }) ∧
    (∀ name binding, (contextFor invocation.options.assignments).binding? name = some binding ↔
      ∃ value, binding = .value (.text value) ∧
        GivesLast invocation.options.assignments name value) := by
  -- Each way in which the command ends has a lemma of its own.
  refine ⟨fun argument first => fails_of_refused loads packaged first, fun accepted =>
    ⟨fun error unset => ?_, fun settings set => ⟨fun result record answered => ?_,
      fun error failed => ⟨failsBy_of_passOf failed, ?_⟩⟩⟩,
    exit_one_iff loads packaged invocation, titleElement?_eq, binding?_contextFor_iff _⟩
  · exact ⟨overlongInteger_of_settings unset, escapes_of_settings loads accepted unset⟩
  · exact succeeds_of_pass loads packaged accepted set answered
  · rcases error_of_passOf failed with ⟨cause, rfl⟩ | rfl
    · exact .inl ⟨cause, rfl, fails_of_evaluation loads packaged accepted set failed⟩
    · exact .inr ⟨rfl, escapes_of_overlong loads packaged accepted set failed⟩

/-- A verbose call that gives a variable twice, the second time with another equals sign. -/
def repeatingCall : Invocation where
  verbose := true
  options := {
    layoutTitle := some "Site"
    contentExpression := some "$\x7bpage\x7d"
    contentPattern := some "$CONTENT_TITLE - $LAYOUT_TITLE"
    assignments := ["page=Old", " page =A=B"] }

/-- A call in which the second argument has a blank name, and the third one no equals sign. -/
def refusedCall : Invocation where
  options := { assignments := ["page=Old", " =A", "page"] }

/-- The last value of a variable is in the title, and the first argument that is none is refused. -/
theorem all_or_nothing_repeated :
    Project.entriesAt emptySite.files emptySite.directory = .ok {} ∧
    (consoleBus emptySite false).IsPackaged ∧
    (runCall emptySite repeatingCall).ending = .exit 0 ∧
    (runCall emptySite repeatingCall).output =
      "<title>A=B - Site</title>\ncontentTitle = A=B\nlayoutTitle = Site\n" ++
        "resultingTitle = A=B - Site\n" ∧
    Fails emptySite refusedCall "Invalid --var ' =A', expected NAME=VALUE." := by
  refine ⟨entriesAt_emptySite, isPackaged_emptySite, ?_⟩
  obtain ⟨-, accepted, -⟩ :=
    all_or_nothing entriesAt_emptySite isPackaged_emptySite repeatingCall
  obtain ⟨refused, -⟩ := all_or_nothing entriesAt_emptySite isPackaged_emptySite refusedCall
  -- The later argument for the page wins, and is split at the first equals sign only.
  have answer : (passOf {} repeatingCall.options).answer =
      .ok (some (Title.inlineTitle ["A=B", " - ", "Site"]),
        Title.passRecord (some (.text "A=B")) (some (.text "Site"))
          (.fragment [.text "A=B", .text " - ", .text "Site"])) := by
    decide +kernel
  have succeeds := ((accepted (by decide)).2 {} rfl).1 _ _ answer
  refine ⟨succeeds.ending, ?_, refused " =A" ?_⟩
  · rw [succeeds.output]
    decide
  · exact ⟨["page=Old"], ["page"], rfl, by decide, by decide⟩

/-- A call for a title with a reference that has one digit too many. -/
def overlongCall : Invocation where
  options := {
    contentTitle := some CharacterReference.overlongText
    contentPattern := some "$CONTENT_TITLE" }

/--
A title that cannot be read is neither printed nor complained about, though no argument is refused
and no expression is without a value.
-/
theorem nothing_of_overlong :
    Project.entriesAt emptySite.files emptySite.directory = .ok {} ∧
    (consoleBus emptySite false).IsPackaged ∧
    (∀ argument ∈ overlongCall.options.assignments, ¬ IsRefused argument) ∧
    (passOf {} overlongCall.options).answer = .error .overlongReference ∧
    (runCall emptySite overlongCall).exitCode = 1 ∧
    Escapes emptySite overlongCall .overlongReference := by
  have accepted : ∀ argument ∈ overlongCall.options.assignments, ¬ IsRefused argument := by
    simp [overlongCall]
  have title : Title.Side.content.of none (contentTitleOf {} overlongCall.options) =
      some (Title.markedTitle "$CONTENT_TITLE" [CharacterReference.overlongText]) :=
    rfl
  -- The content title is text between two tags, and it fails when it is decoded.
  have failed : (passOf {} overlongCall.options).answer = .error .overlongReference := by
    have contributes : Title.contribution {} Title.Expression.evaluate none
        (contentTitleOf {} overlongCall.options) (contextFor overlongCall.options.assignments)
        .content = .error .overlongReference := by
      have silent : Title.Silent {}
          (Title.markedTitle "$CONTENT_TITLE" [CharacterReference.overlongText]) := rfl
      rw [Title.contribution_of_inlineText _ title silent rfl, Title.titleOfValue,
        CharacterReference.decode?_overlongText]
    have asked : Title.pattern? {} none (contentTitleOf {} overlongCall.options) =
        some "$CONTENT_TITLE" :=
      rfl
    exact (Title.run_of_pattern _ _ _ asked).trans (by rw [contributes]; rfl)
  have escapes := escapes_of_overlong entriesAt_emptySite isPackaged_emptySite accepted rfl failed
  refine ⟨entriesAt_emptySite, isPackaged_emptySite, accepted, failed, ?_, escapes⟩
  rw [Report.exitCode, escapes.ending]

end Titling.CommandLine
