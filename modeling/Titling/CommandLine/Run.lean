import Titling.CommandLine.Arguments
import Titling.Project.Settings
import Titling.Text.Blank
import Titling.Title.Announce

/-! One run of the program: from the arguments and the files of a site to what is printed. -/

namespace Titling.CommandLine

open Titling.Markup
open Titling.Message
open Titling.Project (Entries SettingsError)
open Titling.Title (Notice)

/-- Where the program runs: files, the present directory, and the language that is set. -/
structure Site where
  files : FileTree
  directory : Path
  language : Option String := none

/-- An error that the program does not handle. -/
inductive Escape where
  | settings (error : SettingsError)
  | message (error : SendError)
  | overlongReference
  | overlongInteger
deriving DecidableEq, Repr

/-- How a run ends. -/
inductive Ending where
  | exit (code : Nat)
  | escape (error : Escape)
deriving DecidableEq, Repr

/-- What a run prints, in order, and how it ends. -/
structure Report where
  printed : List Emission := []
  ending : Ending := .exit 0
deriving DecidableEq, Repr

namespace Report

/-- All that goes to the standard output. -/
def output (report : Report) : String :=
  String.join (report.printed.map fun
    | .output text => text
    | _ => "")

/-- All that goes to the standard error output. -/
def diagnostics (report : Report) : String :=
  String.join (report.printed.map fun
    | .diagnostics text => text
    | _ => "")

/-- The exit code; an error that is not handled counts as a failure. -/
def exitCode (report : Report) : Nat :=
  match report.ending with
  | .exit code => code
  | .escape _ => 1

/-- Puts what was printed before in front. -/
def after (printed : List Emission) (report : Report) : Report :=
  { report with printed := printed ++ report.printed }

end Report

/-- The catalogs' roots: the usual ones for the project that the site belongs to. -/
def catalogRoots (site : Site) : List Path :=
  Catalog.usualRoots (Project.rootOf site.files site.directory)

/-- The bus that prints on a console. -/
def consoleBus (site : Site) (verbose : Bool) : Bus :=
  Bus.onCatalogs (some (.console verbose)) (Catalog.install site.files) (catalogRoots site)
    site.language

/-- A line of the debugging log. -/
def logLine (logger message : String) : Emission :=
  .diagnostics ("DEBUG:" ++ logger ++ ":" ++ message ++ "\n")

/-- The line of the debugging log for a notice, if there is one. -/
def noticeLine? : Notice → Option Emission
  | .mergedStructurally => some (logLine "drape.app.services.title_decorator"
      "No title pattern found, merging titles structurally")
  | .deferred pattern => some (logLine "drape.app.services.title_decorator"
      ("Deferring title merge to pattern " ++ Text.quoted pattern))
  | .resolving => some (logLine "drape.app.core" "Resolving deferred title pattern")
  | .deprecatedToken => none
  | .produced pattern result =>
    let shown := (pattern.map Text.quoted).getD "None"
    some (logLine "drape.app.processors.title_pattern"
      ("Title pattern " ++ shown ++ " produced " ++ result.description))

/-- Prints log lines for the notices of a pass if asked to, and the warning, before what is next. -/
def printNotices (bus : Bus) (verbose : Bool) (next : Report) : Latch → List Notice → Report
  | _, [] => next
  | latch, notice :: rest =>
    let line := if verbose then (noticeLine? notice).toList else []
    match Title.announce latch bus [notice] with
    | (.ok (_, warning), latch) =>
      (printNotices bus verbose next latch rest).after (line ++ warning)
    | (.error error, _) => { printed := line, ending := .escape (.message error) }

/-- A variable's name and value, split at the first equals sign; the name is not blank. -/
def parseVariable? (argument : String) : Option (String × String) :=
  let chars := argument.toList
  -- The first equals sign ends the name, so a value may hold further ones.
  let name := chars.takeWhile (· ≠ '=')
  match chars.drop name.length, Text.trim name with
  | _ :: value, first :: rest => some (String.ofList (first :: rest), String.ofList value)
  | _, _ => none

/-- The variables of a call, or the first argument that is none. -/
def parseVariables : List String → Except String (List (String × String))
  | [] => .ok []
  | argument :: rest =>
    match parseVariable? argument with
    | some parsed => do
      let others ← parseVariables rest
      return parsed :: others
    | none => .error argument

/-- The context that a call's variables make. -/
def contextOf (assignments : List (String × String)) : Context :=
  Context.ofLayer (Dictionary.ofEntries
    (assignments.map fun entry => (entry.1, .value (.text entry.2))))

/-- The title element that a page's options make. -/
def titleElement? (settings : Settings) (text expression pattern : Option String) :
    Option Element :=
  -- Without any option there is no element, which is not the same as an empty one.
  if text.isNone && expression.isNone && pattern.isNone then none
  else some (Element.ofOptional "title"
    (Dictionary.ofEntries [(settings.directive, pattern), (settings.textAttribute, expression)])
    (text.map Node.text).toList)

/-- Sends a message, and goes on if that works. -/
def sending (bus : Bus) (level : Level) (id : String) (arguments : Arguments) (next : Report) :
    Report :=
  match bus.send level id arguments with
  | .ok printed => next.after printed
  | .error error => { ending := .escape (.message error) }

/-- Prints a line for each recorded title. -/
def printRecord (bus : Bus) : List (String × String) → Report
  | [] => {}
  | (key, markup) :: rest =>
    -- The message is made up even where the console leaves it out.
    sending bus .debug Catalog.stateLine [("key", .text key), ("value", .text markup)]
      (printRecord bus rest)

/-- Prints the result of a pass, or why there is none. -/
def printAnswer (bus : Bus) :
    Except Title.Error (Option Element × Title.Record) → Report
  -- Only what is wrong with a page is a matter of the messages.
  | .error .overlongReference => { ending := .escape .overlongReference }
  | .error .overlongInteger => { ending := .escape .overlongInteger }
  | .error error =>
    sending bus .error Catalog.failure [("message", .text error.message)]
      { ending := .exit 1 }
  | .ok (result, record) =>
    -- The recorded titles are told of behind the result.
    let markup := (result.map Element.markup).getD ""
    (printRecord bus record.lines).after [.output (Text.withoutStyle markup ++ "\n")]

/-- The settings of a call; one without titles does not look at the prefix of their texts. -/
def settingsFor (options : Options) (entries : Entries) : Except SettingsError Settings :=
  let usual : Entries := {}
  let needed := if options.hasTitle then entries else { entries with standard := usual.standard }
  let escapeTitles := options.escape.getD entries.escapeTitles
  { needed with escapeTitles }.settings

/-- Makes the titles of a call into one. -/
def runTitles (bus : Bus) (settings : Settings) (invocation : Invocation) (context : Context) :
    Report :=
  let options := invocation.options
  let layout := titleElement? settings options.layoutTitle options.layoutExpression
    options.layoutPattern
  let content := titleElement? settings options.contentTitle options.contentExpression
    options.contentPattern
  let outcome := Title.run settings Title.Expression.evaluate Element.merge layout content context
  printNotices bus invocation.verbose (printAnswer bus outcome.answer) {} outcome.notices

/-- Carries out the `title` command under the entries that hold in the site. -/
def runTitle (bus : Bus) (entries : Entries) (invocation : Invocation) : Report :=
  match parseVariables invocation.options.assignments with
  | .error argument =>
    sending bus .error Catalog.invalidVariable [("value", .text argument)]
      { ending := .exit 1 }
  | .ok assignments =>
    -- Every variable is well formed before any title is looked at.
    match settingsFor invocation.options entries with
    | .error error => { ending := .escape (.settings error) }
    | .ok settings => runTitles bus settings invocation (contextOf assignments)

/-- Carries out a call in a site. -/
def runCall (site : Site) (invocation : Invocation) : Report :=
  -- The settings are read before any message, so an error in them escapes.
  match Project.entriesAt site.files site.directory with
  | .error error => { ending := .escape (.settings error) }
  | .ok entries => runTitle (consoleBus site invocation.verbose) entries invocation

/-- Looks up the texts of the help, which are wanted before any argument is read. -/
def helpError? (site : Site) : Option SendError :=
  Catalog.helpTexts.findSome? fun id =>
    match (consoleBus site false).find id with
    | .ok _ => none
    | .error error => some (.catalog error)

/-- What becomes of a run: a report, or nothing but an error in the use of the program. -/
inductive Answer where
  | report (report : Report)
  | help
  | usageError

/-- Runs the program. -/
def run (site : Site) (arguments : List String) : Answer :=
  -- The help is made up when the program starts, so its texts have to be there in any case.
  match helpError? site with
  | some error => .report { ending := .escape (.message error) }
  | none =>
    match parse false arguments with
    | .call invocation => .report (runCall site invocation)
    | .help => .help
    | .usageError => .usageError

end Titling.CommandLine
