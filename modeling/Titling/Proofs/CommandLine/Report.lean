import Titling.CommandLine.Run
import Titling.Proofs.Message.Plain
import Titling.Proofs.Title.Session

/-!
What a run prints: messages, each made of a packaged text, between texts of its own.

A report is what was printed before and the report of what comes next, so that what is picked from
it is picked from both.
-/

namespace Titling.Message

/-- The level and the text of a message, where it was collected. -/
def Emission.message? : Emission → Option (Level × String)
  | .collected level message => some (level, message)
  | _ => none

/-- A text that goes to the standard output. -/
def Emission.output? : Emission → Option String
  | .output text => some text
  | _ => none

/-- What is said about the deprecated token. -/
def deprecation : String :=
  "The $DECORATOR_TITLE token is deprecated and will be removed in a future version. " ++
    "Please use the $LAYOUT_TITLE token instead to future-proof your templates."

/-- Tells that a bus has the packaged texts. -/
def Bus.IsPackaged (bus : Bus) : Prop :=
  ∀ entry ∈ Catalog.titleMessages ++ Catalog.commandMessages, bus.find entry.1 = .ok entry.2

namespace Bus.IsPackaged

variable {bus : Bus}

/-- A packaged text is filled with values if it is written from parts whose fields have one. -/
theorem message_of_parts (packaged : bus.IsPackaged) {id : String} {parts : List Part}
    {texts : Dictionary String}
    (listed : (id, templateOf parts) ∈ Catalog.titleMessages ++ Catalog.commandMessages)
    (plain : ∀ part ∈ parts, part.IsPlain)
    (accepted : usesName reservedNames (textArguments texts) = false)
    (known : ∀ name, .field name ∈ parts → texts.get? name ≠ none) :
    bus.message id (textArguments texts) =
      .ok (String.join (parts.map fun part => part.text texts)) :=
  Bus.message_of_known plain accepted (packaged _ listed) known

/-- A failure is told in its own words. -/
theorem message_failure (packaged : bus.IsPackaged) (message : String) :
    bus.message Catalog.failure [("message", .text message)] = .ok message := by
  have filled := @message_of_parts bus packaged Catalog.failure [.field "message"]
    [("message", message)] (by decide +kernel) (by decide +kernel) rfl (by simp [Dictionary.get?])
  simpa [textArguments, Part.text, Dictionary.get?, String.join] using filled

/-- A variable is refused with the argument that is none. -/
theorem message_invalidVariable (packaged : bus.IsPackaged) (argument : String) :
    bus.message Catalog.invalidVariable [("value", .text argument)] =
      .ok ("Invalid --var '" ++ argument ++ "', expected NAME=VALUE.") := by
  have filled := @message_of_parts bus packaged Catalog.invalidVariable
    [.literal "Invalid --var '", .field "value", .literal "', expected NAME=VALUE."]
    [("value", argument)] (by decide +kernel) (by decide +kernel) rfl (by simp [Dictionary.get?])
  simpa [textArguments, Part.text, Dictionary.get?, String.join] using filled

/-- A recorded title is told with its key. -/
theorem message_stateLine (packaged : bus.IsPackaged) (key markup : String) :
    bus.message Catalog.stateLine [("key", .text key), ("value", .text markup)] =
      .ok (key ++ " = " ++ markup) := by
  have filled := @message_of_parts bus packaged Catalog.stateLine
    [.field "key", .literal " = ", .field "value"] [("key", key), ("value", markup)]
    (by decide +kernel) (by decide +kernel) rfl (by simp [Dictionary.get?])
  simpa [textArguments, Part.text, Dictionary.get?, String.join] using filled

/-- The deprecated token is told of in words that nothing is put into. -/
theorem message_deprecatedToken (packaged : bus.IsPackaged) :
    bus.message Catalog.deprecatedToken [] = .ok deprecation := by
  have filled := @message_of_parts bus packaged Catalog.deprecatedToken [.literal deprecation] []
    (by decide +kernel) (by decide +kernel) rfl (by simp)
  simpa [textArguments, Part.text, String.join] using filled

end Bus.IsPackaged

end Titling.Message

namespace Titling.CommandLine

open Titling.Message
open Titling.Title (Notice announce)

namespace Report

/-- The messages of a report, where they were collected. -/
def messages (report : Report) : List (Level × String) :=
  report.printed.filterMap Emission.message?

/-- The output of a report is all that goes there, in order. -/
theorem output_eq (report : Report) :
    report.output = String.join (report.printed.filterMap Emission.output?) := by
  rw [output]
  -- Output and messages are picked out of the same emissions, so the induction is on these.
  induction report.printed with
  | nil => rfl
  | cons emission rest ih =>
    cases emission <;> simp [Emission.output?, List.filterMap_cons, ih]

end Report

section Run

variable {bus : Bus} {renderer : Renderer}

/-- Where a message is made, the renderer is handed it, and the run goes on. -/
theorem sending_of_message (installed : bus.renderer = some renderer) {id message : String}
    {arguments : Arguments} (made : bus.message id arguments = .ok message) (level : Level)
    (next : Report) :
    sending bus level id arguments next = next.after (renderer.render level message) := by
  rw [sending, Bus.send_of_renderer installed, made]
  rfl

/-- Each recorded title is told of in a message of its own, with its key. -/
theorem printRecord_eq (installed : bus.renderer = some renderer) (packaged : bus.IsPackaged)
    (lines : List (String × String)) :
    printRecord bus lines =
      { printed := lines.flatMap fun line =>
          renderer.render .debug (line.1 ++ " = " ++ line.2) } := by
  -- One line sends one message, and what is sent for the rest stands behind it.
  induction lines with
  | nil => rfl
  | cons line rest ih =>
    obtain ⟨key, markup⟩ := line
    rw [printRecord, sending_of_message installed (packaged.message_stateLine key markup), ih]
    rfl

/-- The log line for a notice. -/
def logged (verbose : Bool) (notice : Notice) : List Emission :=
  if verbose then (noticeLine? notice).toList else []

/-- What a renderer does with the warning if there is notice of the token for the first time. -/
def warned (renderer : Renderer) (latch : Latch) (notices : List Notice) : List Emission :=
  if latch.isSet Catalog.deprecatedToken = false ∧ .deprecatedToken ∈ notices then
    renderer.render .warning deprecation
  else []

/-- Of notices in turn, what is warned of is what the first one warns of and then the others. -/
theorem warned_cons (renderer : Renderer) (latch : Latch) (notice : Notice) (rest : List Notice) :
    warned renderer latch (notice :: rest) =
      warned renderer latch [notice] ++
        warned renderer (announce latch bus [notice]).2 rest := by
  unfold warned
  rw [Title.isSet_announce]
  -- If the first notice is of the token, the latch is set from then on, and nothing else warns.
  by_cases token : .deprecatedToken = notice
  · cases latch.isSet Catalog.deprecatedToken <;> simp [token]
  · simp [token]

/-- A notice is logged, and warned of if it is the first one of the token. -/
theorem printNotices_cons (installed : bus.renderer = some renderer) (packaged : bus.IsPackaged)
    (verbose : Bool) (next : Report) (latch : Latch) (notice : Notice) (rest : List Notice) :
    printNotices bus verbose next latch (notice :: rest) =
      (printNotices bus verbose next (announce latch bus [notice]).2 rest).after
        (logged verbose notice ++ warned renderer latch [notice]) := by
  -- The packaged bus knows this key and takes no arguments for it, so sending it cannot fail.
  have delivers : bus.send .warning Catalog.deprecatedToken [] =
      .ok (renderer.render .warning deprecation) := by
    rw [Bus.send_of_renderer installed, packaged.message_deprecatedToken]
    rfl
  rw [printNotices]
  -- Only the first notice of the token comes upon a latch that is not set.
  cases known : latch.isSet Catalog.deprecatedToken with
  | true =>
    rw [Title.announce_of_isSet known]
    simp [warned, known, Title.silent, logged]
  | false =>
    by_cases token : .deprecatedToken ∈ [notice]
    · rw [Title.announce_of_first delivers token known]
      simp [warned, known, token, logged]
    · rw [Title.announce_of_not_mem token]
      simp [warned, known, token, Title.silent, logged]

/-- Log lines are neither messages nor output, nor is anything else that is told apart so. -/
theorem filterMap_logged {α : Type} {pick : Emission → Option α}
    (unlogged : ∀ text, pick (.diagnostics text) = none) (verbose : Bool) (notice : Notice) :
    (logged verbose notice).filterMap pick = [] := by
  cases verbose with
  | false => rfl
  | true => cases notice <;> simp [logged, noticeLine?, logLine, unlogged]

/-- Notices do not change how a run ends. -/
theorem ending_printNotices (installed : bus.renderer = some renderer)
    (packaged : bus.IsPackaged) (verbose : Bool) (next : Report) (latch : Latch)
    (notices : List Notice) :
    (printNotices bus verbose next latch notices).ending = next.ending := by
  -- The latch may have been set by the notices that went before, so it is generalised.
  induction notices generalizing latch with
  | nil => rfl
  | cons notice rest ih =>
    rw [printNotices_cons installed packaged]
    exact ih _

/-- Of what notices print nothing but one warning is picked, unless log lines are. -/
theorem filterMap_printNotices {α : Type} {pick : Emission → Option α}
    (unlogged : ∀ text, pick (.diagnostics text) = none)
    (installed : bus.renderer = some renderer) (packaged : bus.IsPackaged) (verbose : Bool)
    (next : Report) (latch : Latch) (notices : List Notice) :
    (printNotices bus verbose next latch notices).printed.filterMap pick =
      (warned renderer latch notices).filterMap pick ++ next.printed.filterMap pick := by
  induction notices generalizing latch with
  | nil => simp [printNotices, warned]
  | cons notice rest ih =>
    -- Log lines drop out, and the warnings of the first notice and of the others join up again.
    rw [printNotices_cons installed packaged, Report.after, List.filterMap_append,
      List.filterMap_append, filterMap_logged unlogged, ih,
      @warned_cons bus renderer latch notice rest, List.filterMap_append, List.nil_append,
      List.append_assoc]

end Run

end Titling.CommandLine
