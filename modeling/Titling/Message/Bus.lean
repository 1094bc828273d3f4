import Titling.Catalog.Packaged
import Titling.Message.Format
import Titling.Text.Terminal

/-! Sending messages: the text comes from a catalog, and a renderer decides where it goes. -/

namespace Titling.Message

/-- How much a message matters. -/
inductive Level where
  | debug
  | info
  | success
  | warning
  | error
  | other (name : String)
deriving DecidableEq, Repr

namespace Level

/-- The levels that messages are sent on, with their names. -/
def named : List (String × Level) :=
  [("debug", .debug), ("info", .info), ("success", .success), ("warning", .warning),
   ("error", .error)]

/-- The level with a name. -/
def ofName (name : String) : Level :=
  (named.lookup name).getD (.other name)

/-- The name of a level. -/
def name : Level → String
  | .debug => "debug"
  | .info => "info"
  | .success => "success"
  | .warning => "warning"
  | .error => "error"
  | .other name => name

/-- The word for a level in a log, where only four of them have one. -/
def logName : Level → String
  | .debug => "DEBUG"
  | .warning => "WARNING"
  | .error => "ERROR"
  | _ => "INFO"

/-- Tells whether messages of a level are kept apart from the program's output. -/
def isDiagnostic : Level → Bool
  | .warning | .error => true
  | _ => false

end Level

/-- Something that a renderer does with a message. -/
inductive Emission where
  | collected (level : Level) (message : String)
  | logged (level : String) (message : String)
  | output (text : String)
  | diagnostics (text : String)
deriving DecidableEq, Repr

/-- Where messages go; a console leaves out debugging messages unless it is verbose. -/
inductive Renderer where
  | collecting
  | logging
  | console (verbose : Bool)
deriving DecidableEq, Repr

/-- What a renderer does with a message. -/
def Renderer.render (renderer : Renderer) (level : Level) (message : String) : List Emission :=
  match renderer with
  | .collecting => [.collected level message]
  | .logging => [.logged level.logName message]
  | .console verbose =>
    -- The console is no terminal, so styling has no place in it.
    let line := Text.withoutStyle message ++ "\n"
    if level = .debug ∧ verbose = false then []
    else if level.isDiagnostic then [.diagnostics line]
    else [.output line]

/-- Why a message cannot be sent. -/
inductive SendError where
  | reservedName
  | catalog (error : Catalog.Error)
  | fault (fault : Fault)
deriving DecidableEq, Repr

/-- Names that no value of a message may have, because sending uses them itself. -/
def reservedNames : List String :=
  ["self", "msg_id", "level"]

/-- Tells whether a value has one of some names. -/
def usesName (names : List String) (arguments : Arguments) : Bool :=
  arguments.any fun entry => names.contains entry.1

/-- A renderer, if one is installed, and the catalogs that have the texts. -/
structure Bus where
  renderer : Option Renderer := none
  find : String → Except Catalog.Error String

/-- What is shown in the place of a message that cannot be formatted. -/
def formattingNote (id : String) : String :=
  "<formatting_error for '" ++ id ++ "'>"

/-- The message of a template, or a note if the template and the values do not fit. -/
def messageOf (id template : String) (arguments : Arguments) : Except SendError String :=
  match format template arguments with
  | .ok message => .ok message
  | .error fault => if fault.isNoted then .ok (formattingNote id) else .error (.fault fault)

/-- Sends a message; without a renderer its text is not even looked up. -/
def Bus.send (bus : Bus) (level : Level) (id : String) (arguments : Arguments) :
    Except SendError (List Emission) :=
  if usesName reservedNames arguments then .error .reservedName
  else match bus.renderer with
    -- Nobody listens, so neither catalogs nor values can be at fault.
    | none => .ok []
    | some renderer => do
      let template ← (bus.find id).mapError .catalog
      let message ← messageOf id template arguments
      return renderer.render level message

/-- A bus on the catalogs under some roots, in the languages that apply. -/
def Bus.onCatalogs (renderer : Option Renderer) (tree : FileTree) (roots : List Path)
    (setting : Option String) : Bus where
  renderer := renderer
  find id := Catalog.lookup tree roots id (Catalog.languages "en" setting none)

/-- The bus that programs get: the packaged catalogs, and a log. -/
def Bus.standard (setting : Option String := none) : Bus :=
  Bus.onCatalogs (some .logging) (Catalog.install {}) [Catalog.home] setting

end Titling.Message
