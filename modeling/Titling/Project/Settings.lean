import Titling.Project.Root
import Titling.Settings
import Titling.Toml.Reader

/-! Reading a site's settings from the file that describes its project. -/

namespace Titling.Project

/-- Why settings cannot be read. -/
inductive SettingsError where
  | notText
  | notToml
  | notTable
  | overlongInteger
  | search (error : SearchError)
deriving DecidableEq, Repr

/-- The error that a fault of a document is. -/
def SettingsError.ofFault : Toml.Fault → SettingsError
  | .malformed => .notToml
  | .overlong => .overlongInteger

/-- The error that a value without a text is. -/
def SettingsError.ofTextError : Value.TextError → SettingsError
  | .overlongInteger => .overlongInteger

/-- The table under a name; none at all counts as an empty one. -/
def tableUnder (name : String) (fields : Toml.Fields) : Except SettingsError Toml.Fields :=
  match fields.get? name with
  | none => .ok []
  | some (.table inner) => .ok inner
  | some _ => .error .notTable

/-- Settings as a file has them: a prefix may be a value of any kind. -/
structure Entries where
  dialect : Value := .text ({} : Settings).dialect
  standard : Value := .text ({} : Settings).standard
  escapeTitles : Bool := ({} : Settings).escapeTitles

namespace Entries

/-- The entries in the table for them. -/
def ofFields (fields : Toml.Fields) : Entries :=
  -- An entry that is not there has its usual value, whatever the others are.
  let usual : Entries := {}
  { dialect := (fields.get? "dialect_prefix").getD usual.dialect
    standard := (fields.get? "standard_prefix").getD usual.standard
    escapeTitles := ((fields.get? "escape_titles").map Value.isTruthy).getD usual.escapeTitles }

/-- The entries in the bytes of a file. -/
def ofBytes (bytes : ByteArray) : Except SettingsError Entries :=
  match String.fromUTF8? bytes with
  | none => .error .notText
  | some text => do
    let fields ← (Toml.read text).mapError .ofFault
    let tools ← tableUnder "tool" fields
    let own ← tableUnder "drape" tools
    return ofFields own

/-- The text of a prefix, unless an integer in it is too long to be written. -/
def prefixText (value : Value) : Except SettingsError String :=
  value.display.mapError .ofTextError

/-- The settings that entries make. -/
def settings (entries : Entries) : Except SettingsError Settings := do
  -- The first prefix without a text is the error.
  let dialect ← prefixText entries.dialect
  let standard ← prefixText entries.standard
  return { dialect, standard, escapeTitles := entries.escapeTitles }

end Entries

/-- The entries that hold in a directory; without a file they are the usual ones. -/
def entriesAt (tree : FileTree) (start : Path) : Except SettingsError Entries := do
  (checkStart tree start).mapError .search
  match (settingsPath? tree start).bind tree.read? with
  | some bytes => Entries.ofBytes bytes
  | none => return {}

/-- The settings that hold in a directory. -/
def settingsAt (tree : FileTree) (start : Path) : Except SettingsError Settings := do
  (← entriesAt tree start).settings

end Titling.Project
