import Titling.Catalog.Shelf
import Titling.Json.Writer

/-! The catalogs that come with the program. -/

namespace Titling.Catalog

/-- The id of the notice about the deprecated token. -/
def deprecatedToken : String := "title.pattern.deprecated_token"

/-- The id of a line that tells of a recorded title. -/
def stateLine : String := "cli.title.state"

/-- The id of the line that tells why there is no title. -/
def failure : String := "cli.error"

/-- The id of the line that refuses a variable. -/
def invalidVariable : String := "cli.title.invalid_var"

/-- The ids of the texts that the command line shows as help. -/
def helpTexts : List String :=
  ["cli.app.description", "cli.option.verbose.help", "cli.command.title.help"]

/-- What the library itself has to say. -/
def titleMessages : Catalog :=
  [(deprecatedToken, "The $DECORATOR_TITLE token is deprecated and will be removed in a future "
    ++ "version. Please use the $LAYOUT_TITLE token instead to future-proof your templates.")]

/-- What the command line has to say. -/
def commandMessages : Catalog :=
  [("cli.app.description", "Merge layout and content page titles."),
   ("cli.option.verbose.help", "Enable debug logging output."),
   ("cli.command.title.help",
    "Decorate a layout <title> with a content <title> and print the result."),
   (stateLine, "\x7bkey\x7d = \x7bvalue\x7d"),
   (failure, "\x7bmessage\x7d"),
   (invalidVariable, "Invalid --var '\x7bvalue\x7d', expected NAME=VALUE.")]

/-- A catalog as a file. -/
def fileOf (catalog : Catalog) : ByteArray :=
  (Json.write (.table (catalog.map fun entry => (entry.1, .text entry.2)))).toUTF8

/-- Installs the program's catalogs, which are in English. -/
def install (tree : FileTree) : FileTree :=
  let place := home ++ deliveredPlace ++ ["en"]
  (tree.write (place ++ ["cli.json"]) (some (fileOf commandMessages))).write
    (place ++ ["title.json"]) (some (fileOf titleMessages))

end Titling.Catalog
