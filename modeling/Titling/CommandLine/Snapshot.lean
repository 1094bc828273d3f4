import Titling.CommandLine.Run
import Titling.Json.Reader

/-! A site in one JSON text: its files under their paths, and the directory to run in. -/

namespace Titling.CommandLine

/-- The name of the entry that holds the files. -/
def filesEntry : String := "files"

/-- The name of the entry that holds the directory. -/
def directoryEntry : String := "directory"

/-- The bytes of a file; whatever is no text stands for a directory. -/
def contentOf : Value → Option ByteArray
  | .text text => some text.toUTF8
  | _ => none

/-- The files of a table, in which each path stands as a name. -/
def filesOf (fields : Dictionary Value) : FileTree :=
  fields.foldl (fun tree field => tree.write (Path.names field.1) (contentOf field.2)) {}

/-- The site of a table; without a directory it is at the root of the file system. -/
def siteOf (language : Option String) (fields : Dictionary Value) : Site :=
  let files := match fields.get? filesEntry with
    | some (.table entries) => filesOf entries
    | _ => {}
  let directory := match fields.get? directoryEntry with
    | some (.text path) => Path.names path
    | _ => []
  -- The directory is there even if no file lies in it.
  { files := if files.isDirectory directory then files else files.write directory none
    directory, language }

/-- Reads a site; a blank text is a site without files, and anything but a table is no site. -/
def readSite? (language : Option String) (text : String) : Option Site :=
  if (Text.trim text.toList).isEmpty then some (siteOf language [])
  else match (Json.read? text).bind Json.Document.value? with
    | some (.table fields) => some (siteOf language fields)
    | _ => none

end Titling.CommandLine
