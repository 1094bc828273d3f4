import Titling.Markup.Element
import Titling.Text.Occurrence

/-! Writing elements down with attribute names that are plain identifiers. -/

namespace Titling.Markup

/-- The attribute that an identifier stands for: two underscores are a colon, and one is a dash. -/
def attributeOfIdentifier (name : String) : String :=
  String.ofList
    (Text.replaceAll ['_'] ['-'] (Text.replaceAll ['_', '_'] [':'] name.toList))

/-- Identifiers that name the other parts of an element. -/
def reservedIdentifiers : List String :=
  ["text", "tag"]

/--
An element with an optional text and attributes named by identifiers; there is none if an identifier
is reserved.
-/
def Element.shorthand? (text : Option String) (tag : String)
    (attributes : Dictionary (Option String)) : Option Element :=
  let named := attributes.map fun pair => (attributeOfIdentifier pair.1, pair.2)
  if attributes.any fun pair => reservedIdentifiers.contains pair.1 then none
  else some (Element.ofOptional tag (Dictionary.ofEntries named) (text.map Node.text).toList)

end Titling.Markup
