import Titling.Markup.Element
import Titling.Markup.Escape
import Titling.Text.Quoted

/-! The written form of markup, and of a node in a log line. -/

namespace Titling.Markup

/-- An attribute behind a space, with its value escaped between double quotes. -/
def attributeText (pair : String × String) : String :=
  " " ++ pair.1 ++ "=\"" ++ escapeAttribute pair.2 ++ "\""

/-- A start tag with its attributes in order. -/
def startTag (tag : String) (attributes : List (String × String)) : String :=
  "<" ++ tag ++ String.join (attributes.map attributeText) ++ ">"

/-- An end tag. -/
def endTag (tag : String) : String :=
  "</" ++ tag ++ ">"

namespace Node

mutual

/-- The markup of a node; a text is in markup form already, and a fragment has no tag. -/
def markup : Node → String
  -- What a text holds was escaped when it was made, so it is not escaped again.
  | .text content => content
  | .element tag attributes children =>
    startTag tag attributes ++ markupAll children ++ endTag tag
  | .fragment children => markupAll children

/-- The markup of a run of nodes. -/
def markupAll : List Node → String
  | [] => ""
  | node :: rest => markup node ++ markupAll rest

end

/-- Items between parentheses; a single one keeps a comma behind it. -/
def tupleText : List String → String
  | [] => "()"
  | [item] => "(" ++ item ++ ",)"
  | items => "(" ++ ", ".intercalate items ++ ")"

mutual

/-- A node spelled out with all its parts. -/
def description : Node → String
  | .text content => "Text(content=" ++ Text.quoted content ++ ")"
  | .element tag attributes children =>
    let pairs := attributes.map fun pair =>
      tupleText [Text.quoted pair.1, Text.quoted pair.2]
    "Element(tag=" ++ Text.quoted tag ++ ", attributes=" ++ tupleText pairs
      ++ ", children=" ++ tupleText (descriptions children) ++ ")"
  | .fragment children => "Fragment(children=" ++ tupleText (descriptions children) ++ ")"

/-- The nodes of a run spelled out one by one. -/
def descriptions : List Node → List String
  | [] => []
  | node :: rest => description node :: descriptions rest

end

end Node

/-- The markup of an element. -/
def Element.markup (element : Element) : String :=
  element.node.markup

end Titling.Markup
