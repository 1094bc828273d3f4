import Titling.Text.Occurrence

/-! Writing a text so that markup reads it back as plain text. -/

namespace Titling.Markup

/-- The reference for a character that markup reads specially, given the one for the apostrophe. -/
def escapeChar (apostrophe : String) : Char → List Char
  | '&' => "&amp;".toList
  | '<' => "&lt;".toList
  | '>' => "&gt;".toList
  | '"' => "&quot;".toList
  | '\'' => apostrophe.toList
  | char => [char]

/-- Writes the special characters of a title in the forms that page authors type. -/
def escapeTitle (text : String) : String :=
  String.ofList (text.toList.flatMap (escapeChar "&#39;"))

/-- Writes the special characters of an attribute's value. -/
def escapeAttribute (value : String) : String :=
  String.ofList (value.toList.flatMap (escapeChar "&#x27;"))

/-- The replacements that escape a title when they are made over the whole text, one by one. -/
def titleReplacements : List (String × String) :=
  -- The ampersand comes first, so that those of later references are not replaced again.
  [("&", "&amp;"), ("<", "&lt;"), (">", "&gt;"), ("\"", "&quot;"), ("'", "&#x27;"),
   ("&#x27;", "&#39;")]

/-- Makes replacements over a whole text, each on what the one before it left. -/
def replaceInTurn (replacements : List (String × String)) (text : String) : String :=
  String.ofList (replacements.foldl
    (fun chars rule => Text.replaceAll rule.1.toList rule.2.toList chars) text.toList)

end Titling.Markup
