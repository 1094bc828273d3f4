/-! What a site can set about its titles. -/

namespace Titling

/-- The names that attributes begin with, and whether evaluated titles are escaped. -/
structure Settings where
  /-- What the attributes of page layouts begin with. -/
  dialect : String := "layout"
  /-- What the attributes of page texts begin with. -/
  standard : String := "th"
  escapeTitles : Bool := true
deriving DecidableEq, Repr

namespace Settings

/-- The attribute that holds a title pattern. -/
def directive (settings : Settings) : String :=
  settings.dialect ++ ":title-pattern"

/-- The attribute that holds the expression of a text. -/
def textAttribute (settings : Settings) : String :=
  settings.standard ++ ":text"

end Settings

end Titling
