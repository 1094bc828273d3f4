import Titling.Dictionary
import Titling.Markup.Written

/-! What a pass records about titles for those who assemble the page after it. -/

namespace Titling.Title

open Titling.Markup

/-- Titles under their keys, in the order in which the keys were first recorded. -/
structure Record where
  values : Dictionary (Option Node) := []
deriving DecidableEq

namespace Record

/-- The key of the content page's title. -/
def contentKey : String := "contentTitle"

/-- The key of the layout page's title. -/
def layoutKey : String := "layoutTitle"

/-- The key of the title that came out. -/
def resultKey : String := "resultingTitle"

/-- Adds entries, each in the place of an earlier one under its key. -/
def update (record : Record) (entries : Dictionary (Option Node)) : Record where
  values := record.values.update entries

/-- What is recorded under a key, which may be that there is no title. -/
def get? (record : Record) (key : String) : Option (Option Node) :=
  record.values.get? key

/-- The title recorded under a key. -/
def title? (record : Record) (key : String) : Option Node :=
  (record.get? key).join

/-- Each key with the markup of its title. -/
def lines (record : Record) : List (String × String) :=
  -- A title that is missing has a line of its own, with the word for no value.
  record.values.map fun entry => (entry.1, (entry.2.map Node.markup).getD "None")

end Record

end Titling.Title
