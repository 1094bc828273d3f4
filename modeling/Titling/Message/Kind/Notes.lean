import Titling.Message.Kind
import Titling.Message.Kind.Notes.Bases
import Titling.Message.Kind.Notes.Collections
import Titling.Message.Kind.Notes.Numbers
import Titling.Message.Kind.Notes.Operators
import Titling.Message.Kind.Notes.Texts

/-! The note on each member of each kind. -/

namespace Titling.Message.Kind

/-- The notes on members that mean something of their own for a kind. -/
def ownNotes : Kind → List (String × Note)
  | .object => objectNotes
  | .type => typeNotes
  | .integer => integerNotes
  | .float => floatNotes
  | .text => textNotes
  | .list => listNotes
  | .table => tableNotes
  | .row => rowNotes
  | .view => viewNotes
  | .alias => aliasNotes
  | _ => []

/-- The note on a member that a kind itself has; there may be nothing in it. -/
def noteOn (kind : Kind) (trait : Trait) (name : String) : Note :=
  let notes := match trait with
    | .operator | .maker => operatorNotes
    | _ => kind.ownNotes
  (notes.lookup name).getD {}

end Titling.Message.Kind
