import Titling.Markup.Written

/-! Trees in which values that are no markup may stand, as callers may hand them in. -/

namespace Titling.Markup

/-- A tree like markup; `kind` names what a value that is no node is instead. -/
inductive Loose where
  | text (content : String)
  | element (tag : String) (attributes : List (String × String)) (children : List Loose)
  | fragment (children : List Loose)
  | foreign (kind : String)

/-- A value that cannot be written as markup. -/
inductive WriteError where
  | foreign (kind : String)
deriving DecidableEq, Repr

/-- What is said about a value that cannot be written. -/
def WriteError.message : WriteError → String
  | .foreign kind => "Cannot serialize " ++ kind

namespace Loose

mutual

/-- The markup of a tree, or the first value in document order that is no node. -/
def markup : Loose → Except WriteError String
  | .text content => .ok content
  | .element tag attributes children => do
    -- The children are written before the tags, so an error in them leaves no tag behind.
    let body ← markupAll children
    return startTag tag attributes ++ body ++ endTag tag
  | .fragment children => markupAll children
  | .foreign kind => .error (.foreign kind)

/-- The markup of a run of trees. -/
def markupAll : List Loose → Except WriteError String
  | [] => .ok ""
  | first :: rest => do
    let head ← markup first
    let tail ← markupAll rest
    return head ++ tail

end

mutual

/-- The node that a tree is, if everything in it is markup. -/
def node? : Loose → Option Node
  | .text content => some (.text content)
  | .element tag attributes children => (nodes? children).map (.element tag attributes ·)
  | .fragment children => (nodes? children).map .fragment
  | .foreign _ => none

/-- The nodes that a run of trees is made of, if all of it is markup. -/
def nodes? : List Loose → Option (List Node)
  | [] => some []
  | first :: rest => do
    let head ← node? first
    let tail ← nodes? rest
    return head :: tail

end

end Loose

end Titling.Markup
