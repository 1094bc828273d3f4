import Titling.Markup.Element

/-! Titles as pages register them: an expression still to be evaluated, or finished markup. -/

namespace Titling.Title

open Titling.Markup

/-- A registered title; the expression wins where there is a model too. -/
structure Source where
  text : Option String := none
  model : Option Node := none
  escape : Bool := true
deriving DecidableEq

end Titling.Title
