/-! Markup as a tree: texts, elements with attributes, and runs of nodes without a tag. -/

namespace Titling.Markup

/-- A piece of markup; a text is held in the form in which markup writes it. -/
inductive Node where
  | text (content : String)
  | element (tag : String) (attributes : List (String × String)) (children : List Node)
  | fragment (children : List Node)
deriving Inhabited

mutual

/-- Two nodes are compared by what they are made of. -/
def Node.decEq : (first second : Node) → Decidable (first = second)
  | .text a, .text b => decidable_of_iff (a = b) (by simp)
  | .element t as cs, .element t' as' cs' =>
    have := Node.decEqAll cs cs'
    decidable_of_iff (t = t' ∧ as = as' ∧ cs = cs') (by simp)
  | .fragment cs, .fragment cs' =>
    have := Node.decEqAll cs cs'
    decidable_of_iff (cs = cs') (by simp)
  | .text _, .element .. => .isFalse (by simp)
  | .text _, .fragment _ => .isFalse (by simp)
  | .element .., .text _ => .isFalse (by simp)
  | .element .., .fragment _ => .isFalse (by simp)
  | .fragment _, .text _ => .isFalse (by simp)
  | .fragment _, .element .. => .isFalse (by simp)

/-- Two runs of nodes are compared node by node. -/
def Node.decEqAll : (first second : List Node) → Decidable (first = second)
  | [], [] => .isTrue rfl
  | a :: as, b :: bs =>
    have := Node.decEq a b
    have := Node.decEqAll as bs
    decidable_of_iff (a = b ∧ as = bs) (by simp)
  | [], _ :: _ => .isFalse (by simp)
  | _ :: _, [] => .isFalse (by simp)

end

instance : DecidableEq Node := Node.decEq

namespace Node

mutual

/-- The text of a node without the tags around it. -/
def plainText : Node → String
  | .text content => content
  | .element _ _ children => plainTextAll children
  | .fragment children => plainTextAll children

/-- The texts of a run of nodes, joined. -/
def plainTextAll : List Node → String
  | [] => ""
  | node :: rest => plainText node ++ plainTextAll rest

end

/-- What a node contributes to a run of siblings: a fragment its children, any other node itself. -/
def spread : Node → List Node
  | .fragment children => children
  | node => [node]

end Node

end Titling.Markup
