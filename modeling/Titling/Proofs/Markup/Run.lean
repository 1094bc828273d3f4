import Titling.Markup.Written

/-! Readings of markup that take a fragment for its children, one after another. -/

namespace Titling.Markup.Node

variable {α : Type}

/-- Tells that a reading takes a fragment for its children, one after another. -/
def IsRunwise (read : Node → List α) : Prop :=
  ∀ children, read (.fragment children) = children.flatMap read

/-- What a node contributes to a run of siblings reads as the node does. -/
theorem IsRunwise.flatMap_spread {read : Node → List α} (runwise : IsRunwise read) (node : Node) :
    node.spread.flatMap read = read node := by
  -- Only a fragment is spread, and a reading that goes runwise does not tell it from its children.
  cases node with
  | text content => simp [spread]
  | element tag attributes children => simp [spread]
  | fragment children => exact (runwise children).symm

/-- The markup of a run is that of its nodes in turn. -/
theorem toList_markupAll (nodes : List Node) :
    (markupAll nodes).toList = nodes.flatMap fun node => node.markup.toList := by
  induction nodes with
  | nil => rfl
  | cons node rest ih => rw [markupAll, String.toList_append, ih, List.flatMap_cons]

/-- The text of a run is that of its nodes in turn. -/
theorem toList_plainTextAll (nodes : List Node) :
    (plainTextAll nodes).toList = nodes.flatMap fun node => node.plainText.toList := by
  induction nodes with
  | nil => rfl
  | cons node rest ih => rw [plainTextAll, String.toList_append, ih, List.flatMap_cons]

/-- Markup is written for the children of a fragment in turn. -/
theorem isRunwise_markup : IsRunwise fun node => node.markup.toList := by
  intro children
  simp only [markup, toList_markupAll]

/-- The text of a fragment is that of its children in turn. -/
theorem isRunwise_plainText : IsRunwise fun node => node.plainText.toList := by
  intro children
  simp only [plainText, toList_plainTextAll]

/-- A node contributes its own markup to a run of siblings. -/
theorem markupAll_spread (node : Node) : markupAll node.spread = node.markup := by
  rw [← String.toList_inj, toList_markupAll]
  exact isRunwise_markup.flatMap_spread node

/-- A node contributes its own text to a run of siblings. -/
theorem plainTextAll_spread (node : Node) : plainTextAll node.spread = node.plainText := by
  rw [← String.toList_inj, toList_plainTextAll]
  exact isRunwise_plainText.flatMap_spread node

mutual

/-- The texts and elements that a node is made of, in order, without the fragments around them. -/
def unwrapped : Node → List Node
  | .text content => [.text content]
  -- What is inside an element stays there as it is.
  | .element tag attributes children => [.element tag attributes children]
  | .fragment children => unwrappedAll children

/-- The texts and elements that a run of nodes is made of, in order. -/
def unwrappedAll : List Node → List Node
  | [] => []
  | node :: rest => unwrapped node ++ unwrappedAll rest

end

/-- A run is made of what its nodes are made of, in turn. -/
theorem unwrappedAll_eq_flatMap (nodes : List Node) :
    unwrappedAll nodes = nodes.flatMap unwrapped := by
  induction nodes with
  | nil => rfl
  | cons node rest ih => rw [unwrappedAll, ih, List.flatMap_cons]

/-- A fragment is made of what its children are made of, in turn. -/
theorem isRunwise_unwrapped : IsRunwise unwrapped := by
  intro children
  rw [unwrapped, unwrappedAll_eq_flatMap]

end Titling.Markup.Node
