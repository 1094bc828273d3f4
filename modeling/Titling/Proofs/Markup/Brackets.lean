import Titling.Markup.Written
import Titling.Proofs.Markup.Escape

/-! The angle brackets of written markup, which are all that a reader takes for tags. -/

namespace Titling.Markup

/-- The angle brackets of a text, in order. -/
def brackets (text : String) : List Char :=
  text.toList.filter fun char => char = '<' ∨ char = '>'

/-- The brackets of joined texts are those of each in turn. -/
theorem brackets_append (front back : String) :
    brackets (front ++ back) = brackets front ++ brackets back := by
  rw [brackets, String.toList_append, List.filter_append]
  rfl

/-- An inert text has no brackets. -/
theorem brackets_of_inert {text : String} (inert : Inert text.toList) : brackets text = [] := by
  rw [brackets, List.filter_eq_nil_iff]
  intro char inside
  -- No character of an inert text is a bracket.
  have mark := inert.noMarks char inside
  simp only [List.mem_cons, List.not_mem_nil, or_false, not_or] at mark
  simp [mark.1, mark.2.1]

/-- A run of nodes is written node by node. -/
theorem Node.markupAll_append (front back : List Node) :
    Node.markupAll (front ++ back) = Node.markupAll front ++ Node.markupAll back := by
  induction front with
  | nil => simp [Node.markupAll]
  | cons node rest ih =>
    rw [List.cons_append, Node.markupAll, ih, Node.markupAll, String.append_assoc]

end Titling.Markup
