import Titling.Proofs.Text.Occurrence
import Titling.Title.Combine
import Titling.Title.Expression

/-! Quoted literals as expressions: inline text is quoted so that it evaluates to itself. -/

namespace Titling.Title

open Titling.Text

/-- A text that begins and ends with characters that are not blank has nothing to trim. -/
theorem trim_of_ends {first last : Char} (middle : List Char) (begins : isBlank first = false)
    (ends : isBlank last = false) :
    trim (first :: (middle ++ [last])) = first :: (middle ++ [last]) := by
  -- Neither end is white space, so neither side has anything to drop.
  have front : (first :: (middle ++ [last])).dropWhile isBlank = first :: (middle ++ [last]) :=
    List.dropWhile_cons_of_neg (by simp [begins])
  have back : (first :: (middle ++ [last])).reverse = last :: (middle.reverse ++ [first]) := by
    simp
  rw [trim, front, back, List.dropWhile_cons_of_neg (by simp [ends])]
  simp

namespace Expression

/-- What stands between two marks is found again. -/
theorem between?_marked (mark : Char) (body : List Char) :
    between? mark (mark :: (body ++ [mark])) = some body := by
  simp [between?]

/-- Whatever stands between two quotes is the body of a literal. -/
theorem ofExpression_quoted (body : List Char) :
    Form.ofExpression (String.ofList ('\'' :: (body ++ ['\'']))) = .literal body := by
  rw [Form.ofExpression, String.toList_ofList, trim_of_ends body (by decide) (by decide)]
  simp only [between?_marked]

/-- A quoted text without quotes of its own evaluates to the text in every context. -/
theorem evaluate_quoted {body : List Char} (plain : '\'' ∉ body) (context : Context) :
    evaluate (String.ofList ('\'' :: (body ++ ['\'']))) context = .ok (String.ofList body) := by
  -- Only a quote can be the end of an escape, so none of the backslashes is read.
  have kept : replaceAll ['\\', '\''] ['\''] body = body :=
    replaceAll_of_not_mem ['\''] (by simp) plain
  simp only [evaluate, evaluateWith, ofExpression_quoted, Form.value, kept]

/-- Inline text evaluates to its own characters, with references for its quotes. -/
theorem evaluate_inlineLiteral (content : String) (context : Context) :
    evaluate (inlineLiteral content) context =
      .ok (String.ofList (replaceAll ['\''] "&#39;".toList content.toList)) :=
  evaluate_quoted (not_mem_replaceAll_single content.toList (by decide)) context

end Expression

end Titling.Title
