import Titling.Proofs.Title.Form

/-! Literals: every text can be written as one, with a backslash in front of each quote. -/

namespace Titling.Title.Expression

open Titling.Text

/-- A text with a backslash put in front of each quote in it; other characters stay as they are. -/
def escapedQuotes (text : List Char) : List Char :=
  replaceAll ['\''] ['\\', '\''] text

/-- The literal that a text is written as. -/
def literalOf (text : String) : String :=
  "'" ++ String.ofList (escapedQuotes text.toList) ++ "'"

/-- A quote is escaped where it stands. -/
theorem escapedQuotes_quote (rest : List Char) :
    escapedQuotes ('\'' :: rest) = ['\\', '\''] ++ escapedQuotes rest := by
  simp [escapedQuotes, replaceAll_single]

/-- A character that is no quote stays where it stands. -/
theorem escapedQuotes_cons {char : Char} (other : char ≠ '\'') (rest : List Char) :
    escapedQuotes (char :: rest) = char :: escapedQuotes rest := by
  simp [escapedQuotes, replaceAll_single, other]

/-- An escaped text never begins with a quote, as each quote has a backslash before it. -/
theorem escapedQuotes_ne_quote_cons (text rest : List Char) :
    escapedQuotes text ≠ '\'' :: rest := by
  -- Its first character is itself, or the backslash that was put before a quote.
  cases text with
  | nil => simp [escapedQuotes]
  | cons char text =>
    by_cases quote : char = '\''
    · rw [quote, escapedQuotes_quote]
      simp
    · rw [escapedQuotes_cons quote]
      simp [quote]

/-- A character in front of an escaped text makes no escape with it, even if it is a backslash. -/
theorem not_begins_cons_escapedQuotes {char : Char} (text : List Char) :
    ['\\', '\''].isPrefixOf (char :: escapedQuotes text) = false := by
  rw [Bool.eq_false_iff]
  intro begins
  -- The quote of such an escape would begin the text behind the character.
  obtain ⟨rest, same⟩ := (List.cons_prefix_cons.mp (List.isPrefixOf_iff_prefix.mp begins)).2
  exact escapedQuotes_ne_quote_cons text rest same.symm

/--
Reading an escaped text takes out the backslashes that were put in, and no others.

A backslash that was in front of a quote is in front of the backslash of that quote now.
-/
theorem replaceAll_escapedQuotes (text : List Char) :
    replaceAll ['\\', '\''] ['\''] (escapedQuotes text) = text := by
  -- Induct over the characters; each quote is read back with the backslash that it was given.
  induction text with
  | nil => rfl
  | cons char rest ih =>
    by_cases quote : char = '\''
    · rw [quote, escapedQuotes_quote, replaceAll_append _ _ (by simp), ih]
      rfl
    · rw [escapedQuotes_cons quote,
        replaceAll_cons_of_not_begins _ (not_begins_cons_escapedQuotes rest), ih]

/-- A text between quotes is a literal, with any white space around it. -/
theorem isWritten_of_padded_literal {body expression : String}
    (padded : Padded ("'" ++ body ++ "'") expression) :
    (Form.literal body.toList).IsWritten (trim expression.toList) := by
  have quotes : ("'" ++ body ++ "'").toList = enclosed '\'' body.toList := by
    simp [enclosed]
  rw [padded.trim, quotes, trim_enclosed (by decide)]
  exact .literal body.toList

/--
Every text is the value of the literal that it is written as, in every context.

White space around the literal does not belong to the text, but that in front of or behind the text
itself does.
-/
theorem evaluate_literalOf (text : String) (context : Context) {before after : String}
    (blankBefore : AllBlank before.toList) (blankAfter : AllBlank after.toList) :
    evaluate (before ++ literalOf text ++ after) context = .ok text := by
  have padded : Padded (literalOf text) (before ++ literalOf text ++ after) :=
    ⟨before.toList, after.toList, blankBefore, blankAfter, by simp⟩
  rw [evaluate, evaluateWith_of_isWritten (isWritten_of_padded_literal padded), Form.value,
    String.toList_ofList, replaceAll_escapedQuotes, String.ofList_toList]

/-- A text may hold escapes and references, end in a backslash and have white space at its ends. -/
theorem evaluate_literalOf_backslashes :
    literalOf " \\'|$\x7bx\x7d'\\" = "' \\\\'|$\x7bx\x7d\\'\\'" ∧
    AllBlank "\t".toList ∧ AllBlank "\n ".toList ∧
    evaluate ("\t" ++ literalOf " \\'|$\x7bx\x7d'\\" ++ "\n ") {} =
      .ok " \\'|$\x7bx\x7d'\\" :=
  ⟨by decide +kernel, by decide, by decide, evaluate_literalOf _ _ (by decide) (by decide)⟩

end Titling.Title.Expression
