import Titling.Context
import Titling.Text.Blank
import Titling.Text.Occurrence
import Titling.Text.Word
import Titling.Title.Error

/-! Expressions of titles: quoted literals, variables, and literals with variables in them. -/

namespace Titling.Title

open Titling.Text

/-- Gives an expression its value in a context. -/
abbrev Evaluator := String → Context → Except Failure String

/-- Finds the text of a variable by its name, and answers none for a variable that is unknown. -/
abbrev Find := String → Except Value.TextError (Option String)

namespace Expression

/-- Tells whether the name of a variable may begin with a character. -/
def isNameStart (char : Char) : Bool :=
  char.isAlpha || char == '_'

/-- Tells whether the name of a variable may go on with a character. -/
def isNameChar (char : Char) : Bool :=
  isWord char || char == '.'

/-- The name that a text begins with; it is empty where there is none. -/
def leadingName : List Char → List Char
  | [] => []
  | first :: rest => if isNameStart first then first :: rest.takeWhile isNameChar else []

/-- Finds a variable reference, and answers the name in it. -/
def reference? : Matcher String
  | '$' :: '\x7b' :: rest =>
    -- White space may stand on both sides of the name, and it is no part of it.
    let before := rest.takeWhile isBlank
    let name := leadingName (rest.drop before.length)
    let after := rest.drop (before.length + name.length)
    let trailing := after.takeWhile isBlank
    match name, after.drop trailing.length with
    | _ :: _, '\x7d' :: _ =>
      -- One brace on either side is counted beside the name and the white space.
      some (String.ofList name, before.length + name.length + trailing.length + 2)
    | _, _ => none
  | _ => none

/-- What an expression is, without the white space around it. -/
inductive Form where
  | literal (body : List Char)
  | template (body : List Char)
  | reference (name : String)
  | unsupported
deriving DecidableEq, Repr

/-- What stands between a mark and the same mark at the end. -/
def between? (mark : Char) : List Char → Option (List Char)
  | [] => none
  | first :: rest =>
    -- A mark on its own does not count as both ends.
    if first = mark ∧ rest.getLast? = some mark then some rest.dropLast else none

/-- The name in a text that is one variable reference and nothing else. -/
def wholeReference? (text : List Char) : Option String :=
  match reference? text with
  | some (name, extra) => if extra + 1 = text.length then some name else none
  | none => none

/-- The form of an expression. -/
def Form.ofExpression (expression : String) : Form :=
  let text := trim expression.toList
  -- The forms are tried in this order, so a quote in front decides for a literal.
  match between? '\'' text with
  | some body => .literal body
  | none =>
    match between? '|' text with
    | some body => .template body
    | none =>
      match wholeReference? text with
      | some name => .reference name
      | none => .unsupported

/-- The text that a variable in an expression stands for. -/
def lookup (find : Find) (expression name : String) : Except Failure String :=
  match find name with
  | .ok (some value) => .ok value
  | .ok none => .error (.evaluation ⟨expression, .unknownVariable name⟩)
  | .error .overlongInteger => .error .overlongInteger

/-- Puts the values of variables in their places; the leftmost one without a value ends it. -/
def expand (find : Find) (expression : String) : List (Piece String) → Except Failure (List Char)
  | [] => .ok []
  | .plain char :: rest => do
    let tail ← expand find expression rest
    return char :: tail
  | .found name :: rest => do
    let value ← lookup find expression name
    -- The rest is only looked at once this variable has a value.
    let tail ← expand find expression rest
    return value.toList ++ tail

/-- The value of an expression of a form; an error names the expression as it was written. -/
def Form.value (find : Find) (expression : String) : Form → Except Failure String
  -- Of escapes there is only that of a quote; a backslash in front of anything else stays.
  | .literal body => .ok (String.ofList (replaceAll ['\\', '\''] ['\''] body))
  | .template body => do
    let chars ← expand find expression (Piece.split reference? body)
    return String.ofList chars
  | .reference name => lookup find expression name
  | .unsupported => .error (.evaluation ⟨expression, .unsupportedForm⟩)

/-- The value of an expression, whose variables are found in any way. -/
def evaluateWith (find : Find) (expression : String) : Except Failure String :=
  (Form.ofExpression expression).value find expression

/-- The value of an expression in a context. -/
def evaluate : Evaluator := fun expression context => evaluateWith context.string? expression

end Expression

end Titling.Title
