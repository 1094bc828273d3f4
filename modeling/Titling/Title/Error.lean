import Titling.Decimal.Digits
import Titling.Text.Quoted

/-! Why a title cannot be made. -/

namespace Titling.Title

/-- Why an expression has no value. -/
inductive Reason where
  | unsupportedForm
  | unknownVariable (name : String)
  | other (text : String)
deriving DecidableEq, Repr

/-- A reason in words. -/
def Reason.message : Reason → String
  | .unsupportedForm => "unsupported expression syntax"
  | .unknownVariable name => "unknown variable '" ++ name ++ "'"
  | .other text => text

/-- An expression that has no value, as it was written, with the reason. -/
structure EvaluationError where
  expression : String
  reason : Reason
deriving DecidableEq, Repr

/-- What is said about an expression without a value. -/
def EvaluationError.message (error : EvaluationError) : String :=
  "Cannot evaluate expression " ++ Text.quoted error.expression ++ ": " ++ error.reason.message

/-- Why an evaluator gives no value: there is none, or an integer in it is too long to write. -/
inductive Failure where
  | evaluation (error : EvaluationError)
  | overlongInteger
deriving DecidableEq, Repr

/--
Why a page has no title: an expression fails, the directive is on another element, or the value of
an expression refers to a character by a number that is too long to be read.
-/
inductive Error where
  | evaluation (error : EvaluationError)
  | wrongHost (tag directive : String)
  | overlongReference
  | overlongInteger
deriving DecidableEq, Repr

/-- The error of a page for which an evaluator fails. -/
def Error.ofFailure : Failure → Error
  | .evaluation error => .evaluation error
  | .overlongInteger => .overlongInteger

/-- What is said about a title that cannot be made. -/
def Error.message : Error → String
  | .evaluation error => error.message
  | .wrongHost tag directive =>
    directive ++ " processor should only appear in a <title> element, found on <" ++ tag ++ ">"
  | .overlongReference =>
    "A character reference has more than " ++ toString Decimal.maxDigits ++ " digits"
  | .overlongInteger => "An integer has more than " ++ toString Decimal.maxDigits ++ " digits"

end Titling.Title
