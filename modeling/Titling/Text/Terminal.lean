import Titling.Text.Occurrence

/-! Control sequences that style text on a terminal. -/

namespace Titling.Text

/-- Tells whether a character may stand among the parameters of a control sequence. -/
def isControlParameter (char : Char) : Bool :=
  char.isDigit || char == ';' || char == '?'

/-- Finds a control sequence: an escape, a bracket, parameters and a letter. -/
def controlSequence? : Matcher Unit
  | '\x1b' :: '[' :: rest =>
    let parameters := rest.takeWhile isControlParameter
    match rest.drop parameters.length with
    | letter :: _ => if letter.isAlpha then some ((), parameters.length + 2) else none
    | [] => none
  | _ => none

/-- A text as it goes to what is no terminal. -/
def withoutStyle (text : String) : String :=
  String.ofList (substitute controlSequence? (fun _ => []) text.toList)

end Titling.Text
