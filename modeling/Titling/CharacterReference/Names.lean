import Titling.CharacterReference.Names.UpperAToF
import Titling.CharacterReference.Names.UpperGToN
import Titling.CharacterReference.Names.UpperOToZ
import Titling.CharacterReference.Names.LowerAToC
import Titling.CharacterReference.Names.LowerDToK
import Titling.CharacterReference.Names.LowerLToN
import Titling.CharacterReference.Names.LowerOToR
import Titling.CharacterReference.Names.LowerSToZ

/-! Looking up a named character reference. -/

namespace Titling.CharacterReference

/-- The entries whose names begin with a given character. -/
def entriesFrom : Char → List Entry
  | 'A' => upperA
  | 'B' => upperB
  | 'C' => upperC
  | 'D' => upperD
  | 'E' => upperE
  | 'F' => upperF
  | 'G' => upperG
  | 'H' => upperH
  | 'I' => upperI
  | 'J' => upperJ
  | 'K' => upperK
  | 'L' => upperL
  | 'M' => upperM
  | 'N' => upperN
  | 'O' => upperO
  | 'P' => upperP
  | 'Q' => upperQ
  | 'R' => upperR
  | 'S' => upperS
  | 'T' => upperT
  | 'U' => upperU
  | 'V' => upperV
  | 'W' => upperW
  | 'X' => upperX
  | 'Y' => upperY
  | 'Z' => upperZ
  | 'a' => lowerA
  | 'b' => lowerB
  | 'c' => lowerC
  | 'd' => lowerD
  | 'e' => lowerE
  | 'f' => lowerF
  | 'g' => lowerG
  | 'h' => lowerH
  | 'i' => lowerI
  | 'j' => lowerJ
  | 'k' => lowerK
  | 'l' => lowerL
  | 'm' => lowerM
  | 'n' => lowerN
  | 'o' => lowerO
  | 'p' => lowerP
  | 'q' => lowerQ
  | 'r' => lowerR
  | 's' => lowerS
  | 't' => lowerT
  | 'u' => lowerU
  | 'v' => lowerV
  | 'w' => lowerW
  | 'x' => lowerX
  | 'y' => lowerY
  | 'z' => lowerZ
  | _ => []

/-- Names that count as references even when no semicolon ends them. -/
def unclosedNames : List String :=
  ["AElig", "AMP", "Aacute", "Acirc", "Agrave", "Aring", "Atilde", "Auml", "COPY", "Ccedil",
   "ETH", "Eacute", "Ecirc", "Egrave", "Euml", "GT", "Iacute", "Icirc", "Igrave", "Iuml", "LT",
   "Ntilde", "Oacute", "Ocirc", "Ograve", "Oslash", "Otilde", "Ouml", "QUOT", "REG", "THORN",
   "Uacute", "Ucirc", "Ugrave", "Uuml", "Yacute", "aacute", "acirc", "acute", "aelig", "agrave",
   "amp", "aring", "atilde", "auml", "brvbar", "ccedil", "cedil", "cent", "copy", "curren", "deg",
   "divide", "eacute", "ecirc", "egrave", "eth", "euml", "frac12", "frac14", "frac34", "gt",
   "iacute", "icirc", "iexcl", "igrave", "iquest", "iuml", "laquo", "lt", "macr", "micro",
   "middot", "nbsp", "not", "ntilde", "oacute", "ocirc", "ograve", "ordf", "ordm", "oslash",
   "otilde", "ouml", "para", "plusmn", "pound", "quot", "raquo", "reg", "sect", "shy", "sup1",
   "sup2", "sup3", "szlig", "thorn", "times", "uacute", "ucirc", "ugrave", "uml", "uuml",
   "yacute", "yen", "yuml"]

/-- The text that an entry's name stands for. -/
def textOf? (name : String) : Option (List Char) :=
  match name.toList with
  | [] => none
  | first :: _ => ((entriesFrom first).lookup name).map fun codes => codes.map Char.ofNat

/--
The text that a name stands for, written with its semicolon or without. Names are made of ASCII
letters and digits.
-/
def named? (written : List Char) : Option (List Char) :=
  let stem := written.takeWhile Char.isAlphanum
  match written.dropWhile Char.isAlphanum with
  | [';'] => textOf? (String.ofList stem)
  | [] => if String.ofList stem ∈ unclosedNames then textOf? (String.ofList stem) else none
  | _ => none

end Titling.CharacterReference
