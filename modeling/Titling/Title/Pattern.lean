import Titling.Text.Occurrence

/-! Title patterns: literal text with tokens that stand for the titles of the two pages. -/

namespace Titling.Title

open Titling.Text

/-- A token of a pattern; the decorator token is the old name of the layout token. -/
inductive Token where
  | layout
  | decorator
  | content
deriving DecidableEq, Repr

namespace Token

/-- The form in which a token is written. -/
def text : Token → String
  | .layout => "$LAYOUT_TITLE"
  | .decorator => "$DECORATOR_TITLE"
  | .content => "$CONTENT_TITLE"

/-- All tokens; none of them begins another, so the order does not matter. -/
def all : List Token :=
  [.layout, .decorator, .content]

/-- Finds a token where a text begins with one. -/
def match? : Matcher Token := fun text =>
  all.findSome? fun token =>
    let written := token.text.toList
    if written.isPrefixOf text then some (token, written.length - 1) else none

end Token

/-- A part of a pattern. -/
inductive Segment where
  | literal (text : String)
  | token (token : Token)
deriving DecidableEq, Repr

namespace Segment

/-- The part of the pattern that a segment covers. -/
def text : Segment → String
  | .literal text => text
  | .token mark => mark.text

/-- Tells whether a segment stands for a title. -/
def isToken : Segment → Bool
  | .literal _ => false
  | .token _ => true

/-- The literal made of characters read backwards, if there are any. -/
def literalOf (reversed : List Char) : List Segment :=
  if reversed.isEmpty then [] else [.literal (String.ofList reversed.reverse)]

/-- Gathers the characters between tokens; `reversed` holds those since the last token. -/
def gather (reversed : List Char) : List (Piece Token) → List Segment
  | [] => literalOf reversed
  | .plain char :: rest => gather (char :: reversed) rest
  -- A token ends the literal in front of it, which may be empty.
  | .found mark :: rest => literalOf reversed ++ .token mark :: gather [] rest

/-- The segments of a pattern from left to right; whatever is no token stays literal. -/
def ofPattern (pattern : String) : List Segment :=
  gather [] (Piece.split Token.match? pattern.toList)

end Segment

/-- Tells whether a pattern mentions the token that is no longer to be used. -/
def mentionsDeprecated (pattern : String) : Bool :=
  occurs Token.decorator.text.toList pattern.toList

end Titling.Title
