/-! Finding occurrences in a text from left to right, each behind the end of the one before it. -/

namespace Titling.Text

/--
Looks for an occurrence at the start of a text, and answers what it found with the number of
characters that the occurrence takes beyond its first.
-/
abbrev Matcher (α : Type) := List Char → Option (α × Nat)

/-- A text is made of occurrences and of the characters that stand between them. -/
inductive Piece (α : Type) where
  | plain (char : Char)
  | found (occurrence : α)
deriving DecidableEq, Repr

namespace Piece

/-- Walks a text of which the first `skip` characters belong to an occurrence already found. -/
def walk {α : Type} (matcher : Matcher α) : Nat → List Char → List (Piece α)
  | _, [] => []
  | skip + 1, _ :: rest => walk matcher skip rest
  | 0, char :: rest =>
    match matcher (char :: rest) with
    | some (occurrence, extra) => .found occurrence :: walk matcher extra rest
    | none => .plain char :: walk matcher 0 rest

/-- The pieces of a text; an occurrence is never looked for inside another one. -/
def split {α : Type} (matcher : Matcher α) (text : List Char) : List (Piece α) :=
  walk matcher 0 text

/-- Skipping characters walks what is left of the text after them. -/
theorem walk_eq_split {α : Type} (matcher : Matcher α) (skip : Nat) (text : List Char) :
    walk matcher skip text = split matcher (text.drop skip) := by
  induction text generalizing skip with
  | nil => cases skip <;> simp [split, walk]
  | cons char rest ih =>
    cases skip with
    | zero => simp [split]
    | succ skip => simp [walk, ih]

/-- The empty text has no pieces. -/
@[simp] theorem split_nil {α : Type} (matcher : Matcher α) : split matcher [] = [] := rfl

/-- Where nothing is found the first character stands for itself. -/
theorem split_cons_none {α : Type} {matcher : Matcher α} {char : Char} {rest : List Char}
    (missing : matcher (char :: rest) = none) :
    split matcher (char :: rest) = .plain char :: split matcher rest := by
  simp [split, walk, missing]

/-- An occurrence at the start is one piece, and the walk goes on behind it. -/
theorem split_cons_some {α : Type} {matcher : Matcher α} {char : Char} {rest : List Char}
    {occurrence : α} {extra : Nat} (hit : matcher (char :: rest) = some (occurrence, extra)) :
    split matcher (char :: rest) = .found occurrence :: split matcher (rest.drop extra) := by
  rw [← walk_eq_split]
  simp [split, walk, hit]

end Piece

/-- Finds one fixed non-empty text. -/
def exactly (old : List Char) : Matcher Unit := fun text =>
  if !old.isEmpty && old.isPrefixOf text then some ((), old.length - 1) else none

/-- Tells whether one text stands anywhere in another. -/
def occurs (part : List Char) : List Char → Bool
  | [] => part.isEmpty
  | char :: rest => part.isPrefixOf (char :: rest) || occurs part rest

/-- Puts `replacement` in the place of each occurrence. -/
def substitute {α : Type} (matcher : Matcher α) (replacement : α → List Char)
    (text : List Char) : List Char :=
  (Piece.split matcher text).flatMap fun
    | .plain char => [char]
    | .found occurrence => replacement occurrence

/-- Replaces every occurrence of a fixed text. -/
def replaceAll (old new : List Char) (text : List Char) : List Char :=
  substitute (exactly old) (fun _ => new) text

end Titling.Text
