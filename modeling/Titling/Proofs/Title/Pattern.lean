import Titling.Proofs.Text.Marked
import Titling.Title.Pattern

/-! Scanning a pattern: tokens neither begin nor run into one another, so none is passed over. -/

namespace Titling.Title

open Titling.Text

namespace Token

/-- A token is one of those that a pattern is scanned for. -/
theorem mem_all (token : Token) : token ∈ all := by
  cases token <;> decide

/-- The only dollar sign in a written token is its first character. -/
theorem exists_text_eq (token : Token) :
    ∃ tail, token.text.toList = '$' :: tail ∧ '$' ∉ tail := by
  cases token <;> exact ⟨_, rfl, by decide⟩

/-- No token begins another one. -/
theorem eq_of_begins {token other : Token}
    (begins : token.text.toList <+: other.text.toList) : token = other := by
  -- There are so few tokens that all pairs of them can be compared.
  have apart : ∀ token ∈ all, ∀ other ∈ all,
      token.text.toList <+: other.text.toList → token = other := by
    decide
  exact apart token token.mem_all other other.mem_all begins

/-- Tokens can be told apart: each has its own dollar sign, and none begins another. -/
theorem isMarked : IsMarked (fun token : Token => token.text.toList) '$' :=
  ⟨exists_text_eq, fun _ _ => eq_of_begins⟩

/-- Tells that no token begins a text. -/
def NoneBegins (text : List Char) : Prop :=
  ∀ token : Token, ¬ token.text.toList <+: text

/-- Tells that no token stands anywhere in a text. -/
def NoneIn (text : List Char) : Prop :=
  ∀ token : Token, ¬ token.text.toList <:+: text

/-- A token stands in a text if it begins it or stands in what follows the first character. -/
theorem noneIn_cons_iff (char : Char) (rest : List Char) :
    NoneIn (char :: rest) ↔ NoneBegins (char :: rest) ∧ NoneIn rest :=
  Text.noneIn_cons_iff _ char rest

/-- The empty text has no token in it. -/
theorem noneIn_nil : NoneIn [] :=
  isMarked.noneIn_nil

/-- Nothing is found exactly where no token begins. -/
theorem match?_eq_none_iff (text : List Char) : match? text = none ↔ NoneBegins text := by
  simp only [match?, List.findSome?_eq_none_iff, NoneBegins]
  constructor
  · intro missing token begins
    simpa [List.isPrefixOf_iff_prefix.mpr begins] using missing token token.mem_all
  · intro absent token _
    simp [List.isPrefixOf_iff_prefix, absent token]

/-- What is found begins the text, and takes as many characters as it is written with. -/
theorem match?_eq_some {text : List Char} {token : Token} {extra : Nat}
    (found : match? text = some (token, extra)) :
    token.text.toList <+: text ∧ extra = token.text.toList.length - 1 := by
  -- The first of the tokens that begin the text is found.
  obtain ⟨other, -, hit⟩ := List.exists_of_findSome?_eq_some found
  dsimp only at hit
  split at hit
  · rename_i begins
    obtain ⟨rfl, rfl⟩ := Prod.mk.inj (Option.some.inj hit)
    exact ⟨List.isPrefixOf_iff_prefix.mp begins, rfl⟩
  · simp at hit

/-- A token at the start of a text is found, whatever follows it. -/
theorem match?_text_append (token : Token) (rest : List Char) :
    match? (token.text.toList ++ rest) = some (token, token.text.toList.length - 1) := by
  have begins : token.text.toList <+: token.text.toList ++ rest := List.prefix_append _ _
  cases found : match? (token.text.toList ++ rest) with
  | none => exact absurd begins ((match?_eq_none_iff _).mp found token)
  | some hit =>
    obtain ⟨other, extra⟩ := hit
    obtain ⟨first, rfl⟩ := match?_eq_some found
    -- Another token would begin the same text.
    rw [isMarked.eq_of_prefixes first begins]

/-- Tokens are found where they begin, and nothing else is. -/
theorem finds : Finds match? (fun token : Token => token.text.toList) id where
  found := match?_text_append
  missing text := (match?_eq_none_iff text).mpr

/-- Scanning finds a token at the start of a text, and goes on behind it. -/
theorem split_text_append (token : Token) (rest : List Char) :
    Piece.split match? (token.text.toList ++ rest) = .found token :: Piece.split match? rest :=
  finds.split_append isMarked token rest

/--
A text is scanned from left to right: a token is passed as a whole, and where none begins, one
character is.
-/
@[elab_as_elim] theorem scan {motive : List Char → Prop} (nil : motive [])
    (token : ∀ (token : Token) (rest : List Char), motive rest →
      motive (token.text.toList ++ rest))
    (plain : ∀ (char : Char) (rest : List Char), NoneBegins (char :: rest) → motive rest →
      motive (char :: rest))
    (text : List Char) : motive text :=
  isMarked.scan nil token plain text

/--
A text without a token goes on being without one at its characters if what follows it is nothing,
or begins with a dollar sign.
-/
theorem noneBegins_append {char : Char} {front rest : List Char}
    (free : NoneIn (char :: front)) (border : ∀ next ∈ rest.head?, next = '$') :
    NoneBegins (char :: front ++ rest) :=
  isMarked.noneBegins_append (List.cons_ne_nil char front) free border

/-- Behind a token another one stands in the rest of the text, because no two overlap. -/
theorem infix_text_append_iff (token other : Token) (rest : List Char) :
    token.text.toList <:+: other.text.toList ++ rest ↔
      token = other ∨ token.text.toList <:+: rest :=
  isMarked.infix_spell_append_iff token other rest

end Token

namespace Segment

/-- The segments of a text given by its characters. -/
def ofChars (text : List Char) : List Segment :=
  gather [] (Piece.split Token.match? text)

/-- Puts a character in front of segments: into the literal at the start, or as a new one. -/
def prepend (char : Char) : List Segment → List Segment
  | .literal text :: rest => .literal (String.ofList (char :: text.toList)) :: rest
  | segments => .literal (String.ofList [char]) :: segments

/-- Where literals stand for themselves, a character put in front of segments stays in front. -/
theorem flatMap_prepend {value : Segment → List Char}
    (literal : ∀ text, value (.literal text) = text.toList) (char : Char)
    (segments : List Segment) :
    (prepend char segments).flatMap value = char :: segments.flatMap value := by
  match segments with
  | [] => simp [prepend, literal]
  | .token _ :: _ => simp [prepend, literal]
  | .literal _ :: _ => simp [prepend, literal]

/-- A character in front of a literal that a token or nothing follows belongs to the literal. -/
theorem prepend_literalOf (char : Char) (reversed : List Char) {rest : List Segment}
    (ended : ∀ segment ∈ rest.head?, segment.isToken) :
    prepend char (literalOf reversed ++ rest) = literalOf (reversed ++ [char]) ++ rest := by
  cases reversed with
  | nil =>
    -- The character becomes a literal, and there is no other one behind it to go into.
    match rest with
    | [] => rfl
    | .token _ :: _ => rfl
    | .literal _ :: _ => simp [isToken] at ended
  | cons last front => simp [literalOf, prepend]

/-- A character that stands in front of those gathered so far stands in front of the segments. -/
theorem gather_append (char : Char) (reversed : List Char) (pieces : List (Piece Token)) :
    gather (reversed ++ [char]) pieces = prepend char (gather reversed pieces) := by
  -- Induct over the pieces; the characters gathered grow until a token ends the literal.
  induction pieces generalizing reversed with
  | nil =>
    have literal := @prepend_literalOf char reversed [] (by simp)
    rw [List.append_nil, List.append_nil] at literal
    exact literal.symm
  | cons piece rest ih =>
    cases piece with
    | plain other => exact ih (other :: reversed)
    | found token => exact (prepend_literalOf char reversed (by simp [isToken])).symm

/-- The empty text has no segments. -/
@[simp] theorem ofChars_nil : ofChars [] = [] := rfl

/-- A token at the start of a text is a segment of its own. -/
@[simp] theorem ofChars_text_append (token : Token) (rest : List Char) :
    ofChars (token.text.toList ++ rest) = .token token :: ofChars rest := by
  rw [ofChars, Token.split_text_append]
  rfl

/-- Where no token begins, the first character is literal. -/
theorem ofChars_cons {char : Char} {rest : List Char} (absent : Token.NoneBegins (char :: rest)) :
    ofChars (char :: rest) = prepend char (ofChars rest) := by
  rw [ofChars, Piece.split_cons_none ((Token.match?_eq_none_iff _).mpr absent)]
  exact gather_append char [] _

/-- A character in front of segments makes no difference to the tokens among them. -/
theorem token_mem_prepend_iff (token : Token) (char : Char) (segments : List Segment) :
    .token token ∈ prepend char segments ↔ .token token ∈ segments := by
  match segments with
  | [] => simp [prepend]
  | .token _ :: _ => simp [prepend]
  | .literal _ :: _ => simp [prepend]

/-- A token is among the segments of a text exactly if it stands in the text. -/
theorem token_mem_ofChars_iff (mark : Token) (text : List Char) :
    .token mark ∈ ofChars text ↔ mark.text.toList <:+: text := by
  -- Induct over the scan: a token that it goes past as a whole has no other one begin in it.
  induction text using Token.scan with
  | nil =>
    obtain ⟨tail, written, -⟩ := mark.exists_text_eq
    simp [written]
  | token other rest ih =>
    rw [ofChars_text_append, List.mem_cons, ih, Token.infix_text_append_iff]
    simp
  | plain char rest absent ih =>
    rw [ofChars_cons absent, token_mem_prepend_iff, ih, List.infix_cons_iff]
    simp [absent mark]

end Segment

/-- The deprecated token is mentioned exactly where it is a segment of the pattern. -/
theorem mentionsDeprecated_iff (pattern : String) :
    mentionsDeprecated pattern = true ↔ .token .decorator ∈ Segment.ofPattern pattern := by
  rw [mentionsDeprecated, Text.occurs_iff, Segment.ofPattern]
  exact (Segment.token_mem_ofChars_iff .decorator pattern.toList).symm

end Titling.Title
