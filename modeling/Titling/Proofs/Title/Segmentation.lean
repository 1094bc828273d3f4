import Mathlib.Data.List.Chain
import Titling.Proofs.Title.Pattern

/-! A pattern is split into tokens and literal text in exactly one way. -/

namespace Titling.Title.Segment

/-- A segment as its text, with a mark on tokens. -/
def part (segment : Segment) : String × Bool :=
  (segment.text, segment.isToken)

/-- The characters of parts, joined. -/
def joined (parts : List (String × Bool)) : List Char :=
  parts.flatMap fun part => part.1.toList

/-- Tells that parts are tokens with literal texts between them that cannot be split any further. -/
structure IsSegmentation (parts : List (String × Bool)) : Prop where
  tokens : ∀ text, (text, true) ∈ parts →
    text ∈ ["$LAYOUT_TITLE", "$CONTENT_TITLE", "$DECORATOR_TITLE"]
  literals : ∀ text, (text, false) ∈ parts → text ≠ "" ∧ Token.NoneIn text.toList
  -- Two literals next to each other would be one.
  apart : parts.IsChain fun first second => first.2 = true ∨ second.2 = true

/-- A text is the text of a token exactly if it is one of the three. -/
theorem mem_tokens_iff (text : String) :
    text ∈ ["$LAYOUT_TITLE", "$CONTENT_TITLE", "$DECORATOR_TITLE"] ↔
      ∃ token : Token, token.text = text := by
  constructor
  · -- The three texts are those of the three tokens, one each.
    intro known
    simp only [List.mem_cons, List.not_mem_nil, or_false] at known
    rcases known with rfl | rfl | rfl
    · exact ⟨.layout, rfl⟩
    · exact ⟨.content, rfl⟩
    · exact ⟨.decorator, rfl⟩
  · rintro ⟨token, rfl⟩
    cases token <;> decide

/-- No parts at all are the parts of the empty text. -/
theorem isSegmentation_nil : IsSegmentation [] where
  tokens := by simp
  literals := by simp
  apart := .nil

/-- A token may stand in front of any parts. -/
theorem isSegmentation_token_iff (token : Token) (parts : List (String × Bool)) :
    IsSegmentation ((token.text, true) :: parts) ↔ IsSegmentation parts := by
  constructor
  · intro settled
    -- A token asks nothing of what stands next to it.
    exact ⟨fun text inside => settled.tokens text (by simp [inside]),
      fun text inside => settled.literals text (by simp [inside]),
      (List.isChain_cons.mp settled.apart).2⟩
  · intro settled
    -- Backwards, each condition is checked for the token and taken over for the rest.
    refine ⟨fun text inside => ?_, fun text inside => ?_, ?_⟩
    · rcases List.mem_cons.mp inside with same | later
      · rw [(Prod.mk.inj same).1, mem_tokens_iff]
        exact ⟨token, rfl⟩
      · exact settled.tokens text later
    · exact settled.literals text (by simpa using inside)
    · exact List.isChain_cons.mpr ⟨fun next _ => .inl rfl, settled.apart⟩

/-- A literal stands in front of a token or at the end, and has no token in it. -/
theorem isSegmentation_literal_iff (text : String) (parts : List (String × Bool)) :
    IsSegmentation ((text, false) :: parts) ↔
      (text ≠ "" ∧ Token.NoneIn text.toList) ∧ (∀ next ∈ parts.head?, next.2 = true) ∧
        IsSegmentation parts := by
  constructor
  · intro settled
    -- The literal itself is no token, so what comes next has to be one.
    obtain ⟨border, apart⟩ := List.isChain_cons.mp settled.apart
    exact ⟨settled.literals text (by simp), fun next first => by simpa using border next first,
      fun other inside => settled.tokens other (by simp [inside]),
      fun other inside => settled.literals other (by simp [inside]), apart⟩
  · rintro ⟨free, border, settled⟩
    refine ⟨fun other inside => ?_, fun other inside => ?_, ?_⟩
    · exact settled.tokens other (by simpa using inside)
    · rcases List.mem_cons.mp inside with same | later
      · rw [(Prod.mk.inj same).1]
        exact free
      · exact settled.literals other later
    · exact List.isChain_cons.mpr ⟨fun next first => .inr (border next first), settled.apart⟩

/-- The parts of segments have the texts of the segments. -/
theorem joined_map_part (segments : List Segment) :
    joined (segments.map part) = segments.flatMap fun segment => segment.text.toList := by
  rw [joined, List.flatMap_map]
  rfl

/-- A character may stand in front of segments if no token begins with it. -/
theorem IsSegmentation.prepend {char : Char} {segments : List Segment}
    (settled : IsSegmentation (segments.map part))
    (absent : Token.NoneBegins (char :: joined (segments.map part))) :
    IsSegmentation ((prepend char segments).map part) := by
  -- A literal at the start begins the text, and so no token begins where the literal does.
  have literal : ∀ {front parts}, front <+: joined (segments.map part) → Token.NoneIn front →
      (∀ next ∈ parts.head?, next.2 = true) → IsSegmentation parts →
      IsSegmentation ((String.ofList (char :: front), false) :: parts) := by
    intro front parts begins inner border after
    have outer : Token.NoneBegins (char :: front) := fun token begun =>
      absent token (begun.trans ((List.prefix_cons_inj char).mpr begins))
    refine (isSegmentation_literal_iff _ parts).mpr ⟨⟨by simp, ?_⟩, border, after⟩
    rw [String.toList_ofList]
    exact (Token.noneIn_cons_iff char front).mpr ⟨outer, inner⟩
  cases segments with
  | nil => exact literal List.nil_prefix Token.noneIn_nil (by simp) settled
  | cons segment rest =>
    cases segment with
    | token mark =>
      exact literal List.nil_prefix Token.noneIn_nil (by simp [part, isToken]) settled
    | literal text =>
      obtain ⟨⟨-, inner⟩, border, after⟩ := (isSegmentation_literal_iff text _).mp settled
      exact literal (List.prefix_append _ _) inner border after

/-- The segments of a text have its characters, and they cannot be split any further. -/
theorem isSegmentation_ofChars (text : List Char) :
    IsSegmentation ((ofChars text).map part) ∧ joined ((ofChars text).map part) = text := by
  -- Both are shown together: that no token begins a text is a fact about the joined parts, too.
  induction text using Token.scan with
  | nil => exact ⟨isSegmentation_nil, rfl⟩
  | token token rest ih =>
    rw [ofChars_text_append]
    refine ⟨(isSegmentation_token_iff token _).mpr ih.1, ?_⟩
    exact congrArg (token.text.toList ++ ·) ih.2
  | plain char rest absent ih =>
    obtain ⟨settled, same⟩ := ih
    rw [ofChars_cons absent]
    refine ⟨settled.prepend (by rwa [same]), ?_⟩
    rw [joined_map_part, flatMap_prepend fun _ => rfl, ← joined_map_part, same]

/-- Text without tokens in front of a token, or at the end, is one segment. -/
theorem ofChars_append {front rest : List Char} (nonempty : front ≠ [])
    (free : Token.NoneIn front) (border : ∀ next ∈ rest.head?, next = '$')
    (ended : ∀ segment ∈ (ofChars rest).head?, segment.isToken) :
    ofChars (front ++ rest) = .literal (String.ofList front) :: ofChars rest := by
  -- The front is put before the segments of the rest from its last character on.
  induction front with
  | nil => exact absurd rfl nonempty
  | cons char front ih =>
    -- No token begins in the front, so its characters go in front of the segments one by one.
    have absent := Token.noneBegins_append free border
    rw [List.cons_append] at absent ⊢
    rw [ofChars_cons absent]
    cases front with
    | nil =>
      -- The last character is a literal of its own, because what follows is none.
      rw [List.nil_append]
      match segments : ofChars rest with
      | [] => rfl
      | .token _ :: _ => rfl
      | .literal _ :: _ => simp [segments, isToken] at ended
    | cons next front =>
      rw [ih (by simp) ((Token.noneIn_cons_iff _ _).mp free).2]
      simp [Segment.prepend]

/-- Parts that cannot be split any further are those that the joined text is split into. -/
theorem IsSegmentation.ofChars_joined {parts : List (String × Bool)}
    (settled : IsSegmentation parts) : (ofChars (joined parts)).map part = parts := by
  -- Induct over the parts: the first one is split off, and what is joined behind it stays whole.
  induction parts with
  | nil => rfl
  | cons first rest ih =>
    obtain ⟨text, marked⟩ := first
    cases marked with
    | true =>
      obtain ⟨token, rfl⟩ := (mem_tokens_iff text).mp (settled.tokens text (by simp))
      have same := ih ((isSegmentation_token_iff token rest).mp settled)
      have split : ofChars (joined ((token.text, true) :: rest)) =
          .token token :: ofChars (joined rest) :=
        ofChars_text_append token _
      rw [split, List.map_cons, same]
      rfl
    | false =>
      obtain ⟨⟨nonempty, free⟩, border, after⟩ := (isSegmentation_literal_iff text rest).mp settled
      have same := ih after
      -- Behind a literal comes a token, which begins with a dollar sign, or nothing.
      have dollar : ∀ next ∈ (joined rest).head?, next = '$' := by
        cases rest with
        | nil => simp [joined]
        | cons second rest =>
          obtain ⟨other, marked⟩ := second
          obtain rfl : marked = true := border (other, marked) rfl
          obtain ⟨token, rfl⟩ := (mem_tokens_iff other).mp (after.tokens other (by simp))
          obtain ⟨tail, written, -⟩ := token.exists_text_eq
          simp [joined, written]
      have ended : ∀ segment ∈ (ofChars (joined rest)).head?, segment.isToken := by
        intro segment first
        have shown : segment.part ∈ rest.head? := by
          rw [← same, List.head?_map, Option.mem_def.mp first]
          rfl
        exact border segment.part shown
      have split : ofChars (joined ((text, false) :: rest)) =
          .literal (String.ofList text.toList) :: ofChars (joined rest) :=
        ofChars_append (by simpa using nonempty) free dollar ended
      rw [split, List.map_cons, same, String.ofList_toList]
      rfl

/--
A pattern is split into its segments, and no other parts do as well.

The parts make up the pattern; a marked one is one of the three tokens, and all other text is
literal: it is not empty, has no token in it, and is not cut into literals next to each other.
Parts of which all this is true are exactly the segments of their joined text.
-/
theorem ofPattern_eq_iff (pattern : String) (parts : List (String × Bool)) :
    (ofPattern pattern).map part = parts ↔
      IsSegmentation parts ∧ String.join (parts.map Prod.fst) = pattern := by
  have characters : (String.join (parts.map Prod.fst)).toList = joined parts := by
    rw [String.toList_join, List.flatMap_map]
    rfl
  -- The scan is over characters, so the texts are compared by theirs.
  rw [← String.toList_inj, characters]
  constructor
  · rintro rfl
    exact isSegmentation_ofChars pattern.toList
  · rintro ⟨settled, same⟩
    rw [ofPattern, ← same]
    exact settled.ofChars_joined

/-- A token that is broken off belongs to the literal in front of the next one. -/
example : ofPattern "$LAYOUT$CONTENT_TITLES" =
    [.literal "$LAYOUT", .token .content, .literal "S"] := by
  decide +kernel

end Titling.Title.Segment
