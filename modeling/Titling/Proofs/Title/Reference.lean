import Titling.Proofs.Text.Blank
import Titling.Proofs.Text.Parts
import Titling.Proofs.Title.Variables

/-! Variable references as they are written: exactly these are found, each with its name. -/

namespace Titling.Title.Expression

open Titling.Text

/-- Tells that a text is the name of a variable. -/
def IsName (text : List Char) : Prop :=
  ∃ first rest, text = first :: rest ∧ isNameStart first = true ∧
    ∀ char ∈ rest, isNameChar char = true

/-- A variable reference as it is written: a name with any white space around it. -/
structure Reference where
  before : List Char
  name : String
  after : List Char
  blankBefore : AllBlank before
  isName : IsName name.toList
  blankAfter : AllBlank after

namespace Reference

/-- What stands behind the opening brace of a reference. -/
def inner (reference : Reference) : List Char :=
  reference.before ++ (reference.name.toList ++ (reference.after ++ ['\x7d']))

/-- The characters of a reference: a dollar sign, and the rest between braces. -/
def text (reference : Reference) : List Char :=
  '$' :: '\x7b' :: reference.inner

end Reference

/-- White space is no part of a name. -/
theorem isNameChar_of_isBlank {char : Char} (blank : isBlank char = true) :
    isNameChar char = false := by
  -- White space is no character of a word, and the other one that names have is the dot.
  have dot : char ≠ '.' := by
    rintro rfl
    exact absurd blank (by decide)
  rw [isNameChar, isWord_of_isBlank blank, Bool.false_or, beq_false_of_ne dot]

/-- What a name may begin with is no white space. -/
theorem isBlank_of_isNameStart {char : Char} (start : isNameStart char = true) :
    isBlank char = false := by
  rw [Bool.eq_false_iff]
  intro blank
  have going := isNameChar_of_isNameStart start
  rw [isNameChar_of_isBlank blank] at going
  contradiction

/-- A name has no characters but those of names. -/
theorem IsName.all {text : List Char} (named : IsName text) :
    ∀ char ∈ text, isNameChar char = true := by
  obtain ⟨first, rest, rfl, start, going⟩ := named
  intro char inside
  rcases List.mem_cons.mp inside with rfl | later
  · exact isNameChar_of_isNameStart start
  · exact going char later

/-- A text leads with the name that it begins with, if the name does not go on behind it. -/
theorem leadingName_append {name : List Char} (named : IsName name) {stop : Char}
    (ends : isNameChar stop = false) (rest : List Char) :
    leadingName (name ++ stop :: rest) = name := by
  -- The row of a name's characters ends at the one that stops it.
  obtain ⟨first, more, rfl, start, going⟩ := named
  rw [List.cons_append, leadingName, if_pos start, List.takeWhile_append_of_pos going,
    List.takeWhile_cons_of_neg (by simp [ends]), List.append_nil]

/-- A leading name that is not empty is a name, and the text begins with it. -/
theorem isName_leadingName {text : List Char} (nonempty : leadingName text ≠ []) :
    IsName (leadingName text) ∧ leadingName text <+: text := by
  -- Something leads only if the first character may begin a name, and then it is that and a row.
  cases text with
  | nil => exact absurd rfl nonempty
  | cons first rest =>
    rw [leadingName] at nonempty ⊢
    split
    · rename_i start
      have going := List.all_eq_true.mp (List.all_takeWhile (p := isNameChar) (l := rest))
      refine ⟨⟨first, _, rfl, start, going⟩, ?_⟩
      exact (List.prefix_cons_inj first).mpr (List.takeWhile_prefix isNameChar)
    · rename_i other
      rw [if_neg other] at nonempty
      exact absurd rfl nonempty

namespace Reference

/-- A reference goes on with white space, its name, white space again and a brace. -/
theorem inner_append (reference : Reference) (rest : List Char) :
    reference.inner ++ rest = reference.before ++
      (reference.name.toList ++ (reference.after ++ '\x7d' :: rest)) := by
  simp [inner]

/-- Behind its opening brace a reference has white space up to the name. -/
theorem takeWhile_inner_append (reference : Reference) (rest : List Char) :
    (reference.inner ++ rest).takeWhile isBlank = reference.before := by
  -- The white space ends where the name begins.
  obtain ⟨first, more, named, start, -⟩ := reference.isName
  rw [inner_append, named, List.takeWhile_append_of_pos reference.blankBefore]
  simp [isBlank_of_isNameStart start]

/-- Behind the name come white space and a brace, of which neither belongs to the name. -/
theorem leadingName_drop_inner (reference : Reference) (rest : List Char) :
    leadingName ((reference.inner ++ rest).drop reference.before.length) =
      reference.name.toList := by
  rw [inner_append, List.drop_left]
  -- What follows the name is white space, or the brace at once if there is none.
  cases written : reference.after with
  | nil => exact leadingName_append reference.isName (by decide) rest
  | cons char after =>
    have blank := reference.blankAfter char (written ▸ List.mem_cons_self)
    exact leadingName_append reference.isName (isNameChar_of_isBlank blank) _

/-- A reference at the start of a text is found, whatever follows it. -/
theorem reference?_text_append (reference : Reference) (rest : List Char) :
    reference? (reference.text ++ rest) =
      some (reference.name, reference.text.length - 1) := by
  have before := reference.takeWhile_inner_append rest
  have name := reference.leadingName_drop_inner rest
  have behindName : (reference.inner ++ rest).drop
      (reference.before.length + reference.name.toList.length) =
        reference.after ++ '\x7d' :: rest := by
    rw [inner_append, ← List.append_assoc, ← List.length_append, List.drop_left]
  have after : (reference.after ++ '\x7d' :: rest).takeWhile isBlank = reference.after := by
    rw [List.takeWhile_append_of_pos reference.blankAfter,
      List.takeWhile_cons_of_neg (by decide), List.append_nil]
  have size : reference.text.length - 1 = reference.before.length +
      reference.name.toList.length + reference.after.length + 2 := by
    simp only [text, inner, List.length_cons, List.length_append, List.length_nil]
    omega
  -- The scan takes the white space, the name and the white space in turn, and meets the brace.
  rw [size, text, List.cons_append, List.cons_append, reference?, before, name, behindName, after,
    List.drop_left]
  obtain ⟨first, more, named, -, -⟩ := reference.isName
  have read : String.ofList (first :: more) = reference.name := by
    rw [← named, String.ofList_toList]
  simp [named, read]

/-- A name with white space around it is a reference if it stands between the marks of one. -/
theorem exists_prefix {before name after : List Char} (blankBefore : AllBlank before)
    (isName : IsName name) (blankAfter : AllBlank after) (later : List Char) :
    ∃ reference : Reference, reference.name = String.ofList name ∧
      reference.text <+: '$' :: '\x7b' :: (before ++ (name ++ (after ++ '\x7d' :: later))) := by
  have same : (String.ofList name).toList = name := String.toList_ofList
  refine ⟨⟨before, String.ofList name, after, blankBefore, same.symm ▸ isName, blankAfter⟩, rfl,
    later, ?_⟩
  simp [text, inner]

/-- What is found in a text is a reference that the text begins with. -/
theorem exists_of_reference? {text : List Char} {name : String} {extra : Nat}
    (found : reference? text = some (name, extra)) :
    ∃ reference : Reference, reference.name = name ∧ reference.text <+: text := by
  unfold reference? at found
  split at found
  · rename_i rest
    dsimp only at found
    split at found
    · rename_i _ _ first more later spelled closed
      obtain ⟨rfl, -⟩ := Prod.mk.inj (Option.some.inj found)
      obtain ⟨isName, begins⟩ := isName_leadingName (spelled ▸ List.cons_ne_nil first more)
      -- The scan took three runs off the text in turn, and came to the brace.
      have front := List.prefix_iff_eq_append.mp (List.takeWhile_prefix (l := rest) isBlank)
      have blankBefore := allBlank_takeWhile rest
      have middle := List.prefix_iff_eq_append.mp begins
      rw [List.drop_drop] at middle
      generalize rest.takeWhile isBlank = before at *
      generalize leadingName (rest.drop before.length) = name at *
      generalize rest.drop (before.length + name.length) = tail at *
      have shown := exists_prefix blankBefore isName (allBlank_takeWhile tail) later
      rwa [takeWhile_isBlank_append closed, middle, front] at shown
    · simp at found
  · simp at found

/-- A reference has its dollar sign in front and nowhere else. -/
theorem exists_text_eq (reference : Reference) :
    ∃ tail, reference.text = '$' :: tail ∧ '$' ∉ tail := by
  refine ⟨_, rfl, ?_⟩
  -- White space and names have no dollar sign, and these are all that a reference is made of.
  have before : '$' ∉ reference.before := fun inside =>
    absurd (reference.blankBefore _ inside) (by decide)
  have name : '$' ∉ reference.name.toList := fun inside =>
    absurd (reference.isName.all _ inside) (by decide)
  have after : '$' ∉ reference.after := fun inside =>
    absurd (reference.blankAfter _ inside) (by decide)
  simp [inner, before, name, after]

/-- References that are written alike are the same. -/
theorem text_injective {first second : Reference} (same : first.text = second.text) :
    first = second := by
  -- A scan finds the name, and the run of white space in front of it; what is left is behind it.
  have names : first.name = second.name := by
    have found := first.reference?_text_append []
    rw [same, second.reference?_text_append] at found
    exact (Prod.mk.inj (Option.some.inj found)).1.symm
  have inners : first.inner ++ [] = second.inner ++ [] := by
    rw [List.append_nil, List.append_nil]
    exact List.tail_eq_of_cons_eq (List.tail_eq_of_cons_eq same)
  have befores : first.before = second.before := by
    rw [← first.takeWhile_inner_append [], inners, second.takeWhile_inner_append]
  have afters : first.after = second.after := by
    rw [inner_append, inner_append, befores, names] at inners
    simpa using inners
  cases first
  cases second
  simp_all

/-- References can be told apart: each has its own dollar sign, and none begins another. -/
theorem isMarked : IsMarked Reference.text '$' where
  exists_eq := exists_text_eq
  eq_of_prefix first second := by
    rintro ⟨rest, same⟩
    -- Both are found where the longer one begins, and so they have the same length.
    have found := second.reference?_text_append []
    rw [List.append_nil, ← same, reference?_text_append] at found
    have sizes := (Prod.mk.inj (Option.some.inj found)).2
    have none : rest = [] := by
      rw [← List.length_eq_zero_iff]
      simp only [text, List.length_append, List.length_cons] at sizes
      omega
    rw [none, List.append_nil] at same
    exact text_injective same

/-- References are found where they begin, and nothing else is. -/
theorem finds : Finds reference? Reference.text Reference.name where
  found := reference?_text_append
  missing text absent := by
    -- Whatever a scan finds begins with a reference, so without one it finds nothing.
    cases scanned : reference? text with
    | none => rfl
    | some hit =>
      obtain ⟨reference, -, begins⟩ := exists_of_reference? scanned
      exact absurd begins (absent reference)

end Reference

end Titling.Title.Expression
