import Mathlib.Data.List.TakeWhile
import Titling.Text.Blank
import Titling.Text.Word

/-! White space: it is apart from the characters of names, and trimming takes it off both ends. -/

namespace Titling.Text

/-- A character in one of some ranges is in none of others that lie apart from them. -/
theorem inRanges_eq_false {first second : List Range}
    (apart : ∀ one ∈ first, ∀ other ∈ second, one.2 < other.1 ∨ other.2 < one.1) {char : Char}
    (inside : inRanges first char = true) : inRanges second char = false := by
  rw [inRanges, List.any_eq_true] at inside
  obtain ⟨one, known, within⟩ := inside
  -- Two ranges that lie apart cannot both have the character.
  rw [inRanges, List.any_eq_false]
  intro other listed
  have := apart one known other listed
  simp only [Bool.and_eq_true, decide_eq_true_eq] at within ⊢
  omega

/-- The ASCII characters of words: digits, capital letters, the underscore, small letters. -/
def asciiWordRanges : List Range :=
  [(0x30, 0x39), (0x41, 0x5A), (0x5F, 0x5F), (0x61, 0x7A)]

/-- A letter, a digit or an underscore lies in one of four ranges. -/
theorem inRanges_asciiWordRanges {char : Char}
    (ascii : char.isAlphanum = true ∨ char = '_') : inRanges asciiWordRanges char = true := by
  rcases ascii with alphanumeric | rfl
  -- The library asks for the same ranges, in another order.
  · change (((0x41 ≤ char.val ∧ char.val ≤ 0x5A : Bool) ||
      (0x61 ≤ char.val && char.val ≤ 0x7A)) ||
      (0x30 ≤ char.val && char.val ≤ 0x39)) = true at alphanumeric
    simp only [Bool.or_eq_true, Bool.and_eq_true, decide_eq_true_eq] at alphanumeric
    change ((0x41 ≤ char.toNat ∧ char.toNat ≤ 0x5A) ∨ (0x61 ≤ char.toNat ∧ char.toNat ≤ 0x7A)) ∨
      (0x30 ≤ char.toNat ∧ char.toNat ≤ 0x39) at alphanumeric
    simp only [inRanges, asciiWordRanges, List.any_cons, List.any_nil, Bool.or_eq_true,
      Bool.and_eq_true, decide_eq_true_eq, Bool.false_eq_true]
    omega
  · decide

/-- White space is no part of a word. -/
theorem isWord_of_isBlank {char : Char} (blank : isBlank char = true) : isWord char = false := by
  have ascii : inRanges asciiWordRanges char = false :=
    inRanges_eq_false (by decide) blank
  have other : inRanges wordRanges char = false :=
    inRanges_eq_false (by decide +kernel) blank
  rw [isWord, other, Bool.and_false, Bool.or_false]
  -- An ASCII character of a word would lie in one of the four ranges.
  rw [Bool.eq_false_iff]
  intro word
  rw [Bool.or_eq_true, beq_iff_eq] at word
  rw [inRanges_asciiWordRanges word] at ascii
  contradiction

/-- Tells that all characters of a text are white space. -/
def AllBlank (text : List Char) : Prop :=
  ∀ char ∈ text, isBlank char = true

instance : DecidablePred AllBlank :=
  fun text => List.decidableBAll _ text

/-- A run of white space is all white space. -/
theorem allBlank_takeWhile (text : List Char) : AllBlank (text.takeWhile isBlank) :=
  List.all_eq_true.mp List.all_takeWhile

/-- A text is the white space that it begins with, and what is left behind that. -/
theorem takeWhile_isBlank_append {text rest : List Char}
    (left : text.drop (text.takeWhile isBlank).length = rest) :
    text.takeWhile isBlank ++ rest = text := by
  rw [← left]
  exact List.prefix_iff_eq_append.mp (List.takeWhile_prefix isBlank)

/-- White space around a text is trimmed off. -/
theorem trim_append {before after : List Char} (blankBefore : AllBlank before)
    (blankAfter : AllBlank after) (text : List Char) :
    trim (before ++ text ++ after) = trim text := by
  -- White space in front is dropped at once; that behind is dropped when the text is reversed.
  rw [trim, trim, List.append_assoc, List.dropWhile_append_of_pos blankBefore,
    List.dropWhile_append]
  split
  · -- Nothing but white space stands in the text, and so nothing is left of either.
    rename_i empty
    rw [List.isEmpty_iff.mp empty, List.dropWhile_eq_nil_iff.mpr blankAfter]
  · rw [List.reverse_append, List.dropWhile_append_of_pos]
    intro char known
    exact blankAfter char (List.mem_reverse.mp known)

/-- Tells that an expression is a text with any white space around it. -/
def Padded (text expression : String) : Prop :=
  ∃ before after, AllBlank before ∧ AllBlank after ∧
    expression.toList = before ++ text.toList ++ after

/-- A padded text is trimmed as the text is. -/
theorem Padded.trim {text expression : String} (padded : Padded text expression) :
    trim expression.toList = Text.trim text.toList := by
  obtain ⟨before, after, blankBefore, blankAfter, written⟩ := padded
  rw [written, trim_append blankBefore blankAfter]

end Titling.Text
