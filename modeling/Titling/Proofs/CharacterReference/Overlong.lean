import Titling.Proofs.CharacterReference.Decode

/-! When a text cannot be read: a decimal reference in it has more digits than a number may have. -/

namespace Titling.CharacterReference

open Titling.Decimal
open Titling.Text

/-- Tells that a text has a decimal reference with too many digits to be read. -/
def Overlong (text : List Char) : Prop :=
  ∃ front digits back, text = front ++ '&' :: '#' :: (digits ++ back) ∧
    (∀ digit ∈ digits, digit.isDigit) ∧ maxDigits < digits.length

/-- A text has every overlong reference of what it ends with. -/
theorem Overlong.of_suffix {tail text : List Char} (overlong : Overlong tail)
    (behind : tail <:+ text) : Overlong text := by
  obtain ⟨front, digits, back, rfl, all, long⟩ := overlong
  obtain ⟨before, rfl⟩ := behind
  exact ⟨before ++ front, digits, back, (List.append_assoc before front _).symm, all, long⟩

/-- A reading without an answer leaves both together without one. -/
theorem joined_eq_none {front back : Option (List Char)} :
    joined front back = none ↔ front = none ∨ back = none := by
  -- There is no answer of both as soon as one of them is missing.
  cases front <;> cases back <;> simp [joined]

/-- An overlong number is not read, whatever follows it. -/
theorem decodeChars_of_overlong {digits : List Char} (all : ∀ digit ∈ digits, digit.isDigit)
    (long : maxDigits < digits.length) (back : List Char) :
    decodeChars ('&' :: '#' :: (digits ++ back)) = none := by
  have nonempty : digits ≠ [] := by
    rintro rfl
    simp at long
  obtain ⟨first, more, rfl⟩ := List.exists_cons_of_ne_nil nonempty
  -- A digit is no mark of base sixteen, so the number is read as a decimal one.
  have noMark : ¬ (first = 'x' ∨ first = 'X') := by
    have digit := all first List.mem_cons_self
    rintro (rfl | rfl) <;> exact absurd digit (by decide)
  -- The row may go on behind the given digits, which makes it longer still.
  have row : (first :: more ++ back).takeWhile Char.isDigit =
      first :: more ++ back.takeWhile Char.isDigit := List.takeWhile_append_of_pos all
  have longer : isOverlong (first :: more ++ back.takeWhile Char.isDigit) = true := by
    simp only [isOverlong, List.length_append, decide_eq_true_eq]
    omega
  obtain ⟨extra, read⟩ : ∃ extra,
      reference? ('&' :: '#' :: (first :: more ++ back)) = some (.overlong, extra) := by
    rw [List.cons_append] at row longer ⊢
    simp only [reference?, if_neg noMark, readNumber, row]
    simp [Reference.ofDigits, longer]
  rw [decodeChars_of_found read]
  exact joined_eq_none.mpr (.inl rfl)

/-- Only a decimal reference can be found to be overlong. -/
theorem overlong_of_reference? {rest : List Char} {extra : Nat}
    (hit : reference? ('&' :: rest) = some (.overlong, extra)) : Overlong ('&' :: rest) := by
  -- The reader takes what stands behind a number sign for digits.
  by_cases numbered : ∃ mark tail, rest = '#' :: mark :: tail
  · obtain ⟨mark, tail, rfl⟩ := numbered
    simp only [reference?] at hit
    split at hit
    · -- The digits of base sixteen are never too many.
      unfold readNumber at hit
      dsimp only at hit
      split at hit <;> simp [Reference.ofDigits] at hit
    · unfold readNumber at hit
      dsimp only at hit
      split at hit
      · simp at hit
      · simp only [Reference.ofDigits, isOverlong, decide_eq_true_eq, true_and,
          Option.some.injEq, Prod.mk.injEq] at hit
        have long : maxDigits < ((mark :: tail).takeWhile Char.isDigit).length := by
          by_contra short
          simp [short] at hit
        have all := List.all_takeWhile (p := Char.isDigit) (l := mark :: tail)
        rw [List.all_eq_true] at all
        -- The digits that were read are those of the reference.
        refine ⟨[], _, (mark :: tail).dropWhile Char.isDigit, ?_, all, long⟩
        rw [List.takeWhile_append_dropWhile, List.nil_append]
  · -- Everything else is read as a name.
    have named : reference? ('&' :: rest) = readName rest := by
      rcases rest with _ | ⟨first, _ | ⟨second, tail⟩⟩
      · rfl
      · simp [reference?]
      · refine reference?_eq_readName fun other same => ?_
        exact numbered ⟨second, tail, by rw [(List.cons.inj same).1]⟩
    rw [named] at hit
    unfold readName at hit
    dsimp only at hit
    split at hit <;> simp at hit

/-- A text has no reading exactly if it has an overlong reference. -/
theorem decodeChars_eq_none_iff (text : List Char) :
    decodeChars text = none ↔ Overlong text := by
  constructor
  · -- The induction follows the reader, which goes on behind what it has read.
    intro unread
    induction size : text.length using Nat.strong_induction_on generalizing text with
    | _ size ih =>
      subst size
      match text with
      | [] => simp at unread
      | char :: rest =>
        have later : ∀ tail, tail <:+ rest → decodeChars tail = none → Overlong (char :: rest) :=
          fun tail behind unread =>
            (ih tail.length (Nat.lt_succ_of_le behind.length_le) tail unread rfl).of_suffix
              (behind.trans (List.suffix_cons char rest))
        by_cases ampersand : char = '&'
        · subst ampersand
          cases read : reference? ('&' :: rest) with
          | none =>
            rw [decodeChars_of_missing read, joined_eq_none] at unread
            exact later rest List.suffix_rfl (unread.resolve_left (by simp))
          | some hit =>
            obtain ⟨found, extra⟩ := hit
            rw [decodeChars_of_found read, joined_eq_none] at unread
            rcases unread with here | behind
            · cases found with
              | overlong => exact overlong_of_reference? read
              | number code => simp [Reference.text?] at here
              | name written => simp [Reference.text?] at here
            · exact later _ (List.drop_suffix extra rest) behind
        · rw [decodeChars_cons ampersand, joined_eq_none] at unread
          exact later rest List.suffix_rfl (unread.resolve_left (by simp))
  · rintro ⟨front, digits, back, rfl, all, long⟩
    -- Reading starts anew at the ampersand, so what stands in front cannot hide the reference.
    rw [decodeChars_append_ampersand, decodeChars_of_overlong all long, joined_eq_none]
    exact .inr rfl

/-- There is no decoded text exactly if a reference in it is overlong. -/
theorem decode?_eq_none_iff (text : String) : decode? text = none ↔ Overlong text.toList := by
  rw [decode?_eq, Option.map_eq_none_iff, decodeChars_eq_none_iff]

/-- A decimal reference with one digit too many. -/
def overlongText : String :=
  String.ofList ('&' :: '#' :: List.replicate (maxDigits + 1) '1')

/-- One digit too many is enough for there to be no reading. -/
theorem decode?_overlongText : decode? overlongText = none := by
  -- The digits are those of the text itself, with nothing around them.
  rw [decode?_eq_none_iff, overlongText, String.toList_ofList]
  refine ⟨[], List.replicate (maxDigits + 1) '1', [], by rw [List.append_nil, List.nil_append],
    fun digit inside => ?_, ?_⟩
  · rw [List.eq_of_mem_replicate inside]
    decide
  · rw [List.length_replicate]
    exact Nat.lt_succ_self maxDigits

end Titling.CharacterReference
