import Mathlib.Data.List.TakeWhile
import Mathlib.Data.Option.NAry
import Titling.Proofs.CharacterReference.Names

/-! Reading references is local: text in front of a separating character is read by itself. -/

namespace Titling.CharacterReference

open Titling.Decimal
open Titling.Text

/-- The characters that a text stands for once its references are read. -/
def decodeChars (text : List Char) : Option (List Char) :=
  expand (Piece.split reference? text)

/-- Two readings in turn; if either has no answer, both together have none. -/
def joined (front back : Option (List Char)) : Option (List Char) :=
  Option.map₂ (· ++ ·) front back

@[simp] theorem joined_some (front back : List Char) :
    joined (some front) (some back) = some (front ++ back) := rfl

/-- An empty reading in front changes nothing. -/
@[simp] theorem joined_nil (back : Option (List Char)) : joined (some []) back = back := by
  cases back <;> rfl

/-- Joining readings is associative, as joining texts is. -/
theorem joined_assoc (front middle back : Option (List Char)) :
    joined (joined front middle) back = joined front (joined middle back) :=
  Option.map₂_assoc List.append_assoc

/-- Decoding a text is reading its characters. -/
theorem decode?_eq (text : String) :
    decode? text = (decodeChars text.toList).map String.ofList := rfl

/-- The empty text reads as itself. -/
@[simp] theorem decodeChars_nil : decodeChars [] = some [] := rfl

/-- Only an ampersand begins a reference. -/
theorem reference?_of_ne {char : Char} (other : char ≠ '&') (rest : List Char) :
    reference? (char :: rest) = none := by
  -- The patterns that read a reference begin with an ampersand.
  unfold reference?
  split
  · rename_i same; exact absurd (List.cons.inj same).1 other
  · rename_i same; exact absurd (List.cons.inj same).1 other
  · rfl

/-- Any character but an ampersand stands for itself. -/
theorem decodeChars_cons {char : Char} (other : char ≠ '&') (rest : List Char) :
    decodeChars (char :: rest) = joined (some [char]) (decodeChars rest) := by
  unfold decodeChars
  rw [Piece.split_cons_none (reference?_of_ne other rest), expand]
  cases expand (Piece.split reference? rest) <;> rfl

/-- An ampersand that begins no reference stands for itself. -/
theorem decodeChars_of_missing {rest : List Char} (missing : reference? ('&' :: rest) = none) :
    decodeChars ('&' :: rest) = joined (some ['&']) (decodeChars rest) := by
  unfold decodeChars
  rw [Piece.split_cons_none missing, expand]
  cases expand (Piece.split reference? rest) <;> rfl

/-- A reference stands for its text, and reading goes on behind it. -/
theorem decodeChars_of_found {rest : List Char} {found : Reference} {extra : Nat}
    (hit : reference? ('&' :: rest) = some (found, extra)) :
    decodeChars ('&' :: rest) = joined found.text? (decodeChars (rest.drop extra)) := by
  unfold decodeChars
  rw [Piece.split_cons_some hit, expand]
  cases found.text? <;> cases expand (Piece.split reference? (rest.drop extra)) <;> rfl

/-- A text without ampersands stands for itself in front of any other text. -/
theorem decodeChars_append_of_plain {front : List Char} (plain : '&' ∉ front)
    (back : List Char) :
    decodeChars (front ++ back) = joined (some front) (decodeChars back) := by
  -- Induct over the characters in front, of which none begins a reference.
  induction front with
  | nil => simp
  | cons char rest ih =>
    simp only [List.mem_cons, not_or] at plain
    rw [List.cons_append, decodeChars_cons (Ne.symm plain.1), ih plain.2, ← joined_assoc]
    rfl

/-- Tells that a character can stand in no reference but within an unknown name. -/
def Separates (char : Char) : Prop :=
  char.isAlphanum = false ∧ char ≠ ';' ∧ char ≠ '#'

instance : DecidablePred Separates :=
  fun char => inferInstanceAs (Decidable (char.isAlphanum = false ∧ char ≠ ';' ∧ char ≠ '#'))

/-- Hexadecimal digits are letters or digits, so no separating character is one. -/
theorem Separates.not_isHexDigit {char : Char} (separates : Separates char) :
    isHexDigit char = false := by
  -- A character that is neither letter nor digit is in none of the three ranges.
  have other : ((char.isUpper || char.isLower) || char.isDigit) = false := separates.1
  rw [Bool.or_eq_false_iff, Bool.or_eq_false_iff] at other
  obtain ⟨⟨upper, lower⟩, digit⟩ := other
  have noCapital : ¬ ('A'.val ≤ char.val ∧ char.val ≤ 'Z'.val) := of_decide_eq_false upper
  have noSmall : (decide ('a'.val ≤ char.val) && decide (char.val ≤ 'z'.val)) = false := lower
  simp only [Bool.and_eq_false_iff, decide_eq_false_iff_not, UInt32.le_iff_toNat_le]
    at noCapital noSmall
  simp only [isHexDigit, Bool.or_eq_false_iff, Bool.and_eq_false_iff, decide_eq_false_iff_not,
    Char.le_def, UInt32.le_iff_toNat_le, digit, true_and]
  -- Both ranges of hexadecimal letters lie within the ranges of all letters.
  have capitals : 'A'.val.toNat = 65 ∧ 'F'.val.toNat = 70 ∧ 'Z'.val.toNat = 90 := by decide
  have smalls : 'a'.val.toNat = 97 ∧ 'f'.val.toNat = 102 ∧ 'z'.val.toNat = 122 := by decide
  omega

/-- A separating character ends no reference. -/
theorem closing_append {char : Char} (unclosing : char ≠ ';') (front back : List Char) :
    closing (front ++ char :: back) = closing front := by
  cases front with
  -- The cases are those of the text behind the ampersand: only its first character counts.
  | nil => unfold closing; split <;> simp_all
  | cons first rest => unfold closing; split <;> simp_all

/-- A semicolon is counted only where one is. -/
theorem closing_le (text : List Char) : closing text ≤ text.length := by
  unfold closing
  split <;> simp

/-- A row of digits ends before a character that is no digit. -/
theorem readNumber_append {base mark : Nat} {isDigit : Char → Bool} {char : Char}
    (stop : isDigit char = false) (unclosing : char ≠ ';') (front back : List Char) :
    readNumber base mark isDigit (front ++ char :: back) = readNumber base mark isDigit front := by
  -- The row of digits ends in the front, or at the character behind it.
  have digits : (front ++ char :: back).takeWhile isDigit = front.takeWhile isDigit := by
    rw [List.takeWhile_append]
    split
    · rename_i whole
      rw [List.takeWhile_cons_of_neg (by simp [stop]), List.append_nil]
      exact ((List.takeWhile_prefix isDigit).eq_of_length whole).symm
    · rfl
  have within : (front.takeWhile isDigit).length ≤ front.length :=
    (List.takeWhile_prefix isDigit).length_le
  simp only [readNumber, digits]
  rw [List.drop_append_of_le_length within, closing_append unclosing]

/-- The row of characters that is tried as a name. -/
def nameRun (text : List Char) : List Char :=
  (text.take longestName).takeWhile isNameChar

/-- The row is no longer than the text or than the longest name. -/
theorem nameRun_length_le (text : List Char) :
    (nameRun text).length ≤ text.length ∧ (nameRun text).length ≤ longestName := by
  -- The row is cut from a text that was cut to the length of the longest name.
  have run := (List.takeWhile_prefix (l := text.take longestName) isNameChar).length_le
  rw [List.length_take] at run
  unfold nameRun
  omega

/-- Tells that a text may be cut in the middle of a row that is tried as a name. -/
def IsOpenName (text : List Char) : Prop :=
  text.length < longestName ∧ ∀ char ∈ text, isNameChar char

instance : DecidablePred IsOpenName := fun text =>
  decidable_of_iff (text.length < longestName ∧ text.all isNameChar = true)
    (by rw [List.all_eq_true, IsOpenName])

/-- A row that ends before its text does is not changed by what follows the text. -/
theorem nameRun_append_of_closed {front : List Char} (closed : ¬ IsOpenName front)
    (back : List Char) : nameRun (front ++ back) = nameRun front := by
  unfold nameRun
  rcases Nat.lt_or_ge front.length longestName with short | long
  · -- Some character of the front is none of a name, and the row ends at it.
    rw [List.take_append, List.take_of_length_le (Nat.le_of_lt short), List.takeWhile_append]
    split
    · rename_i whole
      have all := List.all_takeWhile (p := isNameChar) (l := front)
      rw [(List.takeWhile_prefix isNameChar).eq_of_length whole, List.all_eq_true] at all
      exact absurd ⟨short, all⟩ closed
    · rfl
  · rw [List.take_append_of_le_length long]

/-- No row goes on with a character that no name has. -/
theorem nameRun_append_of_stop {char : Char} (stop : isNameChar char = false)
    (front back : List Char) : nameRun (front ++ char :: back) = nameRun front := by
  unfold nameRun
  rw [List.take_append, List.takeWhile_append]
  split
  · rename_i whole
    -- The row takes in the whole front and stops at once behind it.
    have none : ((char :: back).take (longestName - front.length)).takeWhile isNameChar = [] := by
      cases longestName - front.length with
      | zero => rfl
      | succ size => simp [stop]
    rw [none, List.append_nil]
    exact ((List.takeWhile_prefix isNameChar).eq_of_length whole).symm
  · rfl

/-- A name is the row of its characters with the semicolon behind them, if there is one. -/
theorem readName_eq {text : List Char} (nonempty : nameRun text ≠ []) :
    readName text =
      some (.name (text.take
          ((nameRun text).length + closing (text.drop (nameRun text).length))),
        (nameRun text).length + closing (text.drop (nameRun text).length)) := by
  have filled : (nameRun text).isEmpty = false := by simpa using nonempty
  unfold nameRun at filled ⊢
  simp [readName, filled]

/-- A name whose row is the same is the same name. -/
theorem readName_append {char : Char} (unclosing : char ≠ ';') {front back : List Char}
    (same : nameRun (front ++ char :: back) = nameRun front) :
    readName (front ++ char :: back) = readName front := by
  have within := (nameRun_length_le front).1
  have ending := closing_le (front.drop (nameRun front).length)
  rw [List.length_drop] at ending
  unfold nameRun at same within ending
  -- The row is the same, and no semicolon has come to stand behind it.
  simp only [readName, same]
  rw [List.drop_append_of_le_length within, closing_append unclosing,
    List.take_append_of_le_length (by omega)]

/-- Without a number sign behind the ampersand a reference is read as a name. -/
theorem reference?_eq_readName {rest : List Char} (named : ∀ tail, rest ≠ '#' :: tail) :
    reference? ('&' :: rest) = readName rest := by
  match rest with
  -- The reader looks at two characters before it takes the rest for a name.
  | [] => rfl
  | [char] => simp [reference?]
  | first :: second :: tail =>
    have other : first ≠ '#' := fun same => named (second :: tail) (by rw [same])
    simp [reference?, other]

/-- A number takes no more characters than its mark and the text behind it have. -/
theorem readNumber_within {base mark : Nat} {isDigit : Char → Bool} {text : List Char}
    {found : Reference} {extra : Nat}
    (read : readNumber base mark isDigit text = some (found, extra)) :
    extra ≤ mark + text.length := by
  have within := (List.takeWhile_prefix (l := text) isDigit).length_le
  have ending := closing_le (text.drop (text.takeWhile isDigit).length)
  rw [List.length_drop] at ending
  -- The digits are no more than the text has, and a semicolon is counted only where it stands.
  unfold readNumber at read
  dsimp only at read
  split at read
  · simp at read
  · simp only [Option.some.injEq, Prod.mk.injEq] at read
    omega

/-- A name takes no more characters than its text has. -/
theorem readName_within {text : List Char} {found : Reference} {extra : Nat}
    (read : readName text = some (found, extra)) : extra ≤ text.length := by
  have within := (nameRun_length_le text).1
  have ending := closing_le (text.drop (nameRun text).length)
  rw [List.length_drop] at ending
  -- As for numbers: the run is in the text, and a semicolon is counted only where it stands.
  unfold nameRun at within ending
  unfold readName at read
  dsimp only at read
  split at read
  · simp at read
  · simp only [Option.some.injEq, Prod.mk.injEq] at read
    omega

/-- A reference takes no more characters than there are. -/
theorem reference?_within {rest : List Char} {found : Reference} {extra : Nat}
    (hit : reference? ('&' :: rest) = some (found, extra)) : extra ≤ rest.length := by
  -- The number sign decides whether digits or a name is read.
  by_cases numbered : ∃ tail, rest = '#' :: tail
  · obtain ⟨tail, rfl⟩ := numbered
    match tail with
    | [] => exact readName_within hit
    | mark :: more =>
      simp only [reference?] at hit
      split at hit
      · have := readNumber_within hit
        simp only [List.length_cons]
        omega
      · have := readNumber_within hit
        simp only [List.length_cons] at this ⊢
        omega
  · rw [reference?_eq_readName fun tail same => numbered ⟨tail, same⟩] at hit
    exact readName_within hit

/-- A reference is the same with a separating character behind it, unless it is an open name. -/
theorem reference?_append {char : Char} (separates : Separates char) {front : List Char}
    (closed : isNameChar char = false ∨ ¬ IsOpenName front) (back : List Char) :
    reference? ('&' :: (front ++ char :: back)) = reference? ('&' :: front) := by
  have run : nameRun (front ++ char :: back) = nameRun front := by
    rcases closed with stop | closed
    · exact nameRun_append_of_stop stop front back
    · exact nameRun_append_of_closed closed (char :: back)
  -- Digits end at the separating character, and names where their row ends.
  by_cases numbered : ∃ tail, front = '#' :: tail
  · obtain ⟨tail, rfl⟩ := numbered
    have noHex := separates.not_isHexDigit
    have noDigit : char.isDigit = false := by
      simp only [isHexDigit, Bool.or_eq_false_iff] at noHex
      exact noHex.1.1
    cases tail with
    | nil =>
      -- The separating character is neither a digit nor a mark of base sixteen.
      have noMark : ¬ (char = 'x' ∨ char = 'X') := by
        rintro (rfl | rfl) <;> exact absurd separates.1 (by decide)
      have alone : reference? ['&', '#'] = none := by decide
      rw [alone]
      simp [reference?, noMark, readNumber, noDigit]
    | cons mark more =>
      simp only [List.cons_append, reference?]
      split
      · exact readNumber_append noHex separates.2.1 more back
      · exact readNumber_append noDigit separates.2.1 (mark :: more) back
  · have named : ∀ tail, front ≠ '#' :: tail := fun tail same => numbered ⟨tail, same⟩
    have still : ∀ tail, front ++ char :: back ≠ '#' :: tail := by
      intro tail same
      cases front with
      | nil => exact separates.2.2 (List.cons.inj same).1
      | cons first rest => exact named rest (by rw [(List.cons.inj same).1])
    rw [reference?_eq_readName still, reference?_eq_readName named,
      readName_append separates.2.1 run]

/-- Where no reference of the front sees what follows, both texts are read by themselves. -/
theorem decodeChars_append_of_stable {front : List Char} (back : List Char)
    (stable : ∀ rest, '&' :: rest <:+ front →
      reference? ('&' :: (rest ++ back)) = reference? ('&' :: rest)) :
    decodeChars (front ++ back) = joined (decodeChars front) (decodeChars back) := by
  match front with
  | [] => simp
  | char :: rest =>
    -- Reading goes on behind each piece, so shorter fronts are settled first.
    have later : ∀ tail, tail <:+ rest →
        decodeChars (tail ++ back) = joined (decodeChars tail) (decodeChars back) := by
      intro tail behind
      have := behind.length_le
      exact decodeChars_append_of_stable back fun inner within =>
        stable inner (within.trans (behind.trans (List.suffix_cons char rest)))
    -- The first character begins a reference, or it stands for itself.
    by_cases ampersand : char = '&'
    · subst ampersand
      have here := stable rest List.suffix_rfl
      cases read : reference? ('&' :: rest) with
      | none =>
        rw [List.cons_append, decodeChars_of_missing (here.trans read),
          decodeChars_of_missing read, later rest List.suffix_rfl, joined_assoc]
      | some hit =>
        obtain ⟨found, extra⟩ := hit
        rw [List.cons_append, decodeChars_of_found (here.trans read), decodeChars_of_found read,
          List.drop_append_of_le_length (reference?_within read),
          later _ (List.drop_suffix extra rest), joined_assoc]
    · rw [List.cons_append, decodeChars_cons ampersand, decodeChars_cons ampersand,
        later rest List.suffix_rfl, joined_assoc]
termination_by front.length

/-- An ampersand separates from what stands before it. -/
theorem separates_ampersand : Separates '&' := by decide

/-- Reading starts anew at every ampersand. -/
theorem decodeChars_append_ampersand (front back : List Char) :
    decodeChars (front ++ '&' :: back) =
      joined (decodeChars front) (decodeChars ('&' :: back)) :=
  decodeChars_append_of_stable _ fun _ _ =>
    reference?_append separates_ampersand (.inl (by decide)) back

/-- No ampersand is taken as the end of a name. -/
theorem not_mem_take_closing (text : List Char) : '&' ∉ text.take (closing text) := by
  unfold closing
  split <;> simp

/-- An open name goes on with a name's character, and then takes in no ampersand. -/
theorem readName_of_open {char : Char} {front : List Char} (isOpen : IsOpenName front)
    (going : isNameChar char = true) (back : List Char) :
    ∃ size, '&' ∉ back.take size ∧
      readName (front ++ char :: back) =
        some (.name (front ++ char :: back.take size), front.length + 1 + size) := by
  obtain ⟨short, all⟩ := isOpen
  obtain ⟨room, enough⟩ := Nat.exists_eq_add_of_lt short
  -- The row goes on behind the character as far as there is room for a name.
  let more := (back.take room).takeWhile isNameChar
  have within : more <+: back := (List.takeWhile_prefix _).trans (List.take_prefix room back)
  have run : nameRun (front ++ char :: back) = front ++ char :: more := by
    have left : longestName - front.length = room + 1 := by omega
    unfold nameRun
    rw [List.take_append, List.take_of_length_le (Nat.le_of_lt short), left,
      List.take_succ_cons, List.takeWhile_append_of_pos all,
      List.takeWhile_cons_of_pos going]
  obtain ⟨later, split⟩ := within
  have size : (front ++ char :: more).length = front.length + 1 + more.length := by
    simp only [List.length_append, List.length_cons]
    omega
  have drop : (front ++ char :: back).drop (front.length + 1 + more.length) = later := by
    rw [← split, ← size, ← List.cons_append, ← List.append_assoc, List.drop_left]
  refine ⟨more.length + closing later, ?_, ?_⟩
  · -- What is taken is the rest of the row, with the semicolon behind it if there is one.
    rw [← split, List.take_length_add_append, List.mem_append, not_or]
    refine ⟨fun inside => ?_, not_mem_take_closing later⟩
    have names := List.all_takeWhile (p := isNameChar) (l := back.take room)
    rw [List.all_eq_true] at names
    exact absurd (names '&' inside) (by decide)
  · have taken : (front ++ char :: back).take (front.length + 1 + (more.length + closing later)) =
        front ++ char :: back.take (more.length + closing later) := by
      rw [Nat.add_assoc, List.take_length_add_append, Nat.add_comm 1, List.take_succ_cons]
    rw [readName_eq (by simp [run]), run, size, drop, Nat.add_assoc _ more.length, taken]

/-- An open name that nothing follows is read as far as it goes. -/
theorem decodeChars_of_open {front : List Char} (isOpen : IsOpenName front) :
    decodeChars ('&' :: front) = some (nameText front) := by
  -- The name goes on to the end of the text, so the reader never comes upon a number sign.
  obtain ⟨short, all⟩ := isOpen
  have named : ∀ tail, front ≠ '#' :: tail := by
    rintro tail rfl
    exact absurd (all '#' List.mem_cons_self) (by decide)
  cases front with
  | nil => decide +kernel
  | cons first rest =>
    -- The whole text is one row, and no semicolon stands behind it.
    have run : nameRun (first :: rest) = first :: rest := by
      unfold nameRun
      rw [List.take_of_length_le (Nat.le_of_lt short)]
      exact List.takeWhile_eq_self_iff.mpr all
    have read : readName (first :: rest) =
        some (.name (first :: rest), (first :: rest).length) := by
      rw [readName_eq (by simp [run]), run, List.drop_length]
      simp [closing]
    rw [decodeChars_of_found ((reference?_eq_readName named).trans read), List.drop_length]
    simp [Reference.text?]

/-- A name that its semicolon ends is read without a look at what follows. -/
theorem decodeChars_closedName (stem rest : List Char) (isOpen : IsOpenName stem)
    (nonempty : stem ≠ []) :
    decodeChars ('&' :: (stem ++ ';' :: rest)) =
      joined (some (nameText (stem ++ [';']))) (decodeChars rest) := by
  -- Were the stem a number, its first character would be a number sign, which no name has.
  obtain ⟨short, all⟩ := isOpen
  have named : ∀ tail, stem ++ ';' :: rest ≠ '#' :: tail := by
    intro tail same
    obtain ⟨first, more, rfl⟩ := List.exists_cons_of_ne_nil nonempty
    have := all first List.mem_cons_self
    rw [(List.cons.inj same).1] at this
    exact absurd this (by decide)
  -- A semicolon belongs to no name, so the row is the stem.
  have run : nameRun (stem ++ ';' :: rest) = stem := by
    rw [nameRun_append_of_stop (by decide), nameRun,
      List.take_of_length_le (Nat.le_of_lt short)]
    exact List.takeWhile_eq_self_iff.mpr all
  have read : readName (stem ++ ';' :: rest) =
      some (.name (stem ++ [';']), (stem ++ [';']).length) := by
    rw [readName_eq (by simpa [run] using nonempty), run, List.drop_left]
    simp [closing, List.take_length_add_append]
  rw [decodeChars_of_found ((reference?_eq_readName named).trans read)]
  simp [Reference.text?, List.drop_length_add_append]

/-- Digits that a semicolon ends are read without a look at what follows. -/
theorem readNumber_closed {base mark : Nat} {isDigit : Char → Bool} {digits : List Char}
    (all : ∀ char ∈ digits, isDigit char) (stop : isDigit ';' = false) (nonempty : digits ≠ [])
    (rest : List Char) :
    readNumber base mark isDigit (digits ++ ';' :: rest) =
      some (.ofDigits base digits, mark + digits.length + 1) := by
  -- A semicolon is no digit, so the row ends in front of it.
  have run : (digits ++ ';' :: rest).takeWhile isDigit = digits := by
    rw [List.takeWhile_append_of_pos all, List.takeWhile_cons_of_neg (by simp [stop]),
      List.append_nil]
  simp [readNumber, run, nonempty, closing]

/-- A decimal number that its semicolon ends stands for its text. -/
theorem decodeChars_closedDecimal (digits rest : List Char)
    (all : ∀ char ∈ digits, char.isDigit) (nonempty : digits ≠ []) :
    decodeChars ('&' :: '#' :: (digits ++ ';' :: rest)) =
      joined (Reference.ofDigits 10 digits).text? (decodeChars rest) := by
  obtain ⟨first, more, rfl⟩ := List.exists_cons_of_ne_nil nonempty
  -- A digit is no mark of base sixteen.
  have noMark : ¬ (first = 'x' ∨ first = 'X') := by
    have := all first List.mem_cons_self
    rintro (rfl | rfl) <;> exact absurd this (by decide)
  have read : reference? ('&' :: '#' :: (first :: more ++ ';' :: rest)) =
      some (.ofDigits 10 (first :: more), 1 + (first :: more).length + 1) := by
    simp only [List.cons_append, reference?, if_neg noMark]
    exact readNumber_closed all (by decide) nonempty rest
  rw [decodeChars_of_found read]
  have size : 1 + (first :: more).length + 1 = (first :: more).length + 1 + 1 := by omega
  rw [size, List.drop_succ_cons, List.drop_length_add_append]
  rfl

/-- A hexadecimal number that its semicolon ends stands for its text. -/
theorem decodeChars_closedHex (digits rest : List Char)
    (all : ∀ char ∈ digits, isHexDigit char) (nonempty : digits ≠ []) :
    decodeChars ('&' :: '#' :: 'x' :: (digits ++ ';' :: rest)) =
      joined (Reference.ofDigits 16 digits).text? (decodeChars rest) := by
  have read : reference? ('&' :: '#' :: 'x' :: (digits ++ ';' :: rest)) =
      some (.ofDigits 16 digits, 2 + digits.length + 1) := by
    simp only [reference?]
    exact readNumber_closed all (by decide) nonempty rest
  rw [decodeChars_of_found read]
  -- The two marks, the digits and the semicolon are taken; what stands behind them is left.
  have size : 2 + digits.length + 1 = digits.length + 1 + 1 + 1 := by omega
  rw [size, List.drop_succ_cons, List.drop_succ_cons, List.drop_length_add_append]
  rfl

/--
Text in front of a separating character is read by itself.

An unfinished name may run on over the character, but then what follows is left as it is.
-/
theorem decodeChars_append {char : Char} (separates : Separates char) (front back : List Char) :
    decodeChars (front ++ char :: back) =
      joined (decodeChars front) (decodeChars (char :: back)) := by
  by_cases running : isNameChar char = true ∧ ∃ rest, '&' :: rest <:+ front ∧ IsOpenName rest
  · obtain ⟨going, rest, ⟨outer, rfl⟩, isOpen⟩ := running
    have ampersand : char ≠ '&' := by rintro rfl; exact absurd going (by decide)
    have named : ∀ tail, rest ++ char :: back ≠ '#' :: tail := by
      intro tail same
      cases rest with
      | nil => exact separates.2.2 (List.cons.inj same).1
      | cons first more =>
        have := isOpen.2 first List.mem_cons_self
        rw [(List.cons.inj same).1] at this
        exact absurd this (by decide)
    obtain ⟨size, plain, read⟩ := readName_of_open isOpen going back
    -- What the name takes in beyond the character holds no reference of its own.
    have tail : decodeChars (char :: back) =
        joined (some (char :: back.take size)) (decodeChars (back.drop size)) := by
      rw [← decodeChars_append_of_plain (by simp [plain, Ne.symm ampersand]), List.cons_append,
        List.take_append_drop]
    have inner : decodeChars ('&' :: (rest ++ char :: back)) =
        joined (some (nameText rest)) (decodeChars (char :: back)) := by
      rw [decodeChars_of_found ((reference?_eq_readName named).trans read), tail, ← joined_assoc,
        joined_some, ← nameText_append separates.1 separates.2.1, Nat.add_assoc,
        List.drop_length_add_append, Nat.add_comm 1, List.drop_succ_cons]
      rfl
    rw [List.append_assoc, List.cons_append, decodeChars_append_ampersand, inner,
      decodeChars_append_ampersand, decodeChars_of_open isOpen, joined_assoc]
  · -- Here no open name reaches the separating character, so every reference stays as it is.
    refine decodeChars_append_of_stable _ fun rest behind => ?_
    refine reference?_append separates ?_ back
    by_cases going : isNameChar char = true
    · exact .inr fun isOpen => running ⟨going, rest, behind, isOpen⟩
    · exact .inl (by simpa using going)

end Titling.CharacterReference
