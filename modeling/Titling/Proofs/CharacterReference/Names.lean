import Titling.CharacterReference.Decode

/-! Names of references: what follows a known name, or a name that is unknown, is left as it is. -/

namespace Titling.CharacterReference

/-- A name that counts without its semicolon has at least two characters. -/
theorem two_le_of_unclosed {name : String} (known : name ∈ unclosedNames) : 2 ≤ name.length := by
  revert name
  decide

/-- A known name has at least two characters. -/
theorem two_le_of_named {written text : List Char} (known : named? written = some text) :
    2 ≤ written.length := by
  -- The empty text and a single character are tried; a longer text needs no look at all.
  match written with
  | [] => simp [named?, unclosedNames] at known
  | [char] =>
    by_cases stem : char.isAlphanum = true
    · -- A single letter could only count without a semicolon.
      simp only [named?, stem, List.takeWhile_cons_of_pos, List.takeWhile_nil,
        List.dropWhile_cons_of_pos, List.dropWhile_nil] at known
      split at known
      · rename_i listed
        simpa using two_le_of_unclosed listed
      · simp at known
    · simp only [named?, stem, List.takeWhile_cons_of_neg, List.dropWhile_cons_of_neg,
        not_false_eq_true, Bool.false_eq_true] at known
      split at known <;> simp [textOf?, unclosedNames] at known
  | first :: second :: rest => simp

/-- Nothing with a character in it that is no letter, digit or semicolon is a name. -/
theorem named?_of_mem {written : List Char} {char : Char} (inside : char ∈ written)
    (other : char.isAlphanum = false) (unclosing : char ≠ ';') : named? written = none := by
  -- The character stands behind the stem, where only a semicolon may be.
  have behind : char ∈ written.dropWhile Char.isAlphanum := by
    rw [← List.takeWhile_append_dropWhile (p := Char.isAlphanum) (l := written),
      List.mem_append] at inside
    refine inside.resolve_left fun stem => ?_
    have := List.all_takeWhile (p := Char.isAlphanum) (l := written)
    rw [List.all_eq_true] at this
    simp [this char stem] at other
  unfold named?
  split
  · rename_i closed
    simp [closed, unclosing] at behind
  · rename_i ended
    simp [ended] at behind
  · rfl

/-- A head that is no name is passed over. -/
theorem longestHead?_succ {written : List Char} {size : Nat}
    (unknown : named? (written.take (size + 1)) = none) :
    longestHead? written (size + 1) = longestHead? written size := by
  cases size with
  | zero => rfl
  | succ size => simp [longestHead?, unknown]

/-- Heads that end within a text are the same whatever follows that text. -/
theorem longestHead?_append (front back : List Char) {size : Nat} (within : size ≤ front.length) :
    longestHead? (front ++ back) size = (longestHead? front size).map (· ++ back) := by
  -- Induct over the length of the head; each longer one is known in both texts or in neither.
  induction size with
  | zero => rfl
  | succ size ih =>
    have head : (front ++ back).take (size + 1) = front.take (size + 1) :=
      List.take_append_of_le_length within
    cases known : named? (front.take (size + 1)) with
    | none =>
      rw [longestHead?_succ (head ▸ known), longestHead?_succ known, ih (by omega)]
    | some text =>
      match size, two_le_of_named known with
      | 0, short =>
        rw [List.length_take] at short
        omega
      | size + 1, _ =>
        simp only [longestHead?, head, known, Option.map_some]
        rw [List.drop_append_of_le_length within, List.append_assoc]

/-- Heads that reach a character which no name has are all unknown. -/
theorem longestHead?_past {char : Char} (other : char.isAlphanum = false) (unclosing : char ≠ ';')
    (front back : List Char) (further : Nat) :
    longestHead? (front ++ char :: back) (front.length + further) =
      longestHead? (front ++ char :: back) front.length := by
  induction further with
  | zero => rfl
  | succ further ih =>
    -- Every longer head takes in the character behind the front.
    have reached : char ∈ (front ++ char :: back).take (front.length + further + 1) := by
      rw [Nat.add_assoc, List.take_length_add_append]
      simp
    rw [← Nat.add_assoc, longestHead?_succ (named?_of_mem reached other unclosing), ih]

/-- A name is read up to a character which no name has, and the rest is left as it is. -/
theorem nameText_append {char : Char} (other : char.isAlphanum = false) (unclosing : char ≠ ';')
    (front back : List Char) :
    nameText (front ++ char :: back) = nameText front ++ char :: back := by
  have whole : named? (front ++ char :: back) = none :=
    named?_of_mem (List.mem_append_right front List.mem_cons_self) other unclosing
  have size : (front ++ char :: back).length - 1 = front.length + back.length := by
    simp only [List.length_append, List.length_cons]
    omega
  simp only [nameText, whole, size, longestHead?_past other unclosing]
  cases known : named? front with
  | some text =>
    -- The whole front is the longest head that is known.
    obtain ⟨size, long⟩ := Nat.exists_eq_add_of_le' (two_le_of_named known)
    have full : (front ++ char :: back).take (size + 2) = front := by
      rw [← long, List.take_left']
      rfl
    simp only [long, longestHead?, full, known, Option.getD_some]
    rw [← long, List.drop_left' rfl]
  | none =>
    -- Otherwise the heads of the front decide, in both texts alike.
    have heads : longestHead? (front ++ char :: back) front.length =
        (longestHead? front (front.length - 1)).map (· ++ char :: back) := by
      rw [longestHead?_append front (char :: back) (Nat.le_refl _)]
      cases long : front.length with
      | zero => rfl
      | succ size =>
        have full : front.take (size + 1) = front := List.take_of_length_le (by omega)
        rw [longestHead?_succ (by rw [full]; exact known)]
        rfl
    rw [heads]
    cases longestHead? front (front.length - 1) <;> rfl

end Titling.CharacterReference
