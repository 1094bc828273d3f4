import Mathlib.Data.List.TakeWhile
import Titling.Message.Format
import Titling.Proofs.Dictionary

/-!
Plain templates: literal text with each brace doubled, between fields that are names and no more.

Such a template is read as it was written, and its fields are filled with the plain texts of values.
-/

namespace Titling.Message

open Titling.Text

/-- The marks of a template that a plain name has none of. -/
def marks : List Char :=
  ['\x7b', '\x7d', '[', ']', '.', ':', '!']

/--
Tells that a name can be a field without anything else: it has no mark in it, and does not begin as
a number does. Every identifier is such a name.
-/
structure IsPlainName (name : List Char) : Prop where
  nonempty : name ≠ []
  letter : ∀ first ∈ name.head?, isDecimalDigit first = false
  unmarked : ∀ char ∈ name, char ∉ marks

/-- Tells whether a name is plain by looking at each of its characters. -/
theorem isPlainName_iff (name : List Char) :
    (!name.isEmpty && name.head?.all (!isDecimalDigit ·) && name.all (· ∉ marks)) = true ↔
      IsPlainName name := by
  simp only [Bool.and_eq_true, Bool.not_eq_true', List.isEmpty_eq_false_iff, Option.all_eq_true,
    List.all_eq_true, decide_eq_true_eq, and_assoc]
  exact ⟨fun ⟨nonempty, letter, unmarked⟩ => ⟨nonempty, letter, unmarked⟩,
    fun ⟨nonempty, letter, unmarked⟩ => ⟨nonempty, letter, unmarked⟩⟩

instance (name : List Char) : Decidable (IsPlainName name) :=
  decidable_of_iff _ (isPlainName_iff name)

/-- A part of a plain template. -/
inductive Part where
  | literal (text : String)
  | field (name : String)
deriving DecidableEq, Repr

namespace Part

/-- A character as literal text has it; a brace is written twice. -/
def spelled (char : Char) : List Char :=
  if char = '\x7b' ∨ char = '\x7d' then [char, char] else [char]

/-- A part as a template has it. -/
def written : Part → List Char
  | .literal text => text.toList.flatMap spelled
  | .field name => '\x7b' :: (name.toList ++ ['\x7d'])

/-- Tells that a part is plain, which every literal text is. -/
def IsPlain : Part → Prop
  | .literal _ => True
  | .field name => IsPlainName name.toList

instance : DecidablePred IsPlain
  | .literal _ => inferInstanceAs (Decidable True)
  | .field name => inferInstanceAs (Decidable (IsPlainName name.toList))

/-- What a part stands for: a literal text for itself, and a field for the text under its name. -/
def text (texts : Dictionary String) : Part → String
  | .literal text => text
  | .field name => (texts.get? name).getD ""

end Part

/-- The template that is written from parts. -/
def templateOf (parts : List Part) : String :=
  String.ofList (parts.flatMap Part.written)

/-- Texts as the values of a message. -/
def textArguments (texts : Dictionary String) : Arguments :=
  texts.map fun entry => (entry.1, .text entry.2)

/-- A piece for a character of literal text: a brace is found as one that was doubled. -/
def literalPiece (char : Char) : Piece Item :=
  if char = '\x7b' ∨ char = '\x7d' then .found (.brace char) else .plain char

section Reading

/-- A character of literal text is read as itself, whatever follows it. -/
theorem split_spelled (char : Char) (rest : List Char) :
    Piece.split item? (Part.spelled char ++ rest) =
      literalPiece char :: Piece.split item? rest := by
  unfold Part.spelled literalPiece
  by_cases brace : char = '\x7b' ∨ char = '\x7d'
  · rw [if_pos brace, if_pos brace]
    have doubled : item? (char :: char :: rest) = some (.brace char, 1) := by
      rcases brace with rfl | rfl <;> rfl
    exact Piece.split_cons_some doubled
  · rw [if_neg brace, if_neg brace]
    obtain ⟨notOpen, notClose⟩ := not_or.mp brace
    refine Piece.split_cons_none ?_
    -- Only a brace begins an item.
    unfold item?
    split <;> simp_all

/-- Literal text is read as itself, with single braces. -/
theorem split_literal (text rest : List Char) :
    Piece.split item? (text.flatMap Part.spelled ++ rest) =
      text.map literalPiece ++ Piece.split item? rest := by
  -- A character is one piece in its own right, so the induction is on the characters.
  induction text with
  | nil => rfl
  | cons char text ih =>
    rw [List.flatMap_cons, List.append_assoc, split_spelled, ih]
    rfl

/-- A name without marks is read up to the brace that closes its field. -/
theorem readName_closed {name : List Char} (unmarked : ∀ char ∈ name, char ∉ marks)
    (rest : List Char) :
    readName false (name ++ '\x7d' :: rest) = some (name, '\x7d' :: rest) := by
  -- The brace that closes the field is the first mark that the reader comes upon.
  induction name with
  | nil => simp [readName]
  | cons char name ih =>
    obtain ⟨first, later⟩ := List.forall_mem_cons.mp unmarked
    simp only [marks, List.mem_cons, not_or] at first
    rw [List.cons_append, readName, if_neg (by simp [first]), if_neg first.1]
    rw [decide_eq_false first.2.2.1, ih later]
    rfl

/-- A field that is a plain name is found behind its opening brace. -/
theorem item?_field {name : List Char} (plain : IsPlainName name) (rest : List Char) :
    item? ('\x7b' :: (name ++ '\x7d' :: rest)) =
      some (.field { name }, name.length + 1) := by
  have read : readField (name ++ '\x7d' :: rest) = some ({ name }, rest) := by
    rw [readField, readName_closed plain.unmarked]
    rfl
  -- The name does not begin with a brace, so the opening brace is not a doubled one.
  have single : ∀ tail, name ++ '\x7d' :: rest ≠ '\x7b' :: tail := by
    obtain ⟨first, more, rfl⟩ := List.exists_cons_of_ne_nil plain.nonempty
    rintro tail same
    obtain ⟨rfl, -⟩ := List.cons.inj same
    exact plain.unmarked _ List.mem_cons_self (by decide)
  rw [item?.eq_4 _ single, read]
  simp only [List.length_append, List.length_cons, Option.some.injEq, Prod.mk.injEq, true_and]
  omega

/-- A field that is a plain name is one piece of a template. -/
theorem split_field {name : List Char} (plain : IsPlainName name) (rest : List Char) :
    Piece.split item? ('\x7b' :: (name ++ '\x7d' :: rest)) =
      .found (.field { name }) :: Piece.split item? rest := by
  rw [Piece.split_cons_some (item?_field plain rest), ← List.drop_drop, List.drop_left]
  rfl

end Reading

section Filling

variable {texts : Dictionary String} {name : List Char}

/-- A plain name is no number, so it names a value. -/
theorem ofName_plain (plain : IsPlainName name) :
    Designator.ofName name = .name (String.ofList name) := by
  -- Only digits make a field a number, and a plain name begins with none.
  obtain ⟨first, more, rfl⟩ := List.exists_cons_of_ne_nil plain.nonempty
  have letter := plain.letter first rfl
  simp [Designator.ofName, Spec.readCount, letter]

/-- A field that is a plain name goes into no value. -/
theorem base_plain (plain : IsPlainName name) : Field.base { name } = name := by
  -- Going into a value takes a mark, which is a dot or a bracket.
  rw [Field.base, List.takeWhile_eq_self_iff]
  intro char inside
  have unmarked := plain.unmarked char inside
  simp only [marks, List.mem_cons, not_or] at unmarked
  simp [beginsAccess, unmarked]

/-- A field that is a plain name is filled with the text under the name as it is. -/
theorem fillField_plain (expand : List Char → Except Fault (List Char))
    (plain : IsPlainName name) :
    fillField expand (textArguments texts) { name } =
      match texts.get? (String.ofList name) with
      | some text => .ok text.toList
      | none => .error .missingName := by
  have direct : Field.accesses { name } = [] := by
    rw [Field.accesses, base_plain plain, List.drop_length]
    rfl
  -- The whole name is the base, so nothing is left of it that could be accessed.
  rw [fillField, Field.subject, direct, Field.argument, base_plain plain, ofName_plain plain]
  simp only [textArguments, Dictionary.get?_map]
  cases texts.get? (String.ofList name) with
  | none => rfl
  | some text => rfl

/-- The pieces of literal text are filled with the text. -/
theorem fillPieces_literal (fill : Field → Except Fault (List Char)) (text : List Char)
    (rest : List (Piece Item)) :
    fillPieces fill (text.map literalPiece ++ rest) = (fillPieces fill rest).map (text ++ ·) := by
  -- One character is one piece, and filling it puts the character in front of the others.
  induction text with
  | nil => cases h : fillPieces fill rest <;> simp [h, Except.map]
  | cons char text ih =>
    have head : fillPieces fill (literalPiece char :: (text.map literalPiece ++ rest)) =
        (fillPieces fill (text.map literalPiece ++ rest)).map (char :: ·) := by
      unfold literalPiece
      split <;> rfl
    rw [List.map_cons, List.cons_append, head, ih]
    cases fillPieces fill rest <;> rfl

/-- Where every field has a text, parts are filled with their texts. -/
theorem fillPieces_of_known {expand : List Char → Except Fault (List Char)} {parts : List Part}
    (plain : ∀ part ∈ parts, part.IsPlain)
    (known : ∀ name, .field name ∈ parts → texts.get? name ≠ none) :
    fillPieces (fillField expand (textArguments texts))
        (Piece.split item? (parts.flatMap Part.written)) =
      .ok (parts.flatMap fun part => (part.text texts).toList) := by
  -- The parts are read and filled one by one, as their pieces are joined.
  induction parts with
  | nil => rfl
  | cons part rest ih =>
    obtain ⟨first, later⟩ := List.forall_mem_cons.mp plain
    have others := ih later fun name inside => known name (List.mem_cons_of_mem _ inside)
    rw [List.flatMap_cons, List.flatMap_cons]
    cases part with
    | literal text =>
      rw [Part.written, split_literal, fillPieces_literal, others]
      rfl
    | field name =>
      obtain ⟨text, found⟩ := Option.ne_none_iff_exists'.mp (known name List.mem_cons_self)
      have shown : (Part.field name).text texts = text := by rw [Part.text, found, Option.getD_some]
      rw [Part.written, List.cons_append, List.append_assoc, List.singleton_append,
        split_field first, fillPieces, fillField_plain _ first, String.ofList_toList, found, others,
        shown]
      rfl

/-- Where a field has no text, parts are not filled, and nothing else is wrong with them. -/
theorem fillPieces_of_unknown {expand : List Char → Except Fault (List Char)} {parts : List Part}
    (plain : ∀ part ∈ parts, part.IsPlain)
    (unknown : ∃ name, .field name ∈ parts ∧ texts.get? name = none) :
    fillPieces (fillField expand (textArguments texts))
        (Piece.split item? (parts.flatMap Part.written)) = .error .missingName := by
  -- The error may come from this part or from one behind it; what is filled before is dropped.
  induction parts with
  | nil => simp at unknown
  | cons part rest ih =>
    obtain ⟨first, later⟩ := List.forall_mem_cons.mp plain
    obtain ⟨name, inside, missing⟩ := unknown
    rw [List.flatMap_cons]
    cases part with
    | literal text =>
      have behind : .field name ∈ rest := by simpa using inside
      rw [Part.written, split_literal, fillPieces_literal, ih later ⟨name, behind, missing⟩]
      rfl
    | field other =>
      rw [Part.written, List.cons_append, List.append_assoc, List.singleton_append,
        split_field first, fillPieces, fillField_plain _ first, String.ofList_toList]
      -- The first field without a text is this one or one behind it.
      cases found : texts.get? other with
      | none => rfl
      | some text =>
        have apart : name ≠ other := by
          rintro rfl
          simp [missing] at found
        have behind : .field name ∈ rest := by simpa [apart] using inside
        rw [ih later ⟨name, behind, missing⟩]
        rfl

/-- A template written from parts is formatted to their texts, if every field has one. -/
theorem format_of_known {parts : List Part} (plain : ∀ part ∈ parts, part.IsPlain)
    (known : ∀ name, .field name ∈ parts → texts.get? name ≠ none) :
    format (templateOf parts) (textArguments texts) =
      .ok (String.join (parts.map fun part => part.text texts)) := by
  -- The template is read as the pieces of its parts.
  rw [format, templateOf, String.toList_ofList, fillTemplate, pieces,
    fillPieces_of_known plain known, Except.map]
  congr 1
  rw [← String.toList_inj, String.toList_ofList, String.toList_join, List.flatMap_map]

/-- A template written from parts is not formatted if one of its fields has no text. -/
theorem format_of_unknown {parts : List Part} (plain : ∀ part ∈ parts, part.IsPlain)
    (unknown : ∃ name, .field name ∈ parts ∧ texts.get? name = none) :
    format (templateOf parts) (textArguments texts) = .error .missingName := by
  rw [format, templateOf, String.toList_ofList, fillTemplate, pieces,
    fillPieces_of_unknown plain unknown]
  rfl

end Filling

end Titling.Message
