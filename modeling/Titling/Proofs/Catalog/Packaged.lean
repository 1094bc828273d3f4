import Mathlib.Data.List.Nodup
import Titling.Catalog.Packaged
import Titling.Proofs.Catalog.Lookup

/-!
Catalogs that are written to files and read back: where the texts are plain, a file binds what the
catalog binds.
-/

namespace Titling.Json

open Titling.Text

/-- Tells that a character stands for itself between the quotes of a string. -/
def IsPlain (char : Char) : Prop :=
  0x20 ≤ char.toNat ∧ char.toNat < 0x7F ∧ char ≠ '"' ∧ char ≠ '\\'

instance : DecidablePred IsPlain :=
  fun char => inferInstanceAs (Decidable (0x20 ≤ char.toNat ∧ char.toNat < 0x7F ∧
    char ≠ '"' ∧ char ≠ '\\'))

/-- Tells that a text is written in a string as it is. -/
def IsPlainText (text : String) : Prop :=
  ∀ char ∈ text.toList, IsPlain char

/-- The text of plain characters is plain. -/
theorem isPlainText_ofList {chars : List Char} (plain : chars.all (IsPlain ·) = true) :
    IsPlainText (String.ofList chars) := by
  rw [IsPlainText, String.toList_ofList]
  simpa using plain

/-- Plain texts are plain together. -/
theorem IsPlainText.append {first second : String} (front : IsPlainText first)
    (back : IsPlainText second) : IsPlainText (first ++ second) := by
  intro char inside
  rw [String.toList_append, List.mem_append] at inside
  exact inside.elim (front char) (back char)

/-- A plain text is written as it is between quotes. -/
theorem toList_writeString {text : String} (plain : IsPlainText text) :
    (writeString text).toList = '"' :: text.toList ++ ['"'] := by
  have same : ∀ char ∈ text.toList, writeChar char = [char] := by
    intro char inside
    obtain ⟨visible, ascii, noQuote, noEscape⟩ := plain char inside
    simp [writeChar, noQuote, noEscape, visible, ascii]
  rw [writeString, String.toList_ofList, List.flatMap_congr same, List.flatMap_singleton']

/-- Plain characters are read as themselves, up to the quote behind them. -/
theorem string?_plain {text : List Char} (plain : ∀ char ∈ text, IsPlain char) (rest : List Char)
    {fuel : Nat} (enough : text.length < fuel) :
    string? fuel (text ++ '"' :: rest) = some (text.map .char, rest) := by
  induction text generalizing fuel with
  | nil =>
    obtain ⟨fuel, rfl⟩ := Nat.exists_eq_add_one_of_ne_zero (Nat.ne_zero_of_lt enough)
    rfl
  | cons char text ih =>
    obtain ⟨fuel, rfl⟩ := Nat.exists_eq_add_one_of_ne_zero (Nat.ne_zero_of_lt enough)
    obtain ⟨⟨visible, -, noQuote, noEscape⟩, others⟩ := List.forall_mem_cons.mp plain
    -- One character more takes one turn more.
    rw [List.length_cons] at enough
    have read := ih others (Nat.lt_of_succ_lt_succ enough)
    rw [List.cons_append, string?]
    · simp [Nat.not_lt.mpr visible, noEscape, read]
    -- A plain character neither ends the string nor begins an escape.
    all_goals simp [noQuote, noEscape]

/-- A string of plain characters is read as a text. -/
theorem value?_plain {text : List Char} (plain : ∀ char ∈ text, IsPlain char) (rest : List Char)
    (fuel : Nat) :
    value? (fuel + 1) ('"' :: (text ++ '"' :: rest)) = some (.text (text.map .char), rest) := by
  have enough : text.length < (text ++ '"' :: rest).length + 1 := by
    rw [List.length_append]
    omega
  -- The length of the text with its quotes is fuel enough, as each character takes one turn.
  rw [value?, string?_plain plain rest enough]
  rfl

/-- A plain name and a plain text as a field has them. -/
def fieldChars (entry : String × String) : List Char :=
  '"' :: (entry.1.toList ++ '"' :: ':' :: ' ' :: '"' :: (entry.2.toList ++ ['"']))

/-- The field that a name and a text are read as. -/
def fieldOf (entry : String × String) : List Point × Document :=
  (pointsOf entry.1, .text (pointsOf entry.2))

/-- A plain field is read, and what is behind it tells whether others follow. -/
theorem fields?_plain {entry : String × String} (name : IsPlainText entry.1)
    (text : IsPlainText entry.2) (tail : List Char) (fuel : Nat) :
    fields? (fuel + 2) (fieldChars entry ++ tail) =
      match skipSpace tail with
      | ',' :: rest => do
        let (fields, rest) ← fields? (fuel + 1) (skipSpace rest)
        return (fieldOf entry :: fields, rest)
      | '\x7d' :: rest => some ([fieldOf entry], rest)
      | _ => none := by
  have spelled : fieldChars entry ++ tail = '"' :: (entry.1.toList ++ '"' :: ':' :: ' ' ::
      '"' :: (entry.2.toList ++ '"' :: tail)) := by
    simp [fieldChars]
  have enough : ∀ rest : List Char,
      entry.1.toList.length < (entry.1.toList ++ '"' :: rest).length + 1 := by
    intro rest
    rw [List.length_append]
    omega
  rw [spelled, fields?, string?_plain name _ (enough _)]
  -- There is a colon with one space behind it between the two.
  have colon : ∀ rest, skipSpace (':' :: rest) = ':' :: rest := fun _ => rfl
  have space : ∀ rest, skipSpace (' ' :: '"' :: rest) = '"' :: rest := fun _ => rfl
  simp only [Option.bind_eq_bind, Option.bind_some, colon, space, value?_plain text tail fuel]
  rfl

/-- The fields of a catalog as they are written. -/
def fieldsChars : List (String × String) → List Char
  | [] => []
  | [entry] => fieldChars entry
  | entry :: rest => fieldChars entry ++ ',' :: ' ' :: fieldsChars rest

/-- Plain fields are read as they were written, up to the brace behind them. -/
theorem fields?_fieldsChars {entry : String × String} {entries : List (String × String)}
    (plain : ∀ one ∈ entry :: entries, IsPlainText one.1 ∧ IsPlainText one.2) (rest : List Char)
    {fuel : Nat} (enough : entries.length < fuel) :
    fields? (fuel + 1) (fieldsChars (entry :: entries) ++ '\x7d' :: rest) =
      some ((entry :: entries).map fieldOf, rest) := by
  induction entries generalizing entry fuel with
  | nil =>
    obtain ⟨fuel, rfl⟩ := Nat.exists_eq_add_one_of_ne_zero (Nat.ne_zero_of_lt enough)
    obtain ⟨name, text⟩ := plain entry List.mem_cons_self
    rw [fieldsChars, fields?_plain name text]
    rfl
  | cons next entries ih =>
    obtain ⟨fuel, rfl⟩ := Nat.exists_eq_add_one_of_ne_zero (Nat.ne_zero_of_lt enough)
    obtain ⟨⟨name, text⟩, others⟩ := List.forall_mem_cons.mp plain
    -- The field in front takes one turn, and those behind it have the others.
    have later := ih others (Nat.lt_of_succ_lt_succ enough)
    have split : fieldsChars (entry :: next :: entries) ++ '\x7d' :: rest =
        fieldChars entry ++ ',' :: ' ' :: (fieldsChars (next :: entries) ++ '\x7d' :: rest) := by
      simp [fieldsChars]
    have quote : skipSpace (' ' :: (fieldsChars (next :: entries) ++ '\x7d' :: rest)) =
        fieldsChars (next :: entries) ++ '\x7d' :: rest := by
      -- Behind the comma and the space the next field begins with its quote.
      cases entries <;> rfl
    have comma : ∀ behind, skipSpace (',' :: behind) = ',' :: behind := fun _ => rfl
    rw [split, fields?_plain name text, comma]
    simp only [quote, later]
    rfl

/-- A table is read as its fields, if there are any. -/
theorem value?_table (more : List Char) (fuel : Nat) :
    value? (fuel + 1) ('\x7b' :: '"' :: more) =
      (fields? fuel ('"' :: more)).map fun read =>
        (.table (Dictionary.ofEntries read.1), read.2) := by
  rw [value?]
  rfl

/-- A catalog of plain texts is written field by field. -/
theorem toList_writeFields {entry : String × String} {entries : List (String × String)}
    (plain : ∀ one ∈ entry :: entries, IsPlainText one.1 ∧ IsPlainText one.2) :
    (", ".intercalate (writeFields ((entry :: entries).map fun one =>
      (one.1, .text one.2)))).toList = fieldsChars (entry :: entries) := by
  induction entries generalizing entry with
  | nil =>
    obtain ⟨name, text⟩ := plain entry List.mem_cons_self
    simp [writeFields, write, toList_writeString name, toList_writeString text, fieldsChars,
      fieldChars]
  | cons next entries ih =>
    obtain ⟨⟨name, text⟩, others⟩ := List.forall_mem_cons.mp plain
    have later := ih others
    -- Each field is written between quotes, and the comma comes with the next one.
    simp only [List.map_cons, writeFields, write] at later ⊢
    rw [String.intercalate_cons_cons, String.toList_append, later]
    simp [toList_writeString name, toList_writeString text, fieldsChars, fieldChars]

/-- A catalog of plain texts is read as the fields that it was written from. -/
theorem read?_write {entry : String × String} {entries : List (String × String)}
    (plain : ∀ one ∈ entry :: entries, IsPlainText one.1 ∧ IsPlainText one.2) :
    read? (write (.table ((entry :: entries).map fun one => (one.1, .text one.2)))) =
      some (.table (Dictionary.ofEntries ((entry :: entries).map fieldOf))) := by
  have written : (write (.table ((entry :: entries).map fun one => (one.1, .text one.2)))).toList =
      '\x7b' :: (fieldsChars (entry :: entries) ++ ['\x7d']) := by
    rw [write, String.toList_append, String.toList_append, toList_writeFields plain]
    rfl
  -- Each field takes up a character at least, so that there is fuel for all of them.
  have enough : ∀ one others, (others : List (String × String)).length <
      (fieldsChars (one :: others)).length := by
    intro one others
    induction others generalizing one with
    | nil => simp [fieldsChars, fieldChars]
    | cons next others ih =>
      have := ih next
      simp only [fieldsChars, List.length_append, List.length_cons]
      omega
  -- The first field begins with a quote, so that the table is not taken for an empty one.
  obtain ⟨more, begins⟩ : ∃ more, fieldsChars (entry :: entries) = '"' :: more := by
    cases entries <;> exact ⟨_, rfl⟩
  have size : ('\x7b' :: (fieldsChars (entry :: entries) ++ ['\x7d'])).length + 1 =
      (fieldsChars (entry :: entries)).length + 1 + 1 + 1 := by
    simp
  have read : fields? ((fieldsChars (entry :: entries)).length + 2)
      (fieldsChars (entry :: entries) ++ ['\x7d']) = some ((entry :: entries).map fieldOf, []) :=
    fields?_fieldsChars plain [] (Nat.lt_succ_of_lt (enough entry entries))
  have brace : ∀ rest, skipSpace ('\x7b' :: rest) = '\x7b' :: rest := fun _ => rfl
  rw [Json.read?, written, size, brace, begins, List.cons_append, value?_table, ← List.cons_append,
    ← begins, read]
  rfl

end Titling.Json

namespace Titling.Catalog

open Titling.Json
open Titling.Text

/-- The points of a text form the text. -/
theorem textOf?_pointsOf (text : String) : textOf? (pointsOf text) = some text := by
  have formed : (text.toList.map Point.char).mapM Point.char? = some text.toList := by
    induction text.toList with
    | nil => rfl
    | cons char rest ih => simp [Point.char?, ih]
  rw [textOf?, pointsOf, formed, Option.map_some, String.ofList_toList]

/-- The points of a text are shown as the text. -/
theorem shownText_pointsOf (text : String) : shownText (pointsOf text) = text := by
  have shown : (text.toList.map Point.char).map Point.shown = text.toList := by
    simp [Point.shown, Function.comp_def]
  rw [shownText, pointsOf, shown, String.ofList_toList]

/-- The field of an entry makes the entry again. -/
theorem entryOf?_fieldOf (entry : String × String) : entryOf? (fieldOf entry) = some entry := by
  rw [entryOf?, fieldOf, textOf?_pointsOf, Document.display, shownText_pointsOf]
  rfl

/-- A catalog of plain texts under distinct ids is read from its file as it is. -/
theorem ofBytes_fileOf {catalog : Catalog} (nonempty : catalog ≠ [])
    (plain : ∀ entry ∈ catalog, IsPlainText entry.1 ∧ IsPlainText entry.2)
    (distinct : (Dictionary.names catalog).Nodup) :
    Content.ofBytes (fileOf catalog) = .entries catalog := by
  -- Ids that differ are still apart when they are written, so that no field is lost.
  have points : Function.Injective pointsOf := by
    intro first second same
    exact Option.some.inj
      ((textOf?_pointsOf first).symm.trans (same ▸ textOf?_pointsOf second))
  have names : (Dictionary.names (catalog.map fieldOf)).Nodup := by
    have mapped : Dictionary.names (catalog.map fieldOf) =
        (Dictionary.names catalog).map pointsOf := by
      simp [Dictionary.names, fieldOf]
    exact mapped ▸ List.Nodup.map points distinct
  obtain ⟨entry, entries, rfl⟩ := List.exists_cons_of_ne_nil nonempty
  rw [fileOf, Content.ofBytes_toUTF8, read?_write plain, Dictionary.ofEntries_of_nodup names]
  simp only [List.filterMap_map, Function.comp_def, entryOf?_fieldOf, List.filterMap_some]

/-- What the library has to say is read from its file. -/
theorem ofBytes_titleMessages :
    Content.ofBytes (fileOf titleMessages) = .entries titleMessages := by
  refine ofBytes_fileOf (by decide) (fun entry inside => ?_) (by decide)
  rw [titleMessages, List.mem_singleton] at inside
  subst inside
  exact ⟨isPlainText_ofList (by decide),
    (isPlainText_ofList (by decide)).append (isPlainText_ofList (by decide))⟩

/-- What the command line has to say is read from its file. -/
theorem ofBytes_commandMessages :
    Content.ofBytes (fileOf commandMessages) = .entries commandMessages := by
  refine ofBytes_fileOf (by decide) (fun entry inside => ?_) (by decide +kernel)
  simp only [commandMessages, List.mem_cons, List.not_mem_nil, or_false] at inside
  rcases inside with rfl | rfl | rfl | rfl | rfl | rfl <;>
    exact ⟨isPlainText_ofList (by decide), isPlainText_ofList (by decide)⟩

end Titling.Catalog
