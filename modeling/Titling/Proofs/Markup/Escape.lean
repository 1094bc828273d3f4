import Titling.Markup.Escape
import Titling.Proofs.CharacterReference.Decode
import Titling.Proofs.Text.Occurrence

/-! Escaped text reads back as the text, whatever follows it, and holds no markup of its own. -/

namespace Titling.Markup

open Titling.CharacterReference
open Titling.Text

/-- The two references that are written for an apostrophe. -/
def apostrophes : List String :=
  ["&#39;", "&#x27;"]

/-- An escaped character reads back as the character, whatever follows it. -/
theorem decodeChars_escapeChar {apostrophe : String} (form : apostrophe ∈ apostrophes)
    (char : Char) (rest : List Char) :
    decodeChars (escapeChar apostrophe char ++ rest) =
      joined (some [char]) (decodeChars rest) := by
  -- Each reference is closed by its semicolon, so the reader never looks into the rest.
  have named : ∀ stem, IsOpenName stem → stem ≠ [] →
      nameText (stem ++ [';']) = [char] →
      decodeChars ('&' :: (stem ++ ';' :: rest)) = joined (some [char]) (decodeChars rest) :=
    fun stem isOpen nonempty stands => stands ▸ decodeChars_closedName stem rest isOpen nonempty
  unfold escapeChar
  split
  · exact named ['a', 'm', 'p'] (by decide) (by decide) (by decide +kernel)
  · exact named ['l', 't'] (by decide) (by decide) (by decide +kernel)
  · exact named ['g', 't'] (by decide) (by decide) (by decide +kernel)
  · exact named ['q', 'u', 'o', 't'] (by decide) (by decide) (by decide +kernel)
  · simp only [apostrophes, List.mem_cons, List.not_mem_nil, or_false] at form
    rcases form with rfl | rfl
    · exact decodeChars_closedDecimal ['3', '9'] rest (List.all_eq_true.mp rfl) (by decide)
    · exact decodeChars_closedHex ['2', '7'] rest (List.all_eq_true.mp rfl) (by decide)
  · rename_i ampersand _ _ _ _
    exact decodeChars_cons ampersand rest

/-- Escaped text reads back as the text, and what follows it is read by itself. -/
theorem decodeChars_escape {apostrophe : String} (form : apostrophe ∈ apostrophes)
    (text rest : List Char) :
    decodeChars (text.flatMap (escapeChar apostrophe) ++ rest) =
      joined (some text) (decodeChars rest) := by
  -- Induct over the text; what is still to be escaped is part of what follows.
  induction text with
  | nil => simp
  | cons char tail ih =>
    rw [List.flatMap_cons, List.append_assoc, decodeChars_escapeChar form, ih, ← joined_assoc]
    rfl

/-- A text that is escaped as a whole decodes to the text. -/
theorem decode?_escape {apostrophe : String} (form : apostrophe ∈ apostrophes) (text : String) :
    decode? (String.ofList (text.toList.flatMap (escapeChar apostrophe))) = some text := by
  -- This is the case where nothing follows, and nothing is what the empty text decodes to.
  have read := decodeChars_escape form text.toList []
  simp only [List.append_nil, decodeChars_nil, joined_some] at read
  simp [decode?_eq, read]

/-- An escaped title decodes to the title. -/
theorem decode?_escapeTitle (text : String) : decode? (escapeTitle text) = some text :=
  decode?_escape (by decide) text

/-- An escaped attribute value decodes to the value. -/
theorem decode?_escapeAttribute (value : String) : decode? (escapeAttribute value) = some value :=
  decode?_escape (by decide) value

/-- Apostrophes written as references are read as before, whatever they stand behind. -/
theorem decodeChars_append_replace_apostrophe (text : List Char) :
    ∀ front, decodeChars (front ++ replaceAll ['\''] "&#39;".toList text) =
      decodeChars (front ++ text) := by
  -- The front holds what has been passed over, which may be an unfinished reference.
  induction text with
  | nil => intro front; rfl
  | cons char rest ih =>
    intro front
    rw [replaceAll_single, List.flatMap_cons, ← replaceAll_single]
    split
    · rename_i apostrophe
      subst apostrophe
      have written : ∀ tail, decodeChars ("&#39;".toList ++ tail) =
          joined (some ['\'']) (decodeChars tail) :=
        decodeChars_escapeChar (List.mem_cons_self : "&#39;" ∈ apostrophes) '\''
      have behind := ih []
      rw [List.nil_append, List.nil_append] at behind
      -- Text is read by itself in front of an ampersand, and in front of an apostrophe.
      calc decodeChars (front ++ ("&#39;".toList ++ replaceAll ['\''] "&#39;".toList rest))
          = joined (decodeChars front)
              (decodeChars ("&#39;".toList ++ replaceAll ['\''] "&#39;".toList rest)) :=
            decodeChars_append_ampersand front _
        _ = joined (decodeChars front) (decodeChars ('\'' :: rest)) := by
            rw [written, behind, decodeChars_cons (by decide)]
        _ = decodeChars (front ++ '\'' :: rest) :=
            (decodeChars_append (by decide) front rest).symm
    · simpa using ih (front ++ [char])

/-- Writing apostrophes as references changes nothing that is read. -/
theorem decode?_replace_apostrophe (text : String) :
    decode? (String.ofList (replaceAll ['\''] "&#39;".toList text.toList)) = decode? text := by
  have same := decodeChars_append_replace_apostrophe text.toList []
  rw [List.nil_append, List.nil_append] at same
  rw [decode?_eq, decode?_eq, String.toList_ofList, same]

/-- The references that an escaped title is written with. -/
def titleForms : List String :=
  ["&amp;", "&lt;", "&gt;", "&quot;", "&#39;"]

/-- A text in which markup reads characters only: no tag, no quote, and no ampersand on its own. -/
structure Inert (text : List Char) : Prop where
  noMarks : ∀ char ∈ text, char ∉ ['<', '>', '"', '\'']
  references : ∀ front back, text = front ++ '&' :: back →
    ∃ form ∈ titleForms, form.toList <+: '&' :: back

/-- The empty text is inert. -/
theorem Inert.nil : Inert [] where
  noMarks := by simp
  references := by simp

/-- Inert texts may be joined. -/
theorem Inert.append {front back : List Char} (first : Inert front) (second : Inert back) :
    Inert (front ++ back) where
  noMarks := by
    intro char inside
    rcases List.mem_append.mp inside with inside | inside
    · exact first.noMarks char inside
    · exact second.noMarks char inside
  references := by
    intro outer inner split
    -- An ampersand of the joined text belongs to the first text or to the second one.
    rcases List.append_eq_append_iff.mp split with ⟨middle, rfl, later⟩ | ⟨middle, earlier, rest⟩
    · exact second.references middle inner later
    · cases middle with
      | nil => exact second.references [] inner rest.symm
      | cons char more =>
        -- The reference begins in the first text, and its form ends there.
        obtain ⟨rfl, rfl⟩ := List.cons.inj rest
        obtain ⟨form, known, begins⟩ := first.references outer more earlier
        exact ⟨form, known, begins.trans ⟨back, rfl⟩⟩

/-- Every form is inert: it begins with its only ampersand. -/
theorem inert_form {form : String} (known : form ∈ titleForms) : Inert form.toList := by
  -- Behind its ampersand a form has no character of those that markup reads specially.
  have shape : ∃ tail, form.toList = '&' :: tail ∧
      tail.all (fun char => char ∉ ['&', '<', '>', '"', '\'']) = true := by
    simp only [titleForms, List.mem_cons, List.not_mem_nil, or_false] at known
    rcases known with rfl | rfl | rfl | rfl | rfl <;> exact ⟨_, rfl, by decide⟩
  obtain ⟨tail, written, all⟩ := shape
  have plain : ∀ char ∈ tail, char ∉ ['&', '<', '>', '"', '\''] := by
    intro char inside
    exact of_decide_eq_true (List.all_eq_true.mp all char inside)
  refine ⟨fun char inside => ?_, fun front back split => ⟨form, known, ?_⟩⟩
  · rw [written] at inside
    rcases List.mem_cons.mp inside with rfl | inside
    · decide
    · exact fun mark => plain char inside (List.mem_cons_of_mem _ mark)
  · cases front with
    | nil => rw [split]; exact List.prefix_rfl
    | cons char more =>
      rw [written] at split
      have later : '&' ∈ tail := by rw [(List.cons.inj split).2]; simp
      exact absurd List.mem_cons_self (plain '&' later)

/-- An escaped character is inert. -/
theorem inert_escapeChar (char : Char) : Inert (escapeChar "&#39;" char) := by
  unfold escapeChar
  split
  case h_6 ampersand less greater quote apostrophe =>
    -- Any other character is none that markup reads specially.
    refine ⟨fun only inside => ?_, fun front back split => ?_⟩
    · rw [List.mem_singleton.mp inside]
      simp only [List.mem_cons, List.not_mem_nil, or_false, not_or]
      exact ⟨less, greater, quote, apostrophe⟩
    · rcases List.append_eq_singleton_iff.mp split.symm with ⟨-, rest⟩ | ⟨-, rest⟩
      · exact absurd (List.cons.inj rest).1.symm ampersand
      · simp at rest
  all_goals exact inert_form (by decide)

/-- Escaped text is inert. -/
theorem inert_escape (text : List Char) : Inert (text.flatMap (escapeChar "&#39;")) := by
  -- Escaped characters are inert one by one, and so is the text they make.
  induction text with
  | nil => exact Inert.nil
  | cons char rest ih => exact (inert_escapeChar char).append ih

/-- An escaped title is inert. -/
theorem inert_escapeTitle (text : String) : Inert (escapeTitle text).toList := by
  rw [escapeTitle, String.toList_ofList]
  exact inert_escape text.toList

/-- What an inert text ends with is inert. -/
theorem Inert.of_append {front back : List Char} (inert : Inert (front ++ back)) :
    Inert back where
  noMarks := fun char inside => inert.noMarks char (List.mem_append_right front inside)
  references := by
    -- An ampersand of the later text is one of the whole text.
    intro outer inner split
    refine inert.references (front ++ outer) inner ?_
    rw [split, List.append_assoc]

/-- Each form is the escaped form of some character. -/
theorem exists_escapeChar {form : String} (known : form ∈ titleForms) :
    ∃ char, escapeChar "&#39;" char = form.toList := by
  simp only [titleForms, List.mem_cons, List.not_mem_nil, or_false] at known
  rcases known with rfl | rfl | rfl | rfl | rfl
  · exact ⟨'&', rfl⟩
  · exact ⟨'<', rfl⟩
  · exact ⟨'>', rfl⟩
  · exact ⟨'"', rfl⟩
  · exact ⟨'\'', rfl⟩

/-- Every inert text is what escaping made of some text. -/
theorem Inert.exists_escape (text : List Char) (inert : Inert text) :
    ∃ plain : List Char, text = plain.flatMap (escapeChar "&#39;") := by
  -- Escaped characters have several lengths, so the induction is on the length of the text.
  induction size : text.length using Nat.strong_induction_on generalizing text with
  | _ size ih =>
    subst size
    match text with
    | [] => exact ⟨[], rfl⟩
    | char :: rest =>
      -- One escaped character is taken off: a whole form, or a character that stands for itself.
      obtain ⟨head, tail, split, nonempty⟩ : ∃ head tail,
          char :: rest = escapeChar "&#39;" head ++ tail ∧ escapeChar "&#39;" head ≠ [] := by
        by_cases ampersand : char = '&'
        · subst ampersand
          obtain ⟨form, known, tail, begins⟩ := inert.references [] rest rfl
          obtain ⟨head, written⟩ := exists_escapeChar known
          refine ⟨head, tail, by rw [written, begins], ?_⟩
          unfold escapeChar
          split <;> simp
        · have mark := inert.noMarks char List.mem_cons_self
          simp only [List.mem_cons, List.not_mem_nil, or_false, not_or] at mark
          obtain ⟨less, greater, quote, apostrophe⟩ := mark
          have written : escapeChar "&#39;" char = [char] := by
            unfold escapeChar
            split <;> first | contradiction | rfl
          exact ⟨char, rest, by simp [written], by simp [written]⟩
      -- What is taken off has a character at least, so the rest is shorter.
      have shorter : tail.length < (char :: rest).length := by
        have := List.length_pos_iff.mpr nonempty
        rw [split, List.length_append]
        omega
      have later : Inert tail := Inert.of_append (split ▸ inert)
      obtain ⟨plain, escaped⟩ := ih tail.length shorter tail later rfl
      exact ⟨head :: plain, by rw [split, escaped, List.flatMap_cons]⟩

/-- A text is inert exactly if it is an escaped title. -/
theorem inert_iff (text : String) : Inert text.toList ↔ ∃ plain, text = escapeTitle plain := by
  constructor
  · intro inert
    obtain ⟨plain, escaped⟩ := inert.exists_escape
    refine ⟨String.ofList plain, ?_⟩
    rw [escapeTitle, String.toList_ofList, ← escaped, String.ofList_toList]
  · rintro ⟨plain, rfl⟩
    exact inert_escapeTitle plain

/-- Decoding a text and escaping it again gives the text exactly if it is inert. -/
theorem escapeTitle_decode?_iff {text plain : String} (read : decode? text = some plain) :
    escapeTitle plain = text ↔ Inert text.toList := by
  rw [inert_iff]
  -- What is escaped again is inert; and inert text is escaped, which decoding undoes.
  constructor
  · intro same
    exact ⟨plain, same.symm⟩
  · rintro ⟨source, rfl⟩
    rw [decode?_escapeTitle, Option.some.injEq] at read
    rw [read]

end Titling.Markup
