import Titling.Proofs.Markup.Escape
import Titling.Proofs.Text.Renaming

/-!
Replacements made over a whole text in turn, and the single pass over its characters that they are.

The last replacement looks for a reference which a text may spell out itself. It finds none of
these, since every ampersand of the text has been written as a reference of its own before.
-/

namespace Titling.Markup

open Titling.Text

/-- Replacements of single characters, made in turn, treat each character of a text by itself. -/
theorem foldl_replaceAll_single (rules : List (Char × String)) (text : List Char) :
    rules.foldl (fun chars rule => replaceAll [rule.1] rule.2.toList chars) text =
      text.flatMap fun char =>
        rules.foldl (fun chars rule => replaceAll [rule.1] rule.2.toList chars) [char] := by
  -- The first replacement is one pass, and the others go over what it made of each character.
  induction rules generalizing text with
  | nil => simp
  | cons rule rules ih =>
    simp only [List.foldl_cons]
    rw [ih, replaceAll_single, List.flatMap_assoc]
    congr 1
    funext char
    rw [ih (replaceAll [rule.1] rule.2.toList [char]), replaceAll_single, List.flatMap_singleton]

/-- Replacements of other characters leave a character alone. -/
theorem foldl_replaceAll_of_ne {rules : List (Char × String)} {char : Char}
    (apart : ∀ rule ∈ rules, rule.1 ≠ char) :
    rules.foldl (fun chars rule => replaceAll [rule.1] rule.2.toList chars) [char] = [char] := by
  -- No rule finds its character, so each of them leaves the text of one character as it is.
  induction rules with
  | nil => rfl
  | cons rule rules ih =>
    have first : rule.1 ≠ char := apart rule List.mem_cons_self
    rw [List.foldl_cons, replaceAll_single, List.flatMap_singleton, if_neg (Ne.symm first)]
    exact ih fun other later => apart other (List.mem_cons_of_mem _ later)

/-- The replacements of single characters by which markup is escaped. -/
def markReplacements : List (Char × String) :=
  [('&', "&amp;"), ('<', "&lt;"), ('>', "&gt;"), ('"', "&quot;"), ('\'', "&#x27;")]

/-- Before the last one, the replacements of a title are those of single characters. -/
theorem titleReplacements_eq :
    titleReplacements =
      markReplacements.map (fun rule => (String.singleton rule.1, rule.2)) ++
        [("&#x27;", "&#39;")] := by
  decide

/-- On one character the replacements of single characters leave its escaped form. -/
theorem foldl_markReplacements (char : Char) :
    markReplacements.foldl (fun chars rule => replaceAll [rule.1] rule.2.toList chars) [char] =
      escapeChar "&#x27;" char := by
  unfold escapeChar
  -- Characters that are escaped are checked one by one, and any other one is met by no rule.
  split
  case h_6 ampersand less greater quote apostrophe =>
    apply foldl_replaceAll_of_ne
    simp only [markReplacements, List.forall_mem_cons, List.not_mem_nil, false_implies,
      implies_true, and_true]
    exact ⟨Ne.symm ampersand, Ne.symm less, Ne.symm greater, Ne.symm quote, Ne.symm apostrophe⟩
  all_goals decide

/-- The references that stand in a text while it is escaped. -/
def references : List String :=
  "&#x27;" :: titleForms

/-- The reference that is renamed at last. -/
def renamed : { form // form ∈ references } :=
  ⟨"&#x27;", by decide⟩

/-- No reference is mistaken for another one: each begins with its only ampersand. -/
theorem isMarked_references :
    IsMarked (fun form : { form // form ∈ references } => form.val.toList) '&' where
  exists_eq := by
    -- There are six references, which can be looked at one by one.
    have shape : ∀ form ∈ references,
        form.toList = '&' :: form.toList.tail ∧ '&' ∉ form.toList.tail := by decide
    rintro ⟨form, known⟩
    exact ⟨form.toList.tail, shape form known⟩
  eq_of_prefix := by
    have apart : ∀ first ∈ references, ∀ second ∈ references,
        first.toList.isPrefixOf second.toList = true → first = second := by decide
    rintro ⟨first, known⟩ ⟨second, known'⟩ begins
    exact Subtype.ext (apart first known second known' (List.isPrefixOf_iff_prefix.mpr begins))

/-- Renaming the reference for apostrophes changes the escaped form of an apostrophe only. -/
theorem replaceAll_escapeChar_append (char : Char) (rest : List Char) :
    replaceAll "&#x27;".toList "&#39;".toList (escapeChar "&#x27;" char ++ rest) =
      escapeChar "&#39;" char ++ replaceAll "&#x27;".toList "&#39;".toList rest := by
  -- Of the five references only the renamed one changes, as no other one is a spelling of it.
  have kept : ∀ form (known : form ∈ references), renamed ≠ ⟨form, known⟩ →
      replaceAll "&#x27;".toList "&#39;".toList (form.toList ++ rest) =
        form.toList ++ replaceAll "&#x27;".toList "&#39;".toList rest :=
    fun form known apart => isMarked_references.replaceAll_spell_append apart _ rest
  unfold escapeChar
  split
  case h_5 => exact replaceAll_append _ _ (by decide)
  case h_6 ampersand less greater quote apostrophe =>
    -- The reference begins with an ampersand, which this character is not.
    obtain ⟨tail, spelled, -⟩ := isMarked_references.exists_eq renamed
    have missing : ¬ "&#x27;".toList <+: char :: rest := by
      change ¬ renamed.val.toList <+: char :: rest
      rw [spelled, List.cons_prefix_cons]
      exact fun begins => ampersand begins.1.symm
    exact replaceAll_cons_of_missing _ missing
  all_goals exact kept _ (by decide) (by decide)

/-- Renaming the reference for apostrophes turns the one escaped form of a text into the other. -/
theorem replaceAll_flatMap_escapeChar (text : List Char) :
    replaceAll "&#x27;".toList "&#39;".toList (text.flatMap (escapeChar "&#x27;")) =
      text.flatMap (escapeChar "&#39;") := by
  induction text with
  | nil => rfl
  | cons char rest ih =>
    rw [List.flatMap_cons, replaceAll_escapeChar_append, ih, List.flatMap_cons]

/-- Made in turn, the replacements of a title are one pass over its characters. -/
theorem replaceInTurn_titleReplacements (text : String) :
    replaceInTurn titleReplacements text = escapeTitle text := by
  -- The last replacement renames a reference and does not look for a single character.
  rw [replaceInTurn, titleReplacements_eq, List.foldl_append, List.foldl_map]
  simp only [String.toList_singleton, List.foldl_cons, List.foldl_nil]
  rw [foldl_replaceAll_single, funext foldl_markReplacements, replaceAll_flatMap_escapeChar,
    escapeTitle]

/-- Joined texts are escaped one by one. -/
theorem escapeTitle_append (front back : String) :
    escapeTitle (front ++ back) = escapeTitle front ++ escapeTitle back := by
  rw [escapeTitle, String.toList_append, List.flatMap_append, String.ofList_append]
  rfl

/-- Different titles stay different when they are escaped, as each can be decoded again. -/
theorem escapeTitle_injective : Function.Injective escapeTitle := by
  -- Decoding is a left inverse.
  intro title other same
  rw [← Option.some.injEq, ← decode?_escapeTitle title, same, decode?_escapeTitle]

/-- What stands in front of an ampersand in an inert text is inert. -/
theorem Inert.of_append_ampersand {front back : List Char}
    (inert : Inert (front ++ '&' :: back)) : Inert front where
  noMarks := fun char inside => inert.noMarks char (List.mem_append_left _ inside)
  references := by
    intro outer inner split
    have whole : front ++ '&' :: back = outer ++ '&' :: (inner ++ '&' :: back) := by
      rw [split, List.append_assoc, List.cons_append]
    obtain ⟨form, known, begins⟩ := inert.references outer (inner ++ '&' :: back) whole
    refine ⟨form, known, ?_⟩
    -- The form that begins at an ampersand ends before the other one, or goes on across it.
    rcases List.prefix_or_prefix_of_prefix begins (List.prefix_append ('&' :: inner) _) with
      inside | ⟨beyond, across⟩
    · exact inside
    · cases beyond with
      | nil =>
        have same : form.toList = '&' :: inner := by rw [← across, List.append_nil]
        exact same ▸ List.prefix_rfl
      | cons next beyond =>
        -- A form that went on behind the other ampersand would hold that one, too.
        obtain ⟨tail, spelled, single⟩ := isMarked_references.exists_eq
          ⟨form, List.mem_cons_of_mem _ known⟩
        simp only at spelled
        rw [← across, ← List.cons_append, List.prefix_append_right_inj,
          List.cons_prefix_cons] at begins
        rw [spelled, List.cons_append, List.cons.injEq] at across
        rw [← across.2, begins.1] at single
        simp at single

/-- A reference for an apostrophe in an escaped title is an apostrophe of the title at its place. -/
theorem escapeTitle_eq_append_iff (text before behind : String) :
    escapeTitle text = before ++ "&#39;" ++ behind ↔
      ∃ front back, text = front ++ "'" ++ back ∧
        escapeTitle front = before ∧ escapeTitle back = behind := by
  have written : escapeTitle "'" = "&#39;" := rfl
  constructor
  · intro split
    -- Cut at an ampersand, an inert text leaves inert parts, which are escaped texts again.
    have inert : Inert (before.toList ++ ("&#39;".toList ++ behind.toList)) := by
      have whole := inert_escapeTitle text
      rwa [split, String.toList_append, String.toList_append, List.append_assoc] at whole
    have later : Inert ("&#39;".toList ++ behind.toList) := inert.of_append
    obtain ⟨front, rfl⟩ := (inert_iff before).mp inert.of_append_ampersand
    obtain ⟨back, rfl⟩ := (inert_iff behind).mp later.of_append
    refine ⟨front, back, escapeTitle_injective ?_, rfl, rfl⟩
    rw [split, escapeTitle_append, escapeTitle_append, written]
  · rintro ⟨front, back, rfl, rfl, rfl⟩
    rw [escapeTitle_append, escapeTitle_append, written]

/-- The reference that is renamed stands nowhere in an escaped title. -/
theorem not_infix_escapeTitle (text : String) :
    ¬ "&#x27;".toList <:+: (escapeTitle text).toList := by
  rintro ⟨front, back, same⟩
  -- If it stood there, its ampersand would begin one of the forms that are left.
  obtain ⟨tail, spelled, -⟩ := isMarked_references.exists_eq renamed
  have split : (escapeTitle text).toList = front ++ '&' :: (tail ++ back) := by
    rw [← same, List.append_assoc]
    exact congrArg (fun form => front ++ (form ++ back)) spelled
  obtain ⟨form, known, begins⟩ := (inert_escapeTitle text).references _ _ split
  -- The reference that begins there is one of those that an escaped title is written with.
  have there : renamed.val.toList <+: '&' :: (tail ++ back) := ⟨back, by rw [spelled]; rfl⟩
  have equal : renamed = ⟨form, List.mem_cons_of_mem _ known⟩ :=
    isMarked_references.eq_of_prefixes there begins
  rw [← Subtype.mk.inj equal] at known
  exact absurd known (by decide)

/--
Escaping a title by replacements over the whole text, one after another, is one pass over it, in
which each character is written by itself.

So joined texts are escaped one by one and different ones stay different. A text that spells out a
reference for an apostrophe has its ampersand escaped: such a reference in an escaped title is
always an apostrophe of the title, at the place where it stands.
-/
theorem escapeTitle_single_pass :
    replaceInTurn titleReplacements = escapeTitle ∧
    (∀ text, (escapeTitle text).toList = text.toList.flatMap fun char =>
      if char = '&' then "&amp;".toList
      else if char = '<' then "&lt;".toList
      else if char = '>' then "&gt;".toList
      else if char = '"' then "&quot;".toList
      else if char = '\'' then "&#39;".toList
      else [char]) ∧
    (∀ front back, escapeTitle (front ++ back) = escapeTitle front ++ escapeTitle back) ∧
    Function.Injective escapeTitle ∧
    escapeTitle "&#39;" = "&amp;#39;" ∧ escapeTitle "&#x27;" = "&amp;#x27;" ∧
    (∀ text before behind, escapeTitle text = before ++ "&#39;" ++ behind ↔
      ∃ front back, text = front ++ "'" ++ back ∧
        escapeTitle front = before ∧ escapeTitle back = behind) ∧
    ∀ text, ¬ "&#x27;".toList <:+: (escapeTitle text).toList := by
  refine ⟨funext replaceInTurn_titleReplacements, ?_, escapeTitle_append, escapeTitle_injective,
    rfl, rfl, escapeTitle_eq_append_iff, not_infix_escapeTitle⟩
  intro text
  rw [escapeTitle, String.toList_ofList]
  congr 1
  funext char
  -- The cases of the pass are those of the table of references.
  unfold escapeChar
  split
  case h_6 ampersand less greater quote apostrophe =>
    rw [if_neg ampersand, if_neg less, if_neg greater, if_neg quote, if_neg apostrophe]
  all_goals rfl

end Titling.Markup
