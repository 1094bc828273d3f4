import Mathlib.Data.List.Induction
import Titling.CommandLine.Run
import Titling.Proofs.Context
import Titling.Proofs.Text.Blank

/-!
Variables on the command line: each argument is a name, an equals sign and a value.

The first argument that is none of these is found, and of several values for a name the last counts.
-/

namespace Titling.Text

/-- A text is trimmed to nothing exactly if it is all white space. -/
theorem trim_eq_nil_iff (text : List Char) : trim text = [] ↔ AllBlank text := by
  rw [trim, List.reverse_eq_nil_iff, List.dropWhile_eq_nil_iff]
  constructor
  · -- What is left behind the first white space is white space, so nothing was left.
    intro blank char inside
    rw [← List.takeWhile_append_dropWhile (p := isBlank) (l := text)] at inside
    rcases List.mem_append.mp inside with front | back
    · exact allBlank_takeWhile text char front
    · exact blank char (List.mem_reverse.mpr back)
  · intro blank
    rw [List.dropWhile_eq_nil_iff.mpr blank]
    simp

end Titling.Text

namespace Titling.CommandLine

/--
Tells that an argument gives a value to a name: the value stands behind the first equals sign, and
what stands in front of it is the name, with any white space around it.
-/
def Assigns (argument name value : String) : Prop :=
  ∃ front, argument.toList = front ++ '=' :: value.toList ∧ '=' ∉ front ∧
    Text.trim front = name.toList ∧ name ≠ ""

/-- Tells that an argument is no variable: it has no equals sign, or only white space before it. -/
def IsRefused (argument : String) : Prop :=
  '=' ∉ argument.toList ∨
    ∃ front back, argument.toList = front ++ '=' :: back ∧ Text.AllBlank front

/-- Tells that an argument is the first one that is no variable. -/
def IsFirstRefused (arguments : List String) (argument : String) : Prop :=
  ∃ before after, arguments = before ++ argument :: after ∧
    (∀ other ∈ before, ¬ IsRefused other) ∧ IsRefused argument

/-- Tells that the last argument for a name gives it a value. -/
def GivesLast (arguments : List String) (name value : String) : Prop :=
  ∃ before argument after, arguments = before ++ argument :: after ∧
    Assigns argument name value ∧ ∀ other ∈ after, ∀ value, ¬ Assigns other name value

/-- The context of the arguments that are variables. -/
def contextFor (arguments : List String) : Context :=
  contextOf (arguments.filterMap parseVariable?)

/-- An argument without an equals sign is not read. -/
theorem parseVariable?_of_not_mem {argument : String} (missing : '=' ∉ argument.toList) :
    parseVariable? argument = none := by
  -- With no equals sign the name would take up the whole argument, and no value is left.
  have whole : argument.toList.takeWhile (· ≠ '=') = argument.toList := by
    rw [List.takeWhile_eq_self_iff]
    intro char inside
    exact decide_eq_true fun same => missing (same ▸ inside)
  simp only [parseVariable?, whole, List.drop_length]

/-- An argument is split at its first equals sign, and not read if its name is blank. -/
theorem parseVariable?_of_split {argument : String} {front back : List Char}
    (written : argument.toList = front ++ '=' :: back) (first : '=' ∉ front) :
    parseVariable? argument =
      if Text.trim front = [] then none
      else some (String.ofList (Text.trim front), String.ofList back) := by
  -- The name is all of the front, since the first equals sign is the one behind it.
  have named : argument.toList.takeWhile (· ≠ '=') = front := by
    rw [written, List.takeWhile_append_of_pos, List.takeWhile_cons_of_neg (by simp),
      List.append_nil]
    intro char inside
    exact decide_eq_true fun same => first (same ▸ inside)
  simp only [parseVariable?, named]
  rw [written, List.drop_left]
  cases Text.trim front with
  | nil => rfl
  | cons char rest => rfl

/-- An argument is read as the name and the value that it gives to it. -/
theorem parseVariable?_eq_some_iff (argument name value : String) :
    parseVariable? argument = some (name, value) ↔ Assigns argument name value := by
  constructor
  · intro read
    -- An argument that is read has an equals sign, and is split at the first one.
    have sign : '=' ∈ argument.toList := by
      by_contra missing
      simp [parseVariable?_of_not_mem missing] at read
    obtain ⟨front, back, written, first⟩ := List.eq_append_cons_of_mem sign
    rw [parseVariable?_of_split written first] at read
    split at read
    · cases read
    · rename_i named
      obtain ⟨rfl, rfl⟩ := Prod.mk.inj (Option.some.inj read)
      refine ⟨front, by rw [written, String.toList_ofList], first,
        (String.toList_ofList).symm, fun empty => named ?_⟩
      rw [← String.toList_ofList (l := Text.trim front), empty]
      rfl
  · rintro ⟨front, written, first, trimmed, named⟩
    -- Backwards, the front is that of the definition, and its name is not empty.
    rw [parseVariable?_of_split written first, if_neg, trimmed, String.ofList_toList,
      String.ofList_toList]
    rw [trimmed, String.toList_eq_nil_iff]
    exact named

/-- An argument is not read exactly if it is no variable. -/
theorem parseVariable?_eq_none_iff (argument : String) :
    parseVariable? argument = none ↔ IsRefused argument := by
  constructor
  · intro unread
    -- Without a sign the argument is refused at once; with one it is its name that is blank.
    by_cases sign : '=' ∈ argument.toList
    · obtain ⟨front, back, written, first⟩ := List.eq_append_cons_of_mem sign
      rw [parseVariable?_of_split written first, ite_eq_left_iff, Text.trim_eq_nil_iff] at unread
      exact .inr ⟨front, back, written, by simpa using unread⟩
    · exact .inl sign
  · rintro (missing | ⟨front, back, written, blank⟩)
    · exact parseVariable?_of_not_mem missing
    · -- An equals sign is no white space, so there is none in front of this one.
      have first : '=' ∉ front := fun inside => absurd (blank _ inside) (by decide)
      rw [parseVariable?_of_split written first, if_pos ((Text.trim_eq_nil_iff front).mpr blank)]

instance : DecidablePred IsRefused :=
  fun argument => decidable_of_iff _ (parseVariable?_eq_none_iff argument)

/-- Where every argument is a variable, all of them are read. -/
theorem parseVariables_of_accepted {arguments : List String}
    (accepted : ∀ argument ∈ arguments, ¬ IsRefused argument) :
    parseVariables arguments = .ok (arguments.filterMap parseVariable?) := by
  induction arguments with
  | nil => rfl
  | cons argument rest ih =>
    obtain ⟨here, later⟩ := List.forall_mem_cons.mp accepted
    -- Nothing is read in vain: each argument gives a pair, in the order of the arguments.
    rw [← parseVariable?_eq_none_iff] at here
    obtain ⟨parsed, read⟩ := Option.ne_none_iff_exists'.mp here
    rw [parseVariables, read, ih later, List.filterMap_cons_some read]
    rfl

/-- Reading arguments stops at the first one that is no variable. -/
theorem parseVariables_of_refused {arguments : List String} {argument : String}
    (refused : IsFirstRefused arguments argument) :
    parseVariables arguments = .error argument := by
  obtain ⟨before, after, rfl, accepted, none⟩ := refused
  -- The induction is on the arguments before the refused one, which are all read.
  induction before with
  | nil => rw [List.nil_append, parseVariables, (parseVariable?_eq_none_iff argument).mpr none]
  | cons other rest ih =>
    obtain ⟨here, later⟩ := List.forall_mem_cons.mp accepted
    rw [← parseVariable?_eq_none_iff] at here
    obtain ⟨parsed, read⟩ := Option.ne_none_iff_exists'.mp here
    rw [List.cons_append, parseVariables, read, ih later]
    rfl

/-- If an argument is no variable, then one of them is the first such argument. -/
theorem exists_isFirstRefused {arguments : List String}
    (refused : ∃ argument ∈ arguments, IsRefused argument) :
    ∃ argument, IsFirstRefused arguments argument := by
  induction arguments with
  | nil => simp at refused
  | cons argument rest ih =>
    -- Either the first argument is refused, or the refused one is among the others.
    by_cases here : IsRefused argument
    · exact ⟨argument, [], rest, rfl, by simp, here⟩
    · have behind : ∃ other ∈ rest, IsRefused other := by simpa [here] using refused
      obtain ⟨other, before, after, rfl, accepted, first⟩ := ih behind
      exact ⟨other, argument :: before, after, rfl,
        List.forall_mem_cons.mpr ⟨here, accepted⟩, first⟩

/-- The last argument gives a name its value, or those before it do if it is not about the name. -/
theorem givesLast_concat_iff (init : List String) (last name value : String) :
    GivesLast (init ++ [last]) name value ↔
      Assigns last name value ∨
        (∀ other, ¬ Assigns last name other) ∧ GivesLast init name value := by
  constructor
  · rintro ⟨before, argument, after, split, assigns, others⟩
    rcases List.eq_nil_or_concat after with rfl | ⟨front, final, rfl⟩
    · obtain ⟨-, same⟩ := List.append_inj' split rfl
      exact .inl (List.singleton_inj.mp same ▸ assigns)
    · -- The argument stands among those before the last one, which is not about the name.
      rw [List.concat_eq_append, ← List.cons_append, ← List.append_assoc] at split
      obtain ⟨rfl, same⟩ := List.append_inj' split rfl
      rw [List.singleton_inj.mp same]
      rw [List.concat_eq_append] at others
      exact .inr ⟨others final (by simp), before, argument, front, rfl, assigns,
        fun other inside => others other (List.mem_append_left _ inside)⟩
  · rintro (assigns | ⟨other, before, argument, after, rfl, assigns, others⟩)
    · -- The witnesses are the same ones, with the last argument put behind those after them.
      exact ⟨init, last, [], rfl, assigns, by simp⟩
    · refine ⟨before, argument, after ++ [last], by simp, assigns, ?_⟩
      intro later inside
      rcases List.mem_append.mp inside with among | final
      · exact others later among
      · exact List.mem_singleton.mp final ▸ other

/-- Looked up from the last one on, the variables of a call have the values that they give. -/
theorem lookup_reverse_filterMap_iff (arguments : List String) (name value : String) :
    (arguments.filterMap parseVariable?).reverse.lookup name = some value ↔
      GivesLast arguments name value := by
  -- The last argument counts most, so the induction takes arguments off at the end.
  induction arguments using List.reverseRecOn with
  | nil => simp [GivesLast]
  | append_singleton init last ih =>
    rw [givesLast_concat_iff, List.filterMap_append, List.reverse_append]
    simp only [← parseVariable?_eq_some_iff, ← ih]
    -- The last argument is no variable, or one of this name, or of another one.
    cases read : parseVariable? last with
    | none => simp [read]
    | some parsed =>
      obtain ⟨given, final⟩ := parsed
      by_cases same : given = name
      · simp [read, same]
      · simp [read, same, List.lookup_cons, beq_false_of_ne (Ne.symm same)]

/-- Each name is bound to the value that the last argument for it gives, and to nothing else. -/
theorem binding?_contextFor_iff (arguments : List String) (name : String) (binding : Binding) :
    (contextFor arguments).binding? name = some binding ↔
      ∃ value, binding = .value (.text value) ∧ GivesLast arguments name value := by
  -- Bindings are looked up in reverse, as in the list of what the arguments give.
  rw [contextFor, contextOf, Context.binding?_ofLayer, Dictionary.get?_ofEntries,
    ← List.map_reverse, ← Dictionary.get?_eq_lookup,
    Dictionary.get?_map fun value : String => Binding.value (.text value),
    Dictionary.get?_eq_lookup,
    Option.map_eq_some_iff]
  simp only [lookup_reverse_filterMap_iff, and_comm, eq_comm]

/-- What a call binds a name to is a text, if anything, and can be written as it is. -/
theorem string?_contextFor_ne (arguments : List String) (name : String)
    (error : Value.TextError) : (contextFor arguments).string? name ≠ .error error := by
  rw [Context.string?]
  -- A value on the command line is a text, which is its own display.
  cases bound : (contextFor arguments).binding? name with
  | none => simp
  | some binding =>
    obtain ⟨value, rfl, -⟩ := (binding?_contextFor_iff arguments name binding).mp bound
    simp [Binding.string?, Value.display, Except.map]

/-- No variable is a title that was registered. -/
theorem source?_contextFor (arguments : List String) (name : String) :
    (contextFor arguments).source? name = none := by
  rw [Context.source?]
  cases bound : (contextFor arguments).binding? name with
  | none => rfl
  | some binding =>
    obtain ⟨value, rfl, -⟩ := (binding?_contextFor_iff arguments name binding).mp bound
    rfl

end Titling.CommandLine
