import Titling.Markup.Written
import Titling.Proofs.Markup.Escape

/-! Written markup is read in one way only: no two tidy nodes have the same markup. -/

namespace Titling.Markup

/-- Tells whether a tag, or the name of an attribute, may hold a character. -/
def isNameChar (char : Char) : Bool :=
  char.isAlphanum || ['-', '_', ':', '.'].contains char

/-- Tells whether a text may be a tag, or the name of an attribute. -/
def isName (name : String) : Bool :=
  !name.isEmpty && name.toList.all isNameChar

namespace Node

/-- Tells whether a node is a text. -/
def isText : Node → Bool
  | .text _ => true
  | _ => false

/-- Tells whether a run of nodes begins with a text. -/
def beginsWithText (nodes : List Node) : Bool :=
  nodes.head?.any isText

mutual

/--
Tells whether a node is made of elements and texts in the form in which pages have them: there are
names for all tags and attributes, and a text says something, has no tag in it and no other text
beside it.
-/
def isTidy : Node → Bool
  | .text content => !content.isEmpty && !content.toList.contains '<'
  | .element tag attributes children =>
    isName tag && attributes.all (fun pair => isName pair.1) && areTidy children
  | .fragment _ => false

/-- Tells whether the nodes of a run are tidy. -/
def areTidy : List Node → Bool
  | [] => true
  | node :: rest =>
    -- Two texts side by side are written like a single one.
    isTidy node && areTidy rest && !(isText node && beginsWithText rest)

end

end Node

/-- Tells that a part of a text goes on up to the first of the characters that stop it. -/
structure Delimited (stops : Char → Bool) (part rest : List Char) : Prop where
  inside : ∀ char ∈ part, stops char = false
  ends : rest.head?.any stops = true

/-- A delimited part is what stands in front of the first character that stops it. -/
theorem Delimited.takeWhile {stops : Char → Bool} {part rest : List Char}
    (delimited : Delimited stops part rest) :
    (part ++ rest).takeWhile (fun char => !stops char) = part := by
  have passed : ∀ char ∈ part, (!stops char) = true := by
    intro char known
    rw [delimited.inside char known, Bool.not_false]
  rw [List.takeWhile_append_of_pos passed]
  cases rest with
  | nil => simp
  | cons stop later =>
    -- The character behind the part stops it.
    have stopped : stops stop = true := by simpa using delimited.ends
    simp [stopped]

/-- Where two delimited parts begin the same text, they are the same. -/
theorem Delimited.unique {stops : Char → Bool} {part rest part' rest' : List Char}
    (delimited : Delimited stops part rest) (delimited' : Delimited stops part' rest')
    (same : part ++ rest = part' ++ rest') : part = part' ∧ rest = rest' := by
  -- Both parts are what stands in front of the first stop.
  have parts : part = part' := by
    rw [← delimited.takeWhile, same, delimited'.takeWhile]
  subst parts
  exact ⟨rfl, List.append_cancel_left same⟩

/-- A name goes on up to a character that no name has. -/
theorem delimited_name {name : String} (named : isName name = true) {rest : List Char}
    (ends : rest.head?.any (fun char => !isNameChar char) = true) :
    Delimited (fun char => !isNameChar char) name.toList rest where
  inside := by
    intro char known
    rw [isName, Bool.and_eq_true, List.all_eq_true] at named
    rw [named.2 char known, Bool.not_true]
  ends := ends

/-- Names that begin the same text are the same if no more of a name follows them. -/
theorem name_unique {name name' : String} (named : isName name = true)
    (named' : isName name' = true) {rest rest' : List Char}
    (ends : rest.head?.any (fun char => !isNameChar char) = true)
    (ends' : rest'.head?.any (fun char => !isNameChar char) = true)
    (same : name.toList ++ rest = name'.toList ++ rest') : name = name' ∧ rest = rest' := by
  obtain ⟨names, tails⟩ := (delimited_name named ends).unique (delimited_name named' ends') same
  exact ⟨String.toList_inj.mp names, tails⟩

/-- A name begins with a character of a name. -/
theorem exists_name_eq {name : String} (named : isName name = true) :
    ∃ first rest, name.toList = first :: rest ∧ isNameChar first = true := by
  rw [isName, Bool.and_eq_true, List.all_eq_true] at named
  obtain ⟨nonempty, all⟩ := named
  cases written : name.toList with
  | nil => simp [String.toList_eq_nil_iff.mp written] at nonempty
  | cons first rest => exact ⟨first, rest, rfl, all first (by simp [written])⟩

/-- An escaped value has no double quote in it. -/
theorem quote_not_mem_escapeAttribute (value : String) : '"' ∉ (escapeAttribute value).toList := by
  -- A quote in the escaped text would come from a single character of the value.
  rw [escapeAttribute, String.toList_ofList, List.mem_flatMap]
  rintro ⟨char, -, inside⟩
  -- Each character is looked at by itself: the quote is one of those that are replaced.
  unfold escapeChar at inside
  split at inside
  all_goals first | exact absurd inside (by decide) | skip
  rename_i quote _
  exact quote (List.mem_singleton.mp inside).symm

/-- Different values stay different when they are escaped, as each can be decoded again. -/
theorem escapeAttribute_inj {value value' : String}
    (same : escapeAttribute value = escapeAttribute value') : value = value' := by
  -- Decoding is a left inverse of escaping.
  have read : ∀ text, CharacterReference.decode? (escapeAttribute text) = some text :=
    decode?_escape (by decide)
  rw [← Option.some.injEq, ← read value, same, read value']

/-- The characters of an attribute: its name, and its value between quotes. -/
theorem toList_attributeText (pair : String × String) :
    (attributeText pair).toList =
      ' ' :: (pair.1.toList ++ ('=' :: '"' :: ((escapeAttribute pair.2).toList ++ ['"']))) := by
  simp [attributeText]

/-- The characters of a start tag. -/
theorem toList_startTag (tag : String) (attributes : List (String × String)) :
    (startTag tag attributes).toList =
      '<' :: (tag.toList ++ (attributes.flatMap (fun pair => (attributeText pair).toList) ++
        ['>'])) := by
  simp [startTag, String.toList_join, List.flatMap_map]

/-- The characters of an end tag. -/
theorem toList_endTag (tag : String) :
    (endTag tag).toList = '<' :: '/' :: (tag.toList ++ ['>']) := by
  simp [endTag]

/-- An attribute that begins a text is the same in every reading, and so is what follows it. -/
theorem attribute_unique {pair pair' : String × String} (named : isName pair.1 = true)
    (named' : isName pair'.1 = true) {rest rest' : List Char}
    (same : (attributeText pair).toList ++ rest = (attributeText pair').toList ++ rest') :
    pair = pair' ∧ rest = rest' := by
  obtain ⟨name, value⟩ := pair
  obtain ⟨name', value'⟩ := pair'
  simp only [toList_attributeText, List.cons_append, List.append_assoc, List.nil_append,
    List.cons.injEq, true_and] at same
  -- The name goes on up to the equals sign, and the value up to the quote behind it.
  obtain ⟨rfl, values⟩ := name_unique named named' rfl rfl same
  simp only [List.cons.injEq, true_and] at values
  have quoted : ∀ (text : String) (later : List Char),
      Delimited (· == '"') (escapeAttribute text).toList ('"' :: later) := by
    intro text later
    refine ⟨fun char known => ?_, rfl⟩
    exact beq_false_of_ne fun quote => quote_not_mem_escapeAttribute text (quote ▸ known)
  obtain ⟨escaped, tails⟩ := (quoted value rest).unique (quoted value' rest') values
  obtain rfl := escapeAttribute_inj (String.toList_inj.mp escaped)
  exact ⟨rfl, (List.cons.inj tails).2⟩

/-- Attributes up to the end of a start tag are the same in every reading. -/
theorem attributes_unique {attributes attributes' : List (String × String)}
    (named : ∀ pair ∈ attributes, isName pair.1 = true)
    (named' : ∀ pair ∈ attributes', isName pair.1 = true) {rest rest' : List Char}
    (same : attributes.flatMap (fun pair => (attributeText pair).toList) ++ '>' :: rest =
      attributes'.flatMap (fun pair => (attributeText pair).toList) ++ '>' :: rest') :
    attributes = attributes' ∧ rest = rest' := by
  -- A space announces one more attribute, so both lists end at the same place.
  induction attributes generalizing attributes' with
  | nil =>
    cases attributes' with
    | nil => exact ⟨rfl, (List.cons.inj same).2⟩
    | cons pair' others' => simp [toList_attributeText] at same
  | cons pair others ih =>
    cases attributes' with
    | nil => simp [toList_attributeText] at same
    | cons pair' others' =>
      simp only [List.flatMap_cons, List.append_assoc] at same
      obtain ⟨rfl, later⟩ := attribute_unique (named pair List.mem_cons_self)
        (named' pair' List.mem_cons_self) same
      obtain ⟨rfl, tails⟩ := ih (fun pair known => named pair (List.mem_cons_of_mem _ known))
        (fun pair known => named' pair (List.mem_cons_of_mem _ known)) later
      exact ⟨rfl, tails⟩

/-- A start tag that begins a text is the same in every reading, and so is what follows it. -/
theorem startTag_unique {tag tag' : String} {attributes attributes' : List (String × String)}
    (tagged : isName tag = true) (tagged' : isName tag' = true)
    (named : ∀ pair ∈ attributes, isName pair.1 = true)
    (named' : ∀ pair ∈ attributes', isName pair.1 = true) {rest rest' : List Char}
    (same : (startTag tag attributes).toList ++ rest =
      (startTag tag' attributes').toList ++ rest') :
    tag = tag' ∧ attributes = attributes' ∧ rest = rest' := by
  -- Both begin with a bracket, and then the tag goes on as far as a name can.
  simp only [toList_startTag, List.cons_append, List.append_assoc, List.nil_append,
    List.cons.injEq, true_and] at same
  -- Behind the tag stands a space or the closing bracket, and neither belongs to a name.
  have ends : ∀ (attributes : List (String × String)) (later : List Char),
      (attributes.flatMap (fun pair => (attributeText pair).toList) ++ '>' :: later).head?.any
        (fun char => !isNameChar char) = true := by
    intro attributes later
    cases attributes with
    | nil => rfl
    | cons pair others => simp [toList_attributeText, isNameChar]
  obtain ⟨rfl, later⟩ := name_unique tagged tagged' (ends _ _) (ends _ _) same
  obtain ⟨rfl, tails⟩ := attributes_unique named named' later
  exact ⟨rfl, rfl, tails⟩

namespace Node

/-- What an end tag begins with. -/
def closing : List Char := ['<', '/']

/-- A tidy text has some character, and none of its characters is an opening bracket. -/
theorem isTidy_text_iff (content : String) :
    isTidy (.text content) = true ↔ content ≠ "" ∧ '<' ∉ content.toList := by
  simp [isTidy]

/-- A tidy element has names, and tidy children. -/
theorem isTidy_element_iff (tag : String) (attributes : List (String × String))
    (children : List Node) :
    isTidy (.element tag attributes children) = true ↔
      isName tag = true ∧ (∀ pair ∈ attributes, isName pair.1 = true) ∧
        areTidy children = true := by
  simp only [isTidy, Bool.and_eq_true, List.all_eq_true, and_assoc]

/-- In a tidy run all nodes are tidy, and behind a text stands none. -/
theorem areTidy_cons_iff (node : Node) (others : List Node) :
    areTidy (node :: others) = true ↔
      isTidy node = true ∧ areTidy others = true ∧
        (isText node = true → beginsWithText others = false) := by
  simp only [areTidy, Bool.and_eq_true, and_assoc, Bool.not_eq_true', Bool.and_eq_false_imp]

/-- A tidy text begins with some other character than an opening bracket. -/
theorem text_append_ne {content : String} (tidy : isTidy (.text content) = true)
    (rest later : List Char) : content.toList ++ rest ≠ '<' :: later := by
  obtain ⟨nonempty, plain⟩ := (isTidy_text_iff content).mp tidy
  obtain ⟨first, tail, written⟩ :=
    List.exists_cons_of_ne_nil (mt String.toList_eq_nil_iff.mp nonempty)
  -- If it did, the bracket would be a character of the text.
  rw [written, List.cons_append]
  rintro same
  rw [written, (List.cons.inj same).1] at plain
  exact plain List.mem_cons_self

/-- In front of an end tag, the markup of a run that begins with no text begins with a bracket. -/
theorem exists_bracket_eq {nodes : List Node} (tidy : areTidy nodes = true)
    (silent : beginsWithText nodes = false) {rest : List Char} (closed : closing <+: rest) :
    ∃ later, (markupAll nodes).toList ++ rest = '<' :: later := by
  -- The first node has to be an element, or there is none and the end tag comes at once.
  cases nodes with
  | nil =>
    obtain ⟨later, rfl⟩ := closed
    exact ⟨'/' :: later, rfl⟩
  | cons node others =>
    match node with
    | .text content => simp [beginsWithText, isText] at silent
    | .fragment children => simp [areTidy, isTidy] at tidy
    | .element tag attributes children => simp [markupAll, markup, toList_startTag]

/-- The markup of a run that has any nodes does not begin as an end tag does. -/
theorem not_begins_closing {node : Node} {others : List Node}
    (tidy : areTidy (node :: others) = true) (rest : List Char) :
    ¬ closing <+: (markupAll (node :: others)).toList ++ rest := by
  rintro ⟨later, same⟩
  obtain ⟨whole, -, -⟩ := (areTidy_cons_iff node others).mp tidy
  match node with
  | .text content =>
    rw [markupAll, markup, String.toList_append, List.append_assoc] at same
    exact text_append_ne whole _ _ same.symm
  | .fragment children => simp [isTidy] at whole
  | .element tag attributes children =>
    -- Behind the bracket stands a character of the tag, and that is no slash.
    obtain ⟨tagged, -, -⟩ := (isTidy_element_iff tag attributes children).mp whole
    obtain ⟨first, tail, written, named⟩ := exists_name_eq tagged
    simp only [closing, markupAll, markup, toList_startTag, written, String.toList_append,
      List.cons_append, List.nil_append, List.append_assoc, List.cons.injEq, true_and] at same
    rw [← same.1] at named
    exact absurd named (by decide)

/-- An element is the same in every reading if its children are. -/
theorem element_unique {tag tag' : String} {attributes attributes' : List (String × String)}
    {children children' : List Node} (tidy : isTidy (.element tag attributes children) = true)
    (tidy' : isTidy (.element tag' attributes' children') = true)
    (inner : areTidy children = true → areTidy children' = true → ∀ rest rest',
      closing <+: rest → closing <+: rest' →
      (markupAll children).toList ++ rest = (markupAll children').toList ++ rest' →
      children = children' ∧ rest = rest')
    {rest rest' : List Char}
    (same : (markup (.element tag attributes children)).toList ++ rest =
      (markup (.element tag' attributes' children')).toList ++ rest') :
    Node.element tag attributes children = .element tag' attributes' children' ∧
      rest = rest' := by
  -- The start tags are the same, so what is compared is children up to an end tag.
  obtain ⟨tagged, named, neat⟩ := (isTidy_element_iff tag attributes children).mp tidy
  obtain ⟨tagged', named', neat'⟩ := (isTidy_element_iff tag' attributes' children').mp tidy'
  simp only [markup, String.toList_append, List.append_assoc] at same
  obtain ⟨rfl, rfl, bodies⟩ := startTag_unique tagged tagged' named named' same
  -- The children go on up to the end tag, which is the same as the tags are.
  have closed : ∀ later : List Char, closing <+: (endTag tag).toList ++ later := by
    intro later
    rw [toList_endTag]
    exact ⟨tag.toList ++ ['>'] ++ later, rfl⟩
  obtain ⟨rfl, ends⟩ := inner neat neat' _ _ (closed rest) (closed rest') bodies
  exact ⟨rfl, List.append_cancel_left ends⟩

/-- A text is the same in every reading if a bracket follows it. -/
theorem text_unique {content content' : String} (tidy : isTidy (.text content) = true)
    (tidy' : isTidy (.text content') = true) {rest rest' : List Char}
    (ends : ∃ later, rest = '<' :: later) (ends' : ∃ later, rest' = '<' :: later)
    (same : content.toList ++ rest = content'.toList ++ rest') :
    content = content' ∧ rest = rest' := by
  -- A text has no bracket in it, so it goes on up to the first one.
  have delimited : ∀ {text : String} {tail : List Char}, isTidy (.text text) = true →
      (∃ later, tail = '<' :: later) → Delimited (· == '<') text.toList tail := by
    rintro text _ tidy ⟨later, rfl⟩
    obtain ⟨-, plain⟩ := (isTidy_text_iff text).mp tidy
    exact ⟨fun char known => beq_false_of_ne fun bracket => plain (bracket ▸ known), rfl⟩
  obtain ⟨texts, tails⟩ := (delimited tidy ends).unique (delimited tidy' ends') same
  exact ⟨String.toList_inj.mp texts, tails⟩

/-- A run of tidy nodes in front of an end tag is the same in every reading. -/
theorem markupAll_unique (nodes nodes' : List Node) (tidy : areTidy nodes = true)
    (tidy' : areTidy nodes' = true) (rest rest' : List Char) (closed : closing <+: rest)
    (closed' : closing <+: rest')
    (same : (markupAll nodes).toList ++ rest = (markupAll nodes').toList ++ rest') :
    nodes = nodes' ∧ rest = rest' := by
  -- What two runs begin with tells of what kind their first nodes are, or that they are at an end.
  match nodes, nodes' with
  | [], [] => exact ⟨rfl, same⟩
  | [], node' :: others' => exact absurd (same ▸ closed) (not_begins_closing tidy' rest')
  | node :: others, [] => exact absurd (same ▸ closed') (not_begins_closing tidy rest)
  | .fragment children :: others, _ => simp [areTidy, isTidy] at tidy
  | _, .fragment children :: others => simp [areTidy, isTidy] at tidy'
  | .element tag attributes children :: others, .element tag' attributes' children' :: others' =>
    obtain ⟨whole, neat, -⟩ := (areTidy_cons_iff _ others).mp tidy
    obtain ⟨whole', neat', -⟩ := (areTidy_cons_iff _ others').mp tidy'
    simp only [markupAll, String.toList_append, List.append_assoc] at same
    obtain ⟨heads, tails⟩ := element_unique whole whole' (markupAll_unique children children') same
    obtain ⟨rfl, ends⟩ := markupAll_unique others others' neat neat' rest rest' closed closed' tails
    exact ⟨by rw [heads], ends⟩
  | .text content :: others, .text content' :: others' =>
    obtain ⟨whole, neat, apart⟩ := (areTidy_cons_iff _ others).mp tidy
    obtain ⟨whole', neat', apart'⟩ := (areTidy_cons_iff _ others').mp tidy'
    simp only [markupAll, markup, String.toList_append, List.append_assoc] at same
    -- No text follows, so both texts go on up to the next bracket.
    obtain ⟨rfl, tails⟩ := text_unique whole whole' (exists_bracket_eq neat (apart rfl) closed)
      (exists_bracket_eq neat' (apart' rfl) closed') same
    obtain ⟨rfl, ends⟩ := markupAll_unique others others' neat neat' rest rest' closed closed' tails
    exact ⟨rfl, ends⟩
  | .text content :: others, .element tag' attributes' children' :: others' =>
    obtain ⟨whole, -, -⟩ := (areTidy_cons_iff _ others).mp tidy
    simp only [markupAll, markup, toList_startTag, String.toList_append, List.append_assoc,
      List.cons_append] at same
    exact absurd same (text_append_ne whole _ _)
  | .element tag attributes children :: others, .text content' :: others' =>
    obtain ⟨whole', -, -⟩ := (areTidy_cons_iff _ others').mp tidy'
    simp only [markupAll, markup, toList_startTag, String.toList_append, List.append_assoc,
      List.cons_append] at same
    exact absurd same.symm (text_append_ne whole' _ _)

/--
Markup is unambiguous: tidy nodes that are written alike are the same node.

So the values of attributes, which may be any text, can be told from what stands around them, and so
can texts and tags at any depth.
-/
theorem markup_eq_iff {first second : Node} (tidy : first.isTidy = true)
    (tidy' : second.isTidy = true) : first.markup = second.markup ↔ first = second := by
  refine ⟨fun same => ?_, fun same => by rw [same]⟩
  -- A node by itself is a run of one node; what follows it may as well be an end tag.
  have alone : ∀ {node : Node}, node.isTidy = true → areTidy [node] = true := fun tidy =>
    (areTidy_cons_iff _ []).mpr ⟨tidy, rfl, fun _ => rfl⟩
  have runs : (markupAll [first]).toList ++ closing = (markupAll [second]).toList ++ closing := by
    simp only [markupAll, same]
  obtain ⟨heads, -⟩ := markupAll_unique [first] [second] (alone tidy) (alone tidy') closing closing
    List.prefix_rfl List.prefix_rfl runs
  exact (List.cons.inj heads).1

/-- A value that looks like the end of its attribute is told from two attributes. -/
theorem markup_ne_of_quoted :
    isTidy (.element "a" [("b", "1\" c=\"2")] []) = true ∧
    isTidy (.element "a" [("b", "1"), ("c", "2")] []) = true ∧
    markup (.element "a" [("b", "1\" c=\"2")] []) ≠
      markup (.element "a" [("b", "1"), ("c", "2")] []) := by
  have tidy : isTidy (.element "a" [("b", "1\" c=\"2")] []) = true := by decide
  have tidy' : isTidy (.element "a" [("b", "1"), ("c", "2")] []) = true := by decide
  exact ⟨tidy, tidy', mt (markup_eq_iff tidy tidy').mp (by decide)⟩

-- Nodes that are not tidy may be written alike.
example :
    markup (.element "a" [] [.text "b", .text "c"]) = markup (.element "a" [] [.text "bc"]) := by
  decide

end Node

end Titling.Markup
