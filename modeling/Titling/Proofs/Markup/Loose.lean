import Mathlib.Data.List.Lex
import Titling.Markup.Loose

/-!
Trees that may hold values which are no markup: when they are written, and what is said otherwise.

A place in a tree is the way down to it. Places are in document order as lists of numbers are: one
comes before all places below it, and before all those in a later child of the same tree.
-/

namespace Titling.Markup.Loose

/-- The trees directly inside a tree. -/
def children : Loose → List Loose
  | .text _ => []
  | .element _ _ children => children
  | .fragment children => children
  | .foreign _ => []

/-- What stands at a place; each number says which child comes next on the way down. -/
def at? : Loose → List Nat → Option Loose
  | tree, [] => some tree
  | tree, index :: place => tree.children[index]?.bind (at? · place)

/-- Tells that no value in a tree is foreign to markup. -/
def IsWritable (tree : Loose) : Prop :=
  ∀ place kind, tree.at? place ≠ some (.foreign kind)

/-- Tells that the first foreign value in document order stands at a place and is of some kind. -/
structure IsFirstForeign (tree : Loose) (place : List Nat) (kind : String) : Prop where
  stands : tree.at? place = some (.foreign kind)
  first : ∀ other kind', tree.at? other = some (.foreign kind') → ¬ other < place

/-- A tree has one first foreign value at most. -/
theorem IsFirstForeign.kind_unique {tree : Loose} {place place' : List Nat} {kind kind' : String}
    (first : tree.IsFirstForeign place kind) (first' : tree.IsFirstForeign place' kind') :
    kind = kind' := by
  -- Neither of the two places comes before the other, so they are one place.
  have same : place = place' :=
    le_antisymm (not_lt.mp (first.first _ _ first'.stands))
      (not_lt.mp (first'.first _ _ first.stands))
  have stands := first.stands
  rw [same, first'.stands, Option.some.injEq, foreign.injEq] at stands
  exact stands.symm

/-- At the empty place stands the tree itself. -/
@[simp] theorem at?_nil (tree : Loose) : tree.at? [] = some tree := rfl

/-- Below an element stands what would stand below a fragment with its children. -/
theorem at?_element (tag : String) (attributes : List (String × String)) (trees : List Loose)
    (index : Nat) (place : List Nat) :
    (element tag attributes trees).at? (index :: place) =
      (fragment trees).at? (index :: place) :=
  rfl

/-- The first way down leads into the first child. -/
theorem at?_zero (first : Loose) (rest : List Loose) (place : List Nat) :
    (fragment (first :: rest)).at? (0 :: place) = first.at? place :=
  rfl

/-- The other ways down lead into the other children, which are counted anew. -/
theorem at?_succ (first : Loose) (rest : List Loose) (index : Nat) (place : List Nat) :
    (fragment (first :: rest)).at? ((index + 1) :: place) = (fragment rest).at? (index :: place) :=
  rfl

mutual

/-- The kinds of the values that are no nodes, in document order. -/
def foreignKinds : Loose → List String
  | .text _ => []
  | .element _ _ children => foreignKindsAll children
  | .fragment children => foreignKindsAll children
  | .foreign kind => [kind]

/-- The kinds of the values that are no nodes in a run of trees. -/
def foreignKindsAll : List Loose → List String
  | [] => []
  | first :: rest => foreignKinds first ++ foreignKindsAll rest

end

/-- A text is writable. -/
theorem isWritable_text (content : String) : (text content).IsWritable := by
  intro place kind
  cases place <;> simp [at?, children]

/-- An element is writable if a fragment with its children is. -/
theorem isWritable_element {tag : String} {attributes : List (String × String)}
    {trees : List Loose} (writable : (fragment trees).IsWritable) :
    (element tag attributes trees).IsWritable := by
  -- An element is no foreign value itself, so the places are those below it.
  intro place kind
  cases place with
  | nil => simp
  | cons index place =>
    rw [at?_element]
    exact writable (index :: place) kind

/-- An element has its first foreign value where a fragment with its children has it. -/
theorem IsFirstForeign.element {tag : String} {attributes : List (String × String)}
    {trees : List Loose} {place : List Nat} {kind : String}
    (found : (fragment trees).IsFirstForeign place kind) :
    (element tag attributes trees).IsFirstForeign place kind := by
  -- Neither of the two is itself foreign, so all foreign values are below them.
  cases place with
  | nil => simpa using found.stands
  | cons index place =>
    refine ⟨found.stands, fun other kind' stands => ?_⟩
    cases other with
    | nil => simp at stands
    | cons index' other =>
      rw [at?_element] at stands
      exact found.first (index' :: other) kind' stands

/-- A run of no trees is writable. -/
theorem isWritable_nil : (fragment []).IsWritable := by
  intro place kind
  cases place <;> simp [at?, children]

/-- A run of trees is writable if the first one and the others are. -/
theorem isWritable_cons {first : Loose} {rest : List Loose} (head : first.IsWritable)
    (tail : (fragment rest).IsWritable) : (fragment (first :: rest)).IsWritable := by
  -- A way down leads into the first tree, or into the others with one index less.
  intro place kind
  match place with
  | [] => simp
  | 0 :: place =>
    rw [at?_zero]
    exact head place kind
  | (index + 1) :: place =>
    rw [at?_succ]
    exact tail (index :: place) kind

/-- What is foreign in the first tree of a run comes before all that is foreign behind it. -/
theorem IsFirstForeign.cons_head {first : Loose} {rest : List Loose} {place : List Nat}
    {kind : String} (found : first.IsFirstForeign place kind) :
    (fragment (first :: rest)).IsFirstForeign (0 :: place) kind := by
  refine ⟨found.stands, fun other kind' stands => ?_⟩
  match other with
  | [] => simp at stands
  | 0 :: other =>
    rw [at?_zero] at stands
    have apart : ¬ other < place := found.first other kind' stands
    simpa using apart
  | (index + 1) :: other =>
    -- This one stands in a later child, which the first one comes before.
    intro before
    rcases List.cons_lt_cons_iff.mp before with less | ⟨same, -⟩
    · exact Nat.not_lt_zero _ less
    · exact Nat.succ_ne_zero _ same

/-- Behind a writable tree the first foreign value is that of the other trees. -/
theorem IsFirstForeign.cons_tail {first : Loose} {rest : List Loose} {index : Nat}
    {place : List Nat} {kind : String} (head : first.IsWritable)
    (found : (fragment rest).IsFirstForeign (index :: place) kind) :
    (fragment (first :: rest)).IsFirstForeign ((index + 1) :: place) kind := by
  -- Nothing stands before the first tree, and in it nothing before its first foreign value.
  refine ⟨found.stands, fun other kind' stands => ?_⟩
  match other with
  | [] => simp at stands
  | 0 :: other =>
    rw [at?_zero] at stands
    exact absurd stands (head other kind')
  | (index' + 1) :: other =>
    -- The places in the other trees are compared as before, each one child further on.
    rw [at?_succ] at stands
    have apart : ¬ index' :: other < index :: place := found.first (index' :: other) kind' stands
    rw [List.cons_lt_cons_iff] at apart ⊢
    rwa [Nat.add_lt_add_iff_right, Nat.add_right_cancel_iff]

mutual

/-- A tree has no foreign value, or a first one, which is of the kind that is listed first. -/
theorem foreignKinds_cases : ∀ tree : Loose,
    (tree.foreignKinds = [] ∧ tree.IsWritable) ∨
      ∃ kind later place, tree.foreignKinds = kind :: later ∧ tree.IsFirstForeign place kind
  -- The cases are those of the tree: only children can be foreign further down.
  | .text content => .inl ⟨rfl, isWritable_text content⟩
  | .element tag attributes children => by
    rcases foreignKindsAll_cases children with
      ⟨unlisted, writable⟩ | ⟨kind, later, place, listed, found⟩
    · exact .inl ⟨unlisted, isWritable_element writable⟩
    · exact .inr ⟨kind, later, place, listed, found.element⟩
  | .fragment children => foreignKindsAll_cases children
  | .foreign kind => .inr ⟨kind, [], [], rfl, rfl, fun other _ _ => List.not_lt_nil other⟩

/-- A run of trees has no foreign value, or a first one, of the kind that is listed first. -/
theorem foreignKindsAll_cases : ∀ trees : List Loose,
    (foreignKindsAll trees = [] ∧ (fragment trees).IsWritable) ∨
      ∃ kind later place, foreignKindsAll trees = kind :: later ∧
        (fragment trees).IsFirstForeign place kind
  | [] => .inl ⟨rfl, isWritable_nil⟩
  | first :: rest => by
    rw [foreignKindsAll]
    rcases foreignKinds_cases first with
      ⟨unlisted, head⟩ | ⟨kind, later, place, listed, found⟩
    · -- Nothing is foreign in the first tree, so the others decide.
      rw [unlisted, List.nil_append]
      rcases foreignKindsAll_cases rest with
        ⟨unlisted', tail⟩ | ⟨kind, later, place, listed, found⟩
      · exact .inl ⟨unlisted', isWritable_cons head tail⟩
      · cases place with
        | nil => simpa using found.stands
        | cons index place =>
          exact .inr ⟨kind, later, (index + 1) :: place, listed, found.cons_tail head⟩
    · -- The first tree decides, whatever the others are.
      rw [listed]
      exact .inr ⟨kind, later ++ foreignKindsAll rest, 0 :: place, rfl, found.cons_head⟩

end

mutual

/-- A tree is written as the node that it is, or what is listed first of it is said to be wrong. -/
theorem markup_cases : ∀ tree : Loose,
    (tree.foreignKinds = [] ∧ ∃ node, tree.node? = some node ∧ tree.markup = .ok node.markup) ∨
      ∃ kind later, tree.foreignKinds = kind :: later ∧ tree.node? = none ∧
        tree.markup = .error (.foreign kind)
  | .text content => .inl ⟨rfl, .text content, rfl, rfl⟩
  | .element tag attributes children => by
    -- Element and fragment fare as the run of their children does.
    rw [foreignKinds, node?, markup]
    rcases markupAll_cases children with
      ⟨unlisted, nodes, read, written⟩ | ⟨kind, later, listed, unread, failed⟩
    · rw [unlisted, read, written]
      exact .inl ⟨rfl, .element tag attributes nodes, rfl, rfl⟩
    · rw [listed, unread, failed]
      exact .inr ⟨kind, later, rfl, rfl, rfl⟩
  | .fragment children => by
    rw [foreignKinds, node?, markup]
    rcases markupAll_cases children with
      ⟨unlisted, nodes, read, written⟩ | ⟨kind, later, listed, unread, failed⟩
    · rw [unlisted, read, written]
      exact .inl ⟨rfl, .fragment nodes, rfl, rfl⟩
    · rw [listed, unread, failed]
      exact .inr ⟨kind, later, rfl, rfl, rfl⟩
  | .foreign kind => .inr ⟨kind, [], rfl, rfl, rfl⟩

/-- A run of trees is written as the nodes that it is, or what is listed first is wrong. -/
theorem markupAll_cases : ∀ trees : List Loose,
    (foreignKindsAll trees = [] ∧
      ∃ nodes, nodes? trees = some nodes ∧ markupAll trees = .ok (Node.markupAll nodes)) ∨
      ∃ kind later, foreignKindsAll trees = kind :: later ∧ nodes? trees = none ∧
        markupAll trees = .error (.foreign kind)
  | [] => .inl ⟨rfl, [], rfl, rfl⟩
  | first :: rest => by
    rw [foreignKindsAll, nodes?, markupAll]
    rcases markup_cases first with
      ⟨unlisted, node, read, written⟩ | ⟨kind, later, listed, unread, failed⟩
    · rw [unlisted, read, written, List.nil_append]
      -- The first tree is fine, so the run fares as its other trees do.
      rcases markupAll_cases rest with
        ⟨unlisted', nodes, read', written'⟩ | ⟨kind, later, listed, unread, failed⟩
      · rw [unlisted', read', written']
        exact .inl ⟨rfl, node :: nodes, rfl, rfl⟩
      · rw [listed, unread, failed]
        exact .inr ⟨kind, later, rfl, rfl, rfl⟩
    · -- The error of the first tree cuts the run short.
      rw [listed, unread, failed]
      exact .inr ⟨kind, later ++ foreignKindsAll rest, rfl, rfl, rfl⟩

end

/-- A tree is written if it is writable, and else its first foreign value is said to be wrong. -/
theorem written_or_failed (tree : Loose) :
    (tree.IsWritable ∧ ∃ node, tree.node? = some node ∧ tree.markup = .ok node.markup) ∨
      ∃ place kind, tree.IsFirstForeign place kind ∧ tree.node? = none ∧
        tree.markup = .error (.foreign kind) := by
  -- What is listed first of a tree is what stands first in it, and what the writer stops at.
  rcases foreignKinds_cases tree with
    ⟨unlisted, writable⟩ | ⟨kind, later, place, listed, first⟩
  · rcases markup_cases tree with ⟨-, written⟩ | ⟨kind, later, listed, -, -⟩
    · exact .inl ⟨writable, written⟩
    · rw [unlisted] at listed
      contradiction
  · rcases markup_cases tree with ⟨unlisted, -⟩ | ⟨kind', later', listed', unread, failed⟩
    · rw [unlisted] at listed
      contradiction
    · rw [listed, List.cons.injEq] at listed'
      exact .inr ⟨place, kind, first, unread, listed'.1 ▸ failed⟩

/--
A tree is written exactly if nothing in it is foreign, and then as the node that it is.

Otherwise the answer is an error and no markup. It names the kind of the first foreign value in
document order, whatever comes behind that value.
-/
theorem markup_fails_at_first_foreign (tree : Loose) :
    ((∃ text, tree.markup = .ok text) ↔ tree.IsWritable) ∧
    (∀ text, tree.markup = .ok text ↔ ∃ node, tree.node? = some node ∧ node.markup = text) ∧
    ∀ error, tree.markup = .error error ↔
      ∃ place kind, tree.IsFirstForeign place kind ∧ error = .foreign kind ∧
        error.message = "Cannot serialize " ++ kind := by
  rcases written_or_failed tree with
    ⟨writable, node, read, written⟩ | ⟨place, kind, first, unread, failed⟩
  · -- A tree that is written has no foreign value, so the third part has nothing to name.
    refine ⟨⟨fun _ => writable, fun _ => ⟨node.markup, written⟩⟩, fun text => ?_, fun error => ?_⟩
    · simp [read, written]
    · constructor
      · intro failed
        rw [written] at failed
        contradiction
      · rintro ⟨place, kind, first, -, -⟩
        exact absurd first.stands (writable place kind)
  · refine ⟨⟨?_, fun writable => absurd first.stands (writable place kind)⟩, fun text => ?_,
      fun error => ?_⟩
    · -- A tree that fails is not written, and its first foreign value stands in one place only.
      rintro ⟨text, written⟩
      rw [failed] at written
      contradiction
    · simp [unread, failed]
    · rw [failed, Except.error.injEq]
      constructor
      · rintro rfl
        exact ⟨place, kind, first, rfl, rfl⟩
      · rintro ⟨place', kind', first', rfl, -⟩
        rw [first.kind_unique first']

/-- The first of two foreign values is named, though the other one stands less deep. -/
example : markup (.fragment [.element "b" [] [.text "x", .foreign "int"], .foreign "str"]) =
    .error (.foreign "int") := by
  decide

end Titling.Markup.Loose
