import Titling.Dictionary
import Titling.Markup.Node

/-! Elements on their own: reading, overriding and removing attributes. -/

namespace Titling.Markup

/-- An element; its attributes stand in order and a name may stand more than once. -/
structure Element where
  tag : String
  attributes : List (String × String) := []
  children : List Node := []
deriving DecidableEq

namespace Element

/-- An element as a node. -/
def node (element : Element) : Node :=
  .element element.tag element.attributes element.children

/-- Keeps the entries that have a value. -/
def present (entries : List (String × Option String)) : List (String × String) :=
  entries.filterMap fun entry => entry.2.map fun value => (entry.1, value)

/-- An element whose optional attributes are left out where they have no value. -/
def ofOptional (tag : String) (attributes : Dictionary (Option String))
    (children : List Node := []) : Element where
  tag := tag
  attributes := present attributes
  children := children

/-- The attributes with each name once, at its first place and with its last value. -/
def attributeMap (element : Element) : Dictionary String :=
  Dictionary.ofEntries element.attributes

/-- Tells whether an attribute stands on the element. -/
def has (element : Element) (name : String) : Bool :=
  element.attributes.any fun pair => pair.1 == name

/-- The value of an attribute where it stands first. -/
def get? (element : Element) (name : String) : Option String :=
  element.attributes.lookup name

/-- Overrides attributes in their places and adds new ones; one without a value is taken away. -/
def withAttributes (element : Element) (overrides : Dictionary (Option String)) : Element :=
  -- All present attributes have values, and an override may take one away.
  let current := element.attributeMap.map fun pair => (pair.1, some pair.2)
  ofOptional element.tag (Dictionary.update current overrides) element.children

/-- Takes away an attribute wherever it stands. -/
def without (element : Element) (name : String) : Element :=
  { element with attributes := element.attributes.filter fun pair => pair.1 != name }

/-- Puts other children in the place of the present ones. -/
def withChildren (element : Element) (children : List Node) : Element :=
  { element with children := children }

/-- The text of an element without the tags in it. -/
def plainText (element : Element) : String :=
  Node.plainTextAll element.children

/--
Lays a content element over a layout element: its tag, its attributes over the other's, and its
children if it has any. A missing side yields the other one.
-/
def merge : (layout content : Option Element) → Option Element
  | none, content => content
  | some layout, none => some layout
  | some layout, some content =>
    let overrides := content.attributeMap.map fun pair => (pair.1, some pair.2)
    -- The content page decides about names that both elements have.
    let merged := ({ layout with tag := content.tag }).withAttributes overrides
    let children := if content.children.isEmpty then layout.children else content.children
    some (merged.withChildren children)

end Element

end Titling.Markup
