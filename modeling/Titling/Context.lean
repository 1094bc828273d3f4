import Titling.Title.Source
import Titling.Value

/-! Contexts: layers of named values, of which the innermost that knows a name decides. -/

namespace Titling

/-- What a name stands for in a context. -/
inductive Binding where
  | value (value : Value)
  | source (source : Title.Source)

namespace Binding

/--
The text of a binding; neither an absent value nor a title source has one. A value whose text cannot
be written is no absent one.
-/
def string? : Binding → Except Value.TextError (Option String)
  | .value .null => .ok none
  | .value shown => shown.display.map some
  | .source _ => .ok none

/-- The title source of a binding, if it is one. -/
def source? : Binding → Option Title.Source
  | .value _ => none
  | .source title => some title

end Binding

/-- The names that one layer of a context knows. -/
abbrev Layer := Dictionary Binding

/-- Layers from the innermost to the outermost. -/
structure Context where
  layers : List Layer := []

namespace Context

/-- A context of one layer. -/
def ofLayer (layer : Layer) : Context where
  layers := [layer]

/-- Puts a new layer over a context. -/
def push (context : Context) (layer : Layer) : Context where
  layers := layer :: context.layers

/-- The context of layers given from the outermost to the innermost. -/
def ofOutermost (layers : List Layer) : Context :=
  layers.foldl push {}

/-- What the innermost of the layers that know a name binds it to. -/
def innermost? (name : String) : List Layer → Option Binding
  | [] => none
  -- A layer that knows the name decides, even where what it binds has no text.
  | layer :: outer =>
    match layer.get? name with
    | some binding => some binding
    | none => innermost? name outer

/-- What a name is bound to. -/
def binding? (context : Context) (name : String) : Option Binding :=
  innermost? name context.layers

/-- The text that a name stands for. -/
def string? (context : Context) (name : String) : Except Value.TextError (Option String) :=
  match context.binding? name with
  | some binding => binding.string?
  | none => .ok none

/-- The title source that a name stands for. -/
def source? (context : Context) (name : String) : Option Title.Source :=
  (context.binding? name).bind Binding.source?

/-- All layers in one, with inner entries over outer ones. -/
def flattened (context : Context) : Layer :=
  -- The innermost layer is laid over the others last.
  context.layers.foldr (fun inner outer => Dictionary.update outer inner) []

end Context

end Titling
