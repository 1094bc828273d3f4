import Titling.Context
import Titling.Proofs.Dictionary

/-! Contexts in layers: the innermost layer that knows a name decides what is looked up under it. -/

namespace Titling.Context

/-- Under a new layer a name is bound as the layer binds it, or else as before. -/
theorem binding?_push (context : Context) (layer : Layer) (name : String) :
    (context.push layer).binding? name = (layer.get? name).or (context.binding? name) := by
  simp only [binding?, push, innermost?]
  cases layer.get? name <;> rfl

/-- A text is looked for in the new layer if that knows the name, and else where it was before. -/
theorem string?_push (context : Context) (layer : Layer) (name : String) :
    (context.push layer).string? name =
      match layer.get? name with
      | some binding => binding.string?
      | none => context.string? name := by
  rw [string?, binding?_push]
  cases layer.get? name <;> rfl

/-- A source in the new layer is taken; if there is none, the layer may still know the name. -/
theorem source?_push (context : Context) (layer : Layer) (name : String) :
    (context.push layer).source? name =
      match layer.get? name with
      | some (.source title) => some title
      | _ => if layer.contains name then none else context.source? name := by
  rw [source?, binding?_push, Dictionary.contains]
  -- Only a value that is no source hides what the layers around have.
  rcases layer.get? name with _ | value | title <;> simp [source?, Binding.source?]

/-- A context of one layer binds names as the layer does. -/
theorem binding?_ofLayer (layer : Layer) (name : String) :
    (ofLayer layer).binding? name = layer.get? name := by
  simp only [binding?, ofLayer, innermost?]
  cases layer.get? name <;> rfl

/-- Layers that do not know a name make no difference to what it is bound to. -/
theorem binding?_foldl_push {covering : List Layer} {name : String}
    (unknown : ∀ layer ∈ covering, layer.contains name = false) (context : Context) :
    (covering.foldl push context).binding? name = context.binding? name := by
  -- Induct over the layers: each one that is pushed leaves the name bound as it was.
  induction covering generalizing context with
  | nil => rfl
  | cons layer rest ih =>
    have here : layer.get? name = none := by
      simpa [Dictionary.contains] using unknown layer List.mem_cons_self
    have later := ih (fun other inside => unknown other (List.mem_cons_of_mem _ inside))
      (context.push layer)
    rw [List.foldl_cons, later, binding?_push, here, Option.none_or]

/-- Layers that are pushed in turn stand in the opposite order. -/
theorem layers_foldl_push (inner : List Layer) (context : Context) :
    (inner.foldl push context).layers = inner.reverse ++ context.layers := by
  -- What is pushed first ends up behind all that is pushed later.
  induction inner generalizing context with
  | nil => rfl
  | cons layer rest ih => rw [List.foldl_cons, ih, push, List.reverse_cons, List.append_assoc]; rfl

/-- A name is bound in the layers as it is in all of them made one. -/
theorem get?_flattened {context : Context}
    (distinct : ∀ layer ∈ context.layers, (Dictionary.names layer).Nodup) (name : String) :
    context.flattened.get? name = context.binding? name := by
  obtain ⟨layers⟩ := context
  -- Induct over the layers from the outermost one inwards: each is laid over those around it.
  induction layers with
  | nil => rfl
  | cons layer outer ih =>
    have single := Dictionary.lookup_reverse (distinct layer List.mem_cons_self) name
    have around := ih fun other inside => distinct other (List.mem_cons_of_mem _ inside)
    calc (flattened ⟨layer :: outer⟩).get? name
      _ = (Dictionary.update (flattened ⟨outer⟩) layer).get? name := rfl
      _ = (layer.reverse.lookup name).or ((flattened ⟨outer⟩).get? name) :=
          Dictionary.get?_update _ _ _
      _ = (layer.get? name).or (binding? ⟨outer⟩ name) := by
          rw [single, ← Dictionary.get?_eq_lookup, around]
      _ = binding? ⟨layer :: outer⟩ name := (binding?_push ⟨outer⟩ layer name).symm

/-- The innermost layer that knows a name decides about both lookups, whatever is around it. -/
theorem lookups_of_innermost {layer : Layer} {covering : List Layer} {name : String}
    {binding : Binding} (known : layer.get? name = some binding)
    (unknown : ∀ cover ∈ covering, cover.contains name = false) (context : Context) :
    (covering.foldl push (context.push layer)).string? name = binding.string? ∧
      (covering.foldl push (context.push layer)).source? name = binding.source? := by
  have inside : layer.contains name = true := by rw [Dictionary.contains, known, Option.isSome_some]
  -- The layers that cover it leave both lookups to the layer itself.
  have reached := binding?_foldl_push unknown (context.push layer)
  constructor
  · calc (covering.foldl push (context.push layer)).string? name
      _ = (context.push layer).string? name := by rw [string?, reached, string?]
      _ = binding.string? := by rw [string?_push, known]
  · calc (covering.foldl push (context.push layer)).source? name
      _ = (context.push layer).source? name := by rw [source?, reached, source?]
      _ = binding.source? := by
          -- Whatever is no source hides those of the layers around.
          rw [source?_push, known]
          cases binding <;> simp [inside, Binding.source?]

/-- A name that stands for a title source stands for no text, not even for one that is too long. -/
theorem string?_or_source?_eq_none (context : Context) (name : String) :
    context.string? name = .ok none ∨ context.source? name = none := by
  rw [string?, source?]
  -- A value is no source, and a source has no text, so that one of the two is always missing.
  rcases context.binding? name with _ | value | title
  · exact .inl rfl
  · exact .inr rfl
  · exact .inl rfl

/--
Looking a name up in layers is looking it up in one dictionary, in which inner entries take the
place of outer ones.

The innermost layer that knows a name decides: a missing value in it, or one of the wrong kind,
hides whatever the name stands for farther out. A value with an integer of too many digits fails in
the layers and in the one dictionary. A name that no layer knows stands for nothing, and no name
stands for a text and for a title source.
-/
theorem lookups_of_layers {first : Layer} {inner : List Layer}
    (distinct : ∀ layer ∈ first :: inner, (Dictionary.names layer).Nodup) (name : String) :
    let context := inner.foldl push (ofLayer first)
    let flat := ofLayer context.flattened
    (context.binding? name = flat.binding? name ∧ context.string? name = flat.string? name ∧
      context.source? name = flat.source? name) ∧
    (∀ outer layer covering binding, first :: inner = outer ++ layer :: covering →
      layer.get? name = some binding → (∀ cover ∈ covering, cover.contains name = false) →
      match binding with
      | .value .null => context.string? name = .ok none ∧ context.source? name = none
      | .value shown =>
        context.string? name = shown.display.map some ∧ context.source? name = none
      | .source title => context.string? name = .ok none ∧ context.source? name = some title) ∧
    ((∀ layer ∈ first :: inner, layer.contains name = false) →
      context.string? name = .ok none ∧ context.source? name = none) ∧
    (context.string? name = .ok none ∨ context.source? name = none) := by
  intro context flat
  -- The first layer is the one that is pushed over the empty context.
  have pushed : context = (first :: inner).foldl push {} := rfl
  have layers : context.layers = (first :: inner).reverse := by
    rw [pushed, layers_foldl_push, List.append_nil]
  have alike : context.binding? name = flat.binding? name := by
    rw [binding?_ofLayer, get?_flattened]
    intro layer inside
    exact distinct layer (by rwa [layers, List.mem_reverse] at inside)
  refine ⟨⟨alike, ?_, ?_⟩, ?_, ?_, string?_or_source?_eq_none context name⟩
  · rw [string?, alike, string?]
  · rw [source?, alike, source?]
  · intro outer layer covering binding split known unknown
    have decided := lookups_of_innermost known unknown (outer.foldl push {})
    have whole : context = covering.foldl push ((outer.foldl push {}).push layer) := by
      rw [pushed, split, List.foldl_append, List.foldl_cons]
    rw [← whole] at decided
    -- Of all values only the missing one has no text.
    rcases binding with value | title
    · cases value <;> exact decided
    · exact decided
  · intro unknown
    have nothing : context.binding? name = none := by
      rw [pushed, binding?_foldl_push unknown]
      rfl
    simp only [string?, source?, nothing, Option.bind_none, and_self]

/-- What a site knows. -/
def siteLayer : Layer :=
  [("site", .value (.text "Acme")), ("owner", .value (.text "Ann")),
    ("title", .source { text := some "'x'" })]

/-- What a page knows: it has no owner. -/
def pageLayer : Layer :=
  [("page", .value (.text "Home")), ("owner", .value .null)]

/-- What a part of a page knows: whether it has a title, under the name of the title. -/
def partLayer : Layer :=
  [("title", .value (.bool true))]

/-- A missing owner hides the one of the site, and a truth value hides the registered title. -/
theorem lookups_of_layers_hidden :
    (∀ layer ∈ [siteLayer, pageLayer, partLayer], (Dictionary.names layer).Nodup) ∧
    let context := [pageLayer, partLayer].foldl push (ofLayer siteLayer)
    let flat := ofLayer context.flattened
    (context.string? "owner" = .ok none ∧ flat.string? "owner" = .ok none) ∧
    (context.string? "title" = .ok (some "True") ∧ context.source? "title" = none) ∧
    (context.source? "title" = flat.source? "title") := by
  have distinct : ∀ layer ∈ [siteLayer, pageLayer, partLayer],
      (Dictionary.names layer).Nodup := by
    decide
  obtain ⟨⟨-, text, -⟩, owner, -⟩ := lookups_of_layers distinct "owner"
  obtain ⟨⟨-, -, source⟩, title, -⟩ := lookups_of_layers distinct "title"
  have ownerless := (owner [siteLayer] pageLayer [partLayer] (.value .null) rfl rfl (by decide)).1
  have told :=
    title [siteLayer, pageLayer] partLayer [] (.value (.bool true)) rfl rfl (by decide)
  exact ⟨distinct, ⟨ownerless, text.symm.trans ownerless⟩, told, source⟩

end Titling.Context
