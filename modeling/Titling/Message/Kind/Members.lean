import Titling.Message.Kind

/-! The members that each kind has, and what they are. -/

namespace Titling.Message.Kind

/-- The members of a kind in order, in runs of one trait; those it comes from have more. -/
def runs : Kind → List (Trait × List String)
  | .object =>
    [(.maker, ["__new__"]),
     (.operator, ["__repr__", "__hash__", "__str__", "__getattribute__", "__setattr__",
      "__delattr__", "__lt__", "__le__", "__eq__", "__ne__", "__gt__", "__ge__", "__init__"]),
     (.method, ["__reduce_ex__", "__reduce__", "__getstate__"]),
     (.shared, ["__subclasshook__", "__init_subclass__"]),
     (.method, ["__format__", "__sizeof__", "__dir__"]),
     (.property, ["__class__"]),
     (.help, ["__doc__"])]
  | .type =>
    [(.maker, ["__new__"]),
     (.operator, ["__repr__", "__call__", "__getattribute__", "__setattr__", "__delattr__",
      "__init__", "__or__", "__ror__"]),
     (.method, ["mro", "__subclasses__"]),
     (.shared, ["__prepare__"]),
     (.method, ["__instancecheck__", "__subclasscheck__", "__dir__", "__sizeof__"]),
     (.slot, ["__basicsize__", "__itemsize__", "__flags__", "__weakrefoffset__", "__base__",
      "__dictoffset__", "__mro__"]),
     (.property, ["__name__", "__qualname__", "__bases__", "__module__", "__abstractmethods__",
      "__dict__", "__doc__", "__text_signature__", "__annotations__"])]
  | .integer =>
    [(.maker, ["__new__"]),
     (.operator, ["__repr__", "__hash__", "__getattribute__", "__lt__", "__le__", "__eq__",
      "__ne__", "__gt__", "__ge__", "__add__", "__radd__", "__sub__", "__rsub__", "__mul__",
      "__rmul__", "__mod__", "__rmod__", "__divmod__", "__rdivmod__", "__pow__", "__rpow__",
      "__neg__", "__pos__", "__abs__", "__bool__", "__invert__", "__lshift__", "__rlshift__",
      "__rshift__", "__rrshift__", "__and__", "__rand__", "__xor__", "__rxor__", "__or__",
      "__ror__", "__int__", "__float__", "__floordiv__", "__rfloordiv__", "__truediv__",
      "__rtruediv__", "__index__"]),
     (.method, ["conjugate", "bit_length", "bit_count", "to_bytes"]),
     (.shared, ["from_bytes"]),
     (.method, ["as_integer_ratio", "__trunc__", "__floor__", "__ceil__", "__round__",
      "__getnewargs__", "__format__", "__sizeof__"]),
     (.property, ["real", "imag", "numerator", "denominator"]),
     (.help, ["__doc__"])]
  | .truth =>
    [(.maker, ["__new__"]),
     (.operator, ["__repr__", "__and__", "__rand__", "__xor__", "__rxor__", "__or__", "__ror__"]),
     (.help, ["__doc__"])]
  | .float =>
    [(.maker, ["__new__"]),
     (.operator, ["__repr__", "__hash__", "__getattribute__", "__lt__", "__le__", "__eq__",
      "__ne__", "__gt__", "__ge__", "__add__", "__radd__", "__sub__", "__rsub__", "__mul__",
      "__rmul__", "__mod__", "__rmod__", "__divmod__", "__rdivmod__", "__pow__", "__rpow__",
      "__neg__", "__pos__", "__abs__", "__bool__", "__int__", "__float__", "__floordiv__",
      "__rfloordiv__", "__truediv__", "__rtruediv__"]),
     (.method, ["conjugate", "__trunc__", "__floor__", "__ceil__", "__round__",
      "as_integer_ratio"]),
     (.shared, ["fromhex"]),
     (.method, ["hex", "is_integer", "__getnewargs__"]),
     (.shared, ["__getformat__"]),
     (.method, ["__format__"]),
     (.property, ["real", "imag"]),
     (.help, ["__doc__"])]
  | .text =>
    [(.maker, ["__new__"]),
     (.operator, ["__repr__", "__hash__", "__str__", "__getattribute__", "__lt__", "__le__",
      "__eq__", "__ne__", "__gt__", "__ge__", "__iter__", "__mod__", "__rmod__", "__len__",
      "__getitem__", "__add__", "__mul__", "__rmul__", "__contains__"]),
     (.method, ["encode", "replace", "split", "rsplit", "join", "capitalize", "casefold", "title",
      "center", "count", "expandtabs", "find", "partition", "index", "ljust", "lower", "lstrip",
      "rfind", "rindex", "rjust", "rstrip", "rpartition", "splitlines", "strip", "swapcase",
      "translate", "upper", "startswith", "endswith", "removeprefix", "removesuffix", "isascii",
      "islower", "isupper", "istitle", "isspace", "isdecimal", "isdigit", "isnumeric", "isalpha",
      "isalnum", "isidentifier", "isprintable", "zfill", "format", "format_map", "__format__"]),
     (.free, ["maketrans"]),
     (.method, ["__sizeof__", "__getnewargs__"]),
     (.help, ["__doc__"])]
  | .list =>
    [(.maker, ["__new__"]),
     (.operator, ["__repr__"]),
     (.absent, ["__hash__"]),
     (.operator, ["__getattribute__", "__lt__", "__le__", "__eq__", "__ne__", "__gt__", "__ge__",
      "__iter__", "__init__", "__len__"]),
     (.method, ["__getitem__"]),
     (.operator, ["__setitem__", "__delitem__", "__add__", "__mul__", "__rmul__", "__contains__",
      "__iadd__", "__imul__"]),
     (.method, ["__reversed__", "__sizeof__", "clear", "copy", "append", "insert", "extend", "pop",
      "remove", "index", "count", "reverse", "sort"]),
     (.shared, ["__class_getitem__"]),
     (.help, ["__doc__"])]
  | .table =>
    [(.maker, ["__new__"]),
     (.operator, ["__repr__"]),
     (.absent, ["__hash__"]),
     (.operator, ["__getattribute__", "__lt__", "__le__", "__eq__", "__ne__", "__gt__", "__ge__",
      "__iter__", "__init__", "__or__", "__ror__", "__ior__", "__len__"]),
     (.method, ["__getitem__"]),
     (.operator, ["__setitem__", "__delitem__"]),
     (.method, ["__contains__", "__sizeof__", "get", "setdefault", "pop", "popitem", "keys",
      "items", "values", "update"]),
     (.shared, ["fromkeys"]),
     (.method, ["clear", "copy", "__reversed__"]),
     (.shared, ["__class_getitem__"]),
     (.help, ["__doc__"])]
  | .null =>
    [(.maker, ["__new__"]),
     (.operator, ["__repr__", "__bool__"]),
     (.help, ["__doc__"])]
  | .row =>
    [(.maker, ["__new__"]),
     (.operator, ["__repr__", "__hash__", "__getattribute__", "__lt__", "__le__", "__eq__",
      "__ne__", "__gt__", "__ge__", "__iter__", "__len__", "__getitem__", "__add__", "__mul__",
      "__rmul__", "__contains__"]),
     (.method, ["__getnewargs__", "index", "count"]),
     (.shared, ["__class_getitem__"]),
     (.help, ["__doc__"])]
  | .method =>
    [(.operator, ["__repr__", "__call__", "__getattribute__", "__get__"]),
     (.method, ["__reduce__"]),
     (.slot, ["__objclass__", "__name__"]),
     (.property, ["__doc__", "__qualname__", "__text_signature__"])]
  | .operator =>
    [(.operator, ["__repr__", "__call__", "__getattribute__", "__get__"]),
     (.method, ["__reduce__"]),
     (.slot, ["__objclass__", "__name__"]),
     (.property, ["__doc__", "__qualname__", "__text_signature__"])]
  | .property =>
    [(.operator, ["__repr__", "__getattribute__", "__get__", "__set__", "__delete__"]),
     (.slot, ["__objclass__", "__name__"]),
     (.property, ["__doc__", "__qualname__"])]
  | .slot =>
    [(.operator, ["__repr__", "__getattribute__", "__get__", "__set__", "__delete__"]),
     (.method, ["__reduce__"]),
     (.slot, ["__objclass__", "__name__"]),
     (.property, ["__doc__", "__qualname__"])]
  | .shared =>
    [(.operator, ["__repr__", "__call__", "__getattribute__", "__get__"]),
     (.slot, ["__objclass__", "__name__"]),
     (.property, ["__doc__", "__qualname__", "__text_signature__"])]
  | .function =>
    [(.operator, ["__repr__", "__hash__", "__call__", "__getattribute__", "__lt__", "__le__",
      "__eq__", "__ne__", "__gt__", "__ge__"]),
     (.method, ["__reduce__"]),
     (.slot, ["__module__"]),
     (.property, ["__doc__", "__name__", "__qualname__", "__self__", "__text_signature__"])]
  | .boundOperator =>
    [(.operator, ["__repr__", "__hash__", "__call__", "__getattribute__", "__lt__", "__le__",
      "__eq__", "__ne__", "__gt__", "__ge__"]),
     (.method, ["__reduce__"]),
     (.slot, ["__self__"]),
     (.property, ["__objclass__", "__name__", "__qualname__", "__doc__", "__text_signature__"])]
  | .alias =>
    [(.maker, ["__new__"]),
     (.operator, ["__repr__", "__hash__", "__call__", "__getattribute__", "__lt__", "__le__",
      "__eq__", "__ne__", "__gt__", "__ge__", "__iter__", "__or__", "__ror__", "__getitem__"]),
     (.method, ["__mro_entries__", "__instancecheck__", "__subclasscheck__", "__reduce__",
      "__dir__"]),
     (.slot, ["__origin__", "__args__", "__unpacked__"]),
     (.property, ["__parameters__", "__typing_unpacked_tuple_args__"]),
     (.help, ["__doc__"])]
  | .view =>
    [(.maker, ["__new__"]),
     (.operator, ["__repr__", "__str__", "__getattribute__", "__lt__", "__le__", "__eq__", "__ne__",
      "__gt__", "__ge__", "__iter__", "__or__", "__ror__", "__ior__", "__len__", "__getitem__",
      "__contains__"]),
     (.method, ["get", "keys", "values", "items", "copy"]),
     (.shared, ["__class_getitem__"]),
     (.method, ["__reversed__"]),
     (.help, ["__doc__"]),
     (.absent, ["__hash__"])]
  | .loner =>
    [(.maker, ["__new__"]),
     (.operator, ["__repr__", "__call__", "__get__", "__init__"]),
     (.slot, ["__func__", "__wrapped__"]),
     (.property, ["__isabstractmethod__", "__dict__"]),
     (.help, ["__doc__"])]
  | .date | .time | .instant => []

/-- The members of a kind in order. -/
def members (kind : Kind) : List (String × Trait) :=
  kind.runs.flatMap fun run => run.2.map fun name => (name, run.1)

/-- What a member of a kind is, if the kind itself has it. -/
def own? (kind : Kind) (name : String) : Option Trait :=
  (kind.runs.find? fun run => run.2.contains name).map Prod.fst

/-- What a member of a kind is, with the nearest kind of the lineage that has it. -/
def find? (kind : Kind) (name : String) : Option (Kind × Trait) :=
  kind.lineage.findSome? fun owner => (owner.own? name).map fun trait => (owner, trait)

-- A truth value has an operator of its own where an integer has another one.
example : truth.find? "__and__" = some (.truth, .operator) := by decide +kernel
example : truth.find? "__add__" = some (.integer, .operator) := by decide +kernel
example : truth.find? "__init__" = some (.object, .operator) := by decide +kernel

end Titling.Message.Kind
