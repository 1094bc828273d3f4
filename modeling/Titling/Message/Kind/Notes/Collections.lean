import Titling.Message.Kind.Note

/-! What there is to read about the members of lists, tables and what is like them. -/

namespace Titling.Message.Kind

/-- Notes on the members of lists. -/
def listNotes : List (String × Note) :=
  [("__getitem__", .told "x.__getitem__(y) <==> x[y]"),
   ("__reversed__", .full "($self, /)" "Return a reverse iterator over the list."),
   ("__sizeof__", .full "($self, /)" "Return the size of the list in memory, in bytes."),
   ("clear", .full "($self, /)" "Remove all items from list."),
   ("copy", .full "($self, /)" "Return a shallow copy of the list."),
   ("append", .full "($self, object, /)" "Append object to the end of the list."),
   ("insert", .full "($self, index, object, /)" "Insert object before index."),
   ("extend", .full "($self, iterable, /)" "Extend list by appending elements from the iterable."),
   ("pop", .full "($self, index=-1, /)"
      ("Remove and return item at index (default last).\n\n"
      ++ "Raises IndexError if list is empty or index is out of range.")),
   ("remove", .full "($self, value, /)"
      "Remove first occurrence of value.\n\nRaises ValueError if the value is not present."),
   ("index", .full "($self, value, start=0, stop=sys.maxsize, /)"
      "Return first index of value.\n\nRaises ValueError if the value is not present."),
   ("count", .full "($self, value, /)" "Return number of occurrences of value."),
   ("reverse", .full "($self, /)" "Reverse *IN PLACE*."),
   ("sort", .full "($self, /, *, key=None, reverse=False)"
      ("Sort the list in ascending order and return None.\n\n"
      ++ "The sort is in-place (i.e. the list itself is modified) and stable (i.e. the\n"
      ++ "order of two equal elements is maintained).\n\n"
      ++ "If a key function is given, apply it once to each list item and sort them,\n"
      ++ "ascending or descending, according to their function values.\n\n"
      ++ "The reverse flag can be set to sort in descending order.")),
   ("__class_getitem__", .told "See PEP 585")]

/-- Notes on the members of tables. -/
def tableNotes : List (String × Note) :=
  [("__getitem__", .told "x.__getitem__(y) <==> x[y]"),
   ("__contains__", .full "($self, key, /)"
      "True if the dictionary has the specified key, else False."),
   ("__sizeof__", .told "D.__sizeof__() -> size of D in memory, in bytes"),
   ("get", .full "($self, key, default=None, /)"
      "Return the value for key if key is in the dictionary, else default."),
   ("setdefault", .full "($self, key, default=None, /)"
      ("Insert key with a value of default if key is not in the dictionary.\n\n"
      ++ "Return the value for key if key is in the dictionary, else default.")),
   ("pop", .full "($self, key, default=<unrepresentable>, /)"
      ("D.pop(k[,d]) -> v, remove specified key and return the corresponding value.\n\n"
      ++ "If the key is not found, return the default if given; otherwise,\n"
      ++ "raise a KeyError.")),
   ("popitem", .full "($self, /)"
      ("Remove and return a (key, value) pair as a 2-tuple.\n\n"
      ++ "Pairs are returned in LIFO (last-in, first-out) order.\n"
      ++ "Raises KeyError if the dict is empty.")),
   ("keys", .told "D.keys() -> a set-like object providing a view on D's keys"),
   ("items", .told "D.items() -> a set-like object providing a view on D's items"),
   ("values", .told "D.values() -> an object providing a view on D's values"),
   ("update", .told
      ("D.update([E, ]**F) -> None.  Update D from dict/iterable E and F.\n"
      ++ "If E is present and has a .keys() method, then does:  for k in E: D[k] = E[k]\n"
      ++ "If E is present and lacks a .keys() method, then does:  for k, v in E: D[k] = v\n"
      ++ "In either case, this is followed by: for k in F:  D[k] = F[k]")),
   ("fromkeys", .full "($type, iterable, value=None, /)"
      "Create a new dictionary with keys from iterable and values set to value."),
   ("clear", .told "D.clear() -> None.  Remove all items from D."),
   ("copy", .told "D.copy() -> a shallow copy of D"),
   ("__reversed__", .full "($self, /)" "Return a reverse iterator over the dict keys."),
   ("__class_getitem__", .told "See PEP 585")]

/-- Notes on the members of rows. -/
def rowNotes : List (String × Note) :=
  [("__getnewargs__", .called "($self, /)"),
   ("index", .full "($self, value, start=0, stop=sys.maxsize, /)"
      "Return first index of value.\n\nRaises ValueError if the value is not present."),
   ("count", .full "($self, value, /)" "Return number of occurrences of value."),
   ("__class_getitem__", .told "See PEP 585")]

/-- Notes on the members of views. -/
def viewNotes : List (String × Note) :=
  [("get", .told "D.get(k[,d]) -> D[k] if k in D, else d.  d defaults to None."),
   ("keys", .told "D.keys() -> a set-like object providing a view on D's keys"),
   ("values", .told "D.values() -> an object providing a view on D's values"),
   ("items", .told "D.items() -> a set-like object providing a view on D's items"),
   ("copy", .told "D.copy() -> a shallow copy of D"),
   ("__class_getitem__", .told "See PEP 585"),
   ("__reversed__", .told "D.__reversed__() -> reverse iterator")]

/-- Notes on the members of narrowed kinds. -/
def aliasNotes : List (String × Note) :=
  [("__parameters__", .told "Type variables in the GenericAlias.")]

end Titling.Message.Kind
