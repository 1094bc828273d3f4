import Titling.Message.Kind.Note

/-! What there is to read about the members that all subjects or all kinds have. -/

namespace Titling.Message.Kind

/-- Notes on the members of all subjects. -/
def objectNotes : List (String × Note) :=
  [("__reduce_ex__", .full "($self, protocol, /)" "Helper for pickle."),
   ("__reduce__", .full "($self, /)" "Helper for pickle."),
   ("__getstate__", .full "($self, /)" "Helper for pickle."),
   ("__subclasshook__", .told
      ("Abstract classes can override this to customize issubclass().\n\n"
      ++ "This is invoked early on by abc.ABCMeta.__subclasscheck__().\n"
      ++ "It should return True, False or NotImplemented.  If it returns\n"
      ++ "NotImplemented, the normal algorithm is used.  Otherwise, it\n"
      ++ "overrides the normal algorithm (and the outcome is cached).\n")),
   ("__init_subclass__", .told
      ("This method is called when a class is subclassed.\n\n"
      ++ "The default implementation does nothing. It may be\n"
      ++ "overridden to extend subclasses.\n")),
   ("__format__", .full "($self, format_spec, /)" "Default object formatter."),
   ("__sizeof__", .full "($self, /)" "Size of object in memory, in bytes."),
   ("__dir__", .full "($self, /)" "Default dir() implementation."),
   ("__class__", .told "the object's class")]

/-- Notes on the members of kinds. -/
def typeNotes : List (String × Note) :=
  [("mro", .full "($self, /)" "Return a type's method resolution order."),
   ("__subclasses__", .full "($self, /)" "Return a list of immediate subclasses."),
   ("__prepare__", .told
      "__prepare__() -> dict\nused to create the namespace for the class statement"),
   ("__instancecheck__", .full "($self, instance, /)" "Check if an object is an instance."),
   ("__subclasscheck__", .full "($self, subclass, /)" "Check if a class is a subclass."),
   ("__dir__", .full "($self, /)" "Specialized __dir__ implementation for types."),
   ("__sizeof__", .full "($self, /)" "Return memory consumption of the type object.")]

end Titling.Message.Kind
