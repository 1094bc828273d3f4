import Titling.Message.Kind

/-! The descriptions of kinds. -/

namespace Titling.Message.Kind

/-- The description of a kind, if it has one. -/
def help? : Kind → Option String
  | .object => some (
      "The base class of the class hierarchy.\n\n"
      ++ "When called, it accepts no arguments and returns a new featureless\n"
      ++ "instance that has no instance attributes and cannot be given any.\n")
  | .type => some (
      "type(object) -> the object's type\ntype(name, bases, dict, **kwds) -> a new type")
  | .integer => some (
      "int([x]) -> integer\nint(x, base=10) -> integer\n\n"
      ++ "Convert a number or string to an integer, or return 0 if no arguments\n"
      ++ "are given.  If x is a number, return x.__int__().  For floating point\n"
      ++ "numbers, this truncates towards zero.\n\n"
      ++ "If x is not a number or if base is given, then x must be a string,\n"
      ++ "bytes, or bytearray instance representing an integer literal in the\n"
      ++ "given base.  The literal can be preceded by '+' or '-' and be surrounded\n"
      ++ "by whitespace.  The base defaults to 10.  Valid bases are 0 and 2-36.\n"
      ++ "Base 0 means to interpret the base from the string as an integer literal.\n"
      ++ ">>> int('0b100', base=0)\n4")
  | .truth => some (
      "bool(x) -> bool\n\nReturns True when the argument x is true, False otherwise.\n"
      ++ "The builtins True and False are the only two instances of the class bool.\n"
      ++ "The class bool is a subclass of the class int, and cannot be subclassed.")
  | .float => some (
      "Convert a string or number to a floating point number, if possible.")
  | .text => some (
      "str(object='') -> str\nstr(bytes_or_buffer[, encoding[, errors]]) -> str\n\n"
      ++ "Create a new string object from the given object. If encoding or\n"
      ++ "errors is specified, then the object must expose a data buffer\n"
      ++ "that will be decoded using the given encoding and error handler.\n"
      ++ "Otherwise, returns the result of object.__str__() (if defined)\nor repr(object).\n"
      ++ "encoding defaults to sys.getdefaultencoding().\nerrors defaults to 'strict'.")
  | .list => some (
      "Built-in mutable sequence.\n\n"
      ++ "If no argument is given, the constructor creates a new empty list.\n"
      ++ "The argument must be an iterable if specified.")
  | .table => some (
      "dict() -> new empty dictionary\n"
      ++ "dict(mapping) -> new dictionary initialized from a mapping object's\n"
      ++ "    (key, value) pairs\ndict(iterable) -> new dictionary initialized as if via:\n"
      ++ "    d = \x7b\x7d\n    for k, v in iterable:\n        d[k] = v\n"
      ++ "dict(**kwargs) -> new dictionary initialized with the name=value pairs\n"
      ++ "    in the keyword argument list.  For example:  dict(one=1, two=2)")
  | .row => some (
      "Built-in immutable sequence.\n\n"
      ++ "If no argument is given, the constructor returns an empty tuple.\n"
      ++ "If iterable is specified the tuple is initialized from iterable's items.\n\n"
      ++ "If the argument is a tuple, the return value is the same object.")
  | .alias => some (
      "Represent a PEP 585 generic type\n\n"
      ++ "E.g. for t = list[int], t.__origin__ is list and t.__args__ is (int,).")
  | .loner => some (
      "staticmethod(function) -> method\n\nConvert a function to be a static method.\n\n"
      ++ "A static method does not receive an implicit first argument.\n"
      ++ "To declare a static method, use this idiom:\n\n"
      ++ "     class C:\n         @staticmethod\n         def f(arg1, arg2, argN):\n"
      ++ "             ...\n\nIt can be called either on the class (e.g. C.f()) or on an "
      ++ "instance\n(e.g. C().f()). Both the class and the instance are ignored, and\n"
      ++ "neither is passed implicitly as the first argument to the method.\n\n"
      ++ "Static methods in Python are similar to those found in Java or C++.\n"
      ++ "For a more advanced concept, see the classmethod builtin.")
  | _ => none

end Titling.Message.Kind
