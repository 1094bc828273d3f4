import Titling.Message.Kind.Note

/-! What there is to read about the members of numbers. -/

namespace Titling.Message.Kind

/-- Notes on the members of integers. -/
def integerNotes : List (String × Note) :=
  [("conjugate", .told "Returns self, the complex conjugate of any int."),
   ("bit_length", .full "($self, /)"
      ("Number of bits necessary to represent self in binary.\n\n"
      ++ ">>> bin(37)\n'0b100101'\n>>> (37).bit_length()\n"
      ++ "6")),
   ("bit_count", .full "($self, /)"
      ("Number of ones in the binary representation of the absolute value of self.\n\n"
      ++ "Also known as the population count.\n\n>>> bin(13)\n"
      ++ "'0b1101'\n>>> (13).bit_count()\n3")),
   ("to_bytes", .full "($self, /, length=1, byteorder='big', *, signed=False)"
      ("Return an array of bytes representing an integer.\n\n"
      ++ "  length\n    Length of bytes object to use.  An OverflowError is raised if the\n"
      ++ "    integer is not representable with the given number of bytes.  Default\n"
      ++ "    is length 1.\n  byteorder\n    The byte order used to represent the integer.  If "
      ++ "byteorder is 'big',\n    the most significant byte is at the beginning of the byte "
      ++ "array.  If\n    byteorder is 'little', the most significant byte is at the end of the\n"
      ++ "    byte array.  To request the native byte order of the host system, use\n"
      ++ "    `sys.byteorder' as the byte order value.  Default is to use 'big'.\n"
      ++ "  signed\n    Determines whether two's complement is used to represent the integer.\n"
      ++ "    If signed is False and a negative integer is given, an OverflowError\n"
      ++ "    is raised.")),
   ("from_bytes", .full "($type, /, bytes, byteorder='big', *, signed=False)"
      ("Return the integer represented by the given array of bytes.\n\n"
      ++ "  bytes\n    Holds the array of bytes to convert.  The argument must either\n"
      ++ "    support the buffer protocol or be an iterable object producing bytes.\n"
      ++ "    Bytes and bytearray are examples of built-in objects that support the\n"
      ++ "    buffer protocol.\n  byteorder\n    The byte order used to represent the integer.  "
      ++ "If byteorder is 'big',\n    the most significant byte is at the beginning of the byte "
      ++ "array.  If\n    byteorder is 'little', the most significant byte is at the end of the\n"
      ++ "    byte array.  To request the native byte order of the host system, use\n"
      ++ "    `sys.byteorder' as the byte order value.  Default is to use 'big'.\n"
      ++ "  signed\n    Indicates whether two's complement is used to represent the integer.")),
   ("as_integer_ratio", .full "($self, /)"
      ("Return integer ratio.\n\nReturn a pair of integers, whose ratio is exactly equal to the "
      ++ "original int\nand with a positive denominator.\n\n"
      ++ ">>> (10).as_integer_ratio()\n(10, 1)\n>>> (-10).as_integer_ratio()\n"
      ++ "(-10, 1)\n>>> (0).as_integer_ratio()\n(0, 1)")),
   ("__trunc__", .told "Truncating an Integral returns itself."),
   ("__floor__", .told "Flooring an Integral returns itself."),
   ("__ceil__", .told "Ceiling of an Integral returns itself."),
   ("__round__", .full "($self, ndigits=<unrepresentable>, /)"
      ("Rounding an Integral returns itself.\n\nRounding with an ndigits argument also returns an "
      ++ "integer.")),
   ("__getnewargs__", .called "($self, /)"),
   ("__format__", .called "($self, format_spec, /)"),
   ("__sizeof__", .full "($self, /)" "Returns size in memory, in bytes."),
   ("real", .told "the real part of a complex number"),
   ("imag", .told "the imaginary part of a complex number"),
   ("numerator", .told "the numerator of a rational number in lowest terms"),
   ("denominator", .told "the denominator of a rational number in lowest terms")]

/-- Notes on the members of floats. -/
def floatNotes : List (String × Note) :=
  [("conjugate", .full "($self, /)" "Return self, the complex conjugate of any float."),
   ("__trunc__", .full "($self, /)" "Return the Integral closest to x between 0 and x."),
   ("__floor__", .full "($self, /)" "Return the floor as an Integral."),
   ("__ceil__", .full "($self, /)" "Return the ceiling as an Integral."),
   ("__round__", .full "($self, ndigits=None, /)"
      ("Return the Integral closest to x, rounding half toward even.\n\n"
      ++ "When an argument is passed, work like built-in round(x, ndigits).")),
   ("as_integer_ratio", .full "($self, /)"
      ("Return integer ratio.\n\nReturn a pair of integers, whose ratio is exactly equal to the "
      ++ "original float\nand with a positive denominator.\n\n"
      ++ "Raise OverflowError on infinities and a ValueError on NaNs.\n\n"
      ++ ">>> (10.0).as_integer_ratio()\n(10, 1)\n>>> (0.0).as_integer_ratio()\n"
      ++ "(0, 1)\n>>> (-.25).as_integer_ratio()\n(-1, 4)")),
   ("fromhex", .full "($type, string, /)"
      ("Create a floating-point number from a hexadecimal string.\n\n"
      ++ ">>> float.fromhex('0x1.ffffp10')\n2047.984375\n"
      ++ ">>> float.fromhex('-0x1p-1074')\n-5e-324")),
   ("hex", .full "($self, /)"
      ("Return a hexadecimal representation of a floating-point number.\n\n"
      ++ ">>> (-0.1).hex()\n'-0x1.999999999999ap-4'\n"
      ++ ">>> 3.14159.hex()\n'0x1.921f9f01b866ep+1'")),
   ("is_integer", .full "($self, /)" "Return True if the float is an integer."),
   ("__getnewargs__", .called "($self, /)"),
   ("__getformat__", .full "($type, typestr, /)"
      ("You probably don't want to use this function.\n\n"
      ++ "  typestr\n    Must be 'double' or 'float'.\n\n"
      ++ "It exists mainly to be used in Python's test suite.\n\n"
      ++ "This function returns whichever of 'unknown', 'IEEE, big-endian' or 'IEEE,\n"
      ++ "little-endian' best describes the format of floating point numbers used by the\n"
      ++ "C type named by typestr.")),
   ("__format__", .full "($self, format_spec, /)" "Formats the float according to format_spec."),
   ("real", .told "the real part of a complex number"),
   ("imag", .told "the imaginary part of a complex number")]

end Titling.Message.Kind
