/-! The form of an entry in the table of named character references. -/

namespace Titling.CharacterReference

/-- A name without its semicolon, and the code points that it stands for. -/
abbrev Entry := String × List Nat

end Titling.CharacterReference
