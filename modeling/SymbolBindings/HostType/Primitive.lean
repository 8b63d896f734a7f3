/-!
The C base spellings with a known counterpart in the declarations that are written.
-/

namespace SymbolBindings

/-- A type of the declaring language that needs no declaration of its own. -/
structure Primitive where
  name : String
  /-- Whether the C spelling qualifies the value as constant. -/
  constant : Bool
  deriving DecidableEq, Repr

namespace Primitive

/-- The known spellings. The two constant ones are the pointees of `const char*` and
`const uint8_t*`. -/
def table : List (String × Primitive) :=
  [("int", ⟨"i32", false⟩),
   ("int8_t", ⟨"i8", false⟩),
   ("uint8_t", ⟨"u8", false⟩),
   ("int16_t", ⟨"i16", false⟩),
   ("uint16_t", ⟨"u16", false⟩),
   ("int32_t", ⟨"i32", false⟩),
   ("uint32_t", ⟨"u32", false⟩),
   ("size_t", ⟨"usize", false⟩),
   ("_Bool", ⟨"bool", false⟩),
   ("const char", ⟨"c_char", true⟩),
   ("const uint8_t", ⟨"u8", true⟩)]

/-- Spellings are compared character for character: neither blanks nor pointer markers are
removed here. -/
def lookup (spelling : String) : Option Primitive :=
  table.lookup spelling

example : lookup "size_t" = some ⟨"usize", false⟩ := by decide

example : lookup "int*" = none := by decide

end Primitive

end SymbolBindings
