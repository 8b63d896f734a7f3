import SymbolBindings.HostType.Primitive
import SymbolBindings.Text.Blank

/-!
Host types: what a C type spelling becomes in a declaration. A spelling is a base followed by
pointer markers, and a host type is a base under as many pointer layers. Resolution never fails,
because a base nobody knows is kept as it is spelled.
-/

namespace SymbolBindings

/-- A type without its pointer layers. -/
inductive Base
  | known (primitive : Primitive)
  /-- A spelling outside the table, kept character for character. -/
  | unresolved (spelling : String)
  deriving DecidableEq, Repr

namespace Base

def name : Base → String
  | known primitive => primitive.name
  | unresolved spelling => spelling

def isUnresolved : Base → Bool
  | known _ => false
  | unresolved _ => true

def constant : Base → Bool
  | known primitive => primitive.constant
  | unresolved _ => false

def ofSpelling (spelling : String) : Base :=
  match Primitive.lookup spelling with
  | some primitive => known primitive
  | none => unresolved spelling

end Base

/-- A base under `depth` pointer layers. -/
structure HostType where
  base : Base
  depth : Nat
  deriving DecidableEq, Repr

namespace HostType

/-! ## Reading a C spelling -/

/-- What may follow the base of a spelling: pointer markers and the blanks between them. -/
def isPointerTail (character : Char) : Bool :=
  character == '*' || Text.isBlank character

/-- The tail of a spelling is the longest end of its trimmed text that holds nothing but markers
and blanks. Every marker of the tail is a pointer layer, and what precedes the tail is the base. -/
def resolve (spelling : String) : HostType :=
  let backwards := (Text.trimBy Text.isBlank spelling.toList).reverse
  { base := .ofSpelling (String.ofList (backwards.dropWhile isPointerTail).reverse)
    depth := (backwards.takeWhile isPointerTail).count '*' }

example : resolve " const char * *" = ⟨.known ⟨"c_char", true⟩, 2⟩ := by decide

example : resolve "FuriThread*" = ⟨.unresolved "FuriThread", 1⟩ := by decide

/-- A spelling of markers alone has the empty base. -/
example : resolve "*" = ⟨.unresolved "", 1⟩ := by decide

/-- A function whose result is spelled `void`, or not at all, returns nothing. -/
def resolveResult (spelling : String) : Option HostType :=
  let trimmed := Text.trim spelling
  if trimmed = "" ∨ trimmed = "void" then none else some (resolve trimmed)

example : resolveResult " void " = none := by decide

example : resolveResult "void*" = some ⟨.unresolved "void", 1⟩ := by decide

/-! ## Writing the host type -/

/-- The pointer layers from the outermost inwards. Only the innermost one can be constant, and it
is so exactly when the base is. -/
def layers (constant : Bool) : Nat → List String
  | 0 => []
  | outer + 1 => List.replicate outer "*mut " ++ [if constant then "*const " else "*mut "]

def render (type : HostType) : String :=
  String.join (layers type.base.constant type.depth) ++ type.base.name

example : (resolve "const uint8_t**").render = "*mut *const u8" := by decide

/-- Without a pointer layer the qualifier of the base is not written. -/
example : (resolve "const char").render = "c_char" := by decide

end HostType

end SymbolBindings
