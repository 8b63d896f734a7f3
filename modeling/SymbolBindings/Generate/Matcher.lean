/-!
Name matchers: which symbols are declared, and under which names.
-/

namespace SymbolBindings

structure Matcher where
  /-- What a name must start with, if anything. -/
  leading : Option String
  /-- Whether declared names leave that start out. -/
  strip : Bool
  deriving DecidableEq, Repr

namespace Matcher

/-- What remains of `name` after `leading`, if it starts so. -/
def remainder (leading name : String) : Option String :=
  if leading.toList.isPrefixOf name.toList then
    some (String.ofList (name.toList.drop leading.toList.length))
  else none

/-- Nothing can be left out where nothing is asked for. -/
def stripIsInert (matcher : Matcher) : Bool :=
  matcher.strip && matcher.leading.isNone

def accepts (matcher : Matcher) (name : String) : Bool :=
  match matcher.leading with
  | none => true
  | some leading => leading.toList.isPrefixOf name.toList

/-- The name to declare a symbol under, unless its name is not selected. -/
def declaredName (matcher : Matcher) (name : String) : Option String :=
  match matcher.leading with
  | none => some name
  | some leading =>
    if matcher.strip then remainder leading name
    else if leading.toList.isPrefixOf name.toList then some name
    else none

example : declaredName ⟨some "furi_", true⟩ "furi_hal_init" = some "hal_init" := by decide

/-- A name may be stripped to nothing. -/
example : declaredName ⟨some "furi", true⟩ "furi" = some "" := by decide

end Matcher

end SymbolBindings
