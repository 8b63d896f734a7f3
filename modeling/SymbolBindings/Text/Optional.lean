/-!
How a number that may be absent is shown in messages.
-/

namespace SymbolBindings.Text

def optionalNumber : Option Nat → String
  | none => "None"
  | some number => "Some(" ++ toString number ++ ")"

end SymbolBindings.Text
