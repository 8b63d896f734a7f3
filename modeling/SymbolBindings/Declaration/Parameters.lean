import SymbolBindings.HostType.Basic

/-!
Parameter lists: C spellings joined by commas, with an ellipsis at the end for a function that
takes further arguments.
-/

namespace SymbolBindings

/-- The parameters of a function, and whether it takes further arguments after them. -/
structure Parameters where
  types : List HostType
  variadic : Bool
  deriving DecidableEq, Repr

namespace Parameters

def empty : Parameters :=
  ⟨[], false⟩

/-- The spellings between the commas, trimmed, without the blank ones. -/
def spellings (text : List Char) : List (List Char) :=
  ((text.splitOn ',').map (Text.trimBy Text.isBlank)).filter (! ·.isEmpty)

def ellipsis : List Char :=
  ['.', '.', '.']

def ofSpellings (spellings : List (List Char)) : Parameters :=
  let variadic := spellings.getLast? == some ellipsis
  let positional := if variadic then spellings.dropLast else spellings
  ⟨positional.map fun spelling => .resolve (String.ofList spelling), variadic⟩

/-- A blank list and the single word `void` stand for no parameters. The word is looked for in
the whole list, before it is cut at its commas. -/
def resolve (text : String) : Parameters :=
  let trimmed := Text.trim text
  if trimmed = "" ∨ trimmed = "void" then empty
  else ofSpellings (spellings trimmed.toList)

example : resolve " void " = empty := by decide

example : resolve "int, ..." = ⟨[⟨.known ⟨"i32", false⟩, 0⟩], true⟩ := by decide

/-- Away from the end an ellipsis is a spelling like any other. -/
example : resolve "..., int" =
    ⟨[⟨.unresolved "...", 0⟩, ⟨.known ⟨"i32", false⟩, 0⟩], false⟩ := by decide

end Parameters

end SymbolBindings
