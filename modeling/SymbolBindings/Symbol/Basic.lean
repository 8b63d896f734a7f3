/-!
Symbols: the rows of a firmware symbol table, before any of their C spellings is resolved.
-/

namespace SymbolBindings

/-- What a row describes. C calls the variables of a program its objects. -/
inductive Kind
  | object
  | function
  /-- Any other word of the `entry` column, such as `Header` or `Version`. -/
  | other (entry : String)
  deriving DecidableEq, Repr

namespace Kind

/-- Words are compared letter for letter, and every other word is kept. -/
def ofEntry (entry : String) : Kind :=
  if entry = "Variable" then object
  else if entry = "Function" then function
  else other entry

def text : Kind → String
  | object => "Variable"
  | function => "Function"
  | other entry => entry

theorem text_ofEntry (entry : String) : (ofEntry entry).text = entry := by
  unfold ofEntry
  split
  · simp [text, *]
  · split <;> simp [text, *]

end Kind

/-- One row of a symbol table. -/
structure Symbol where
  name : String
  kind : Kind
  /-- Whether the firmware exports the symbol. -/
  exported : Bool
  /-- The C spelling of a variable's type or of a function's result. -/
  type : String
  /-- The C spellings of a function's parameters, joined by commas. -/
  parameters : String
  /-- The line of the table the row was found on, where the symbol comes from a table. -/
  line : Option Nat
  deriving DecidableEq, Repr

/-- Only the single mark `+` exports a symbol. -/
def isExportMark (status : String) : Bool :=
  status == "+"

end SymbolBindings
