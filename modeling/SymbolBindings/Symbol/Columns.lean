import SymbolBindings.Failure

/-!
The columns of a symbol table. Columns are found by their names in the header, the first of a name
counts, and columns nobody asks for are passed over.
-/

namespace SymbolBindings

structure Columns where
  name : Nat
  entry : Nat
  status : Nat
  type : Nat
  /-- Tables without functions may go without this column. -/
  parameters : Option Nat
  deriving DecidableEq, Repr

namespace Columns

/-- The position of a column. -/
def position (header : List String) (column : String) : Option Nat :=
  header.findIdx? (· == column)

def require (header : List String) (column : String) : Except Failure Nat :=
  match position header column with
  | some index => .ok index
  | none => .error (.malformed (some 1) (.missingColumn column))

/-- Of several missing columns the first in this order is reported. -/
def locate (header : List String) : Except Failure Columns := do
  let name ← require header "name"
  let entry ← require header "entry"
  let status ← require header "status"
  let type ← require header "type"
  return ⟨name, entry, status, type, position header "params"⟩

/-- The text at a position of a row. -/
def cell (row : List String) (index : Nat) : String :=
  row.getD index ""

/-- The symbol of a row. A row without a name is refused first, then a function in a table that has
no column for its parameters. -/
def symbol (columns : Columns) (line : Nat) (row : List String) : Except Failure Symbol :=
  let name := cell row columns.name
  let kind := Kind.ofEntry (cell row columns.entry)
  if name = "" then .error (.malformed (some line) .emptyName)
  else if kind = .function ∧ columns.parameters = none then
    .error (.malformed (some line) (.missingParameters name))
  else
    .ok
      { name, kind
        exported := isExportMark (cell row columns.status)
        type := cell row columns.type
        parameters := (columns.parameters.map (cell row)).getD ""
        line := some line }

example : locate ["type", "name", "type", "entry", "status"] = .ok ⟨1, 3, 4, 0, none⟩ := by rfl

end Columns

end SymbolBindings
