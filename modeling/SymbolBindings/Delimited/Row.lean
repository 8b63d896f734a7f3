import SymbolBindings.Text.Blank
import SymbolBindings.Text.Utf8

/-!
Rows of comma-separated text, as octets: a row knows its cells and the line on which the search for
it began.
-/

namespace SymbolBindings.Delimited

structure Row where
  /-- One more than the number of line feeds passed when the previous row ended. Blank lines before
  the row, and the line feed of a line end written as two octets, come after that moment. -/
  line : Nat
  cells : List (List UInt8)
  deriving DecidableEq, Repr

/-- The first cell that is no text, with the length of its well-formed start. -/
structure IllFormed where
  field : Nat
  offset : Nat
  deriving DecidableEq, Repr

/-- The texts of the cells from position `field` on. -/
def decodeCellsFrom (field : Nat) : List (List UInt8) → Except IllFormed (List String)
  | [] => .ok []
  | cell :: rest =>
    match Text.decode cell with
    | .error offset => .error ⟨field, offset⟩
    | .ok text => (decodeCellsFrom (field + 1) rest).map (text :: ·)

def decodeCells (cells : List (List UInt8)) : Except IllFormed (List String) :=
  decodeCellsFrom 0 cells

namespace Row

/-- The cells of a header as trimmed text. Offsets count from the start of the cell. -/
def headerTexts (row : Row) : Except IllFormed (List String) :=
  (decodeCells row.cells).map (·.map Text.trim)

/-- The cells of a data row as trimmed text. Blank octets are removed before the cell is decoded,
so offsets count from the first octet that is not blank. -/
def texts (row : Row) : Except IllFormed (List String) :=
  (decodeCells (row.cells.map (Text.trimBy Text.isBlankOctet))).map (·.map Text.trim)

end Row

end SymbolBindings.Delimited
