import SymbolBindings.Delimited.Scanner
import SymbolBindings.Symbol.Columns

/-!
Symbol tables: a header and the items below it, each the symbol of a row or the failure of that row.
A row that fails changes nothing about the rows after it. A source that breaks off still delivers
the rows that ended before, and then its fault as the last item.
-/

namespace SymbolBindings

/-- Octets to read, and the fault that reading meets after them, if any. -/
structure Source where
  octets : List UInt8
  fault : Option SystemFault
  deriving DecidableEq, Repr

namespace Source

def ofOctets (octets : List UInt8) : Source :=
  ⟨octets, none⟩

/-- Delivers at most `count` octets and then fails. -/
def failingAfter (count : Nat) (fault : SystemFault) (octets : List UInt8) : Source :=
  ⟨octets.take count, some fault⟩

/-- Whether nothing but a byte order mark arrives. Such a source has no rows and counts as complete,
even if it breaks off. -/
def isBareMark (source : Source) : Bool :=
  source.octets == Delimited.mark

/-- The fault that ends the rows. -/
def breakOff (source : Source) : Option SystemFault :=
  if source.isBareMark then none else source.fault

def rows (source : Source) : List Delimited.Row :=
  Delimited.rows source.breakOff.isNone source.octets

end Source

/-- What reading one row comes to. -/
abbrev Item := Except Failure Symbol

/-- A table whose header was accepted. -/
structure Table where
  /-- The names in the header, trimmed. -/
  header : List String
  items : List Item
  deriving Repr

namespace Table

def malformedCell (line : Nat) (cell : Delimited.IllFormed) : Failure :=
  .malformed (some line) (.illFormedText cell.field cell.offset)

/-- The item of a row, in a table whose header has `width` cells. The number of cells is checked
before their contents. -/
def item (columns : Columns) (width : Nat) (row : Delimited.Row) : Item :=
  if row.cells.length ≠ width then
    .error (.malformed (some row.line) (.unevenRow row.cells.length width))
  else
    match row.texts with
    | .error cell => .error (malformedCell row.line cell)
    | .ok texts => columns.symbol row.line texts

/-- The table with this header row. -/
def ofRows (header : Delimited.Row) (rows : List Delimited.Row) : Except Failure Table :=
  match header.headerTexts with
  | .error cell => .error (malformedCell header.line cell)
  | .ok names => do
    let columns ← Columns.locate names
    return ⟨names, rows.map (item columns header.cells.length)⟩

/-- A source without any row has an empty header, unless it broke off before the header ended. -/
def read (source : Source) : Except Failure Table :=
  match source.rows, source.breakOff with
  | header :: rows, none => ofRows header rows
  | header :: rows, some fault =>
    (ofRows header rows).map fun table =>
      { table with items := table.items ++ [.error (.system fault)] }
  | [], none => ofRows ⟨1, []⟩ []
  | [], some fault => .error (.system fault)

/-- A source that broke off after its byte order mark is an empty one. -/
example :
    read (.failingAfter 3 .noSpace (Delimited.mark ++ Text.octets "name")) =
      read (.ofOctets []) := rfl

/-- Rows of symbols the firmware keeps to itself are dropped, and failures stay in their places. -/
def exportedOnly (items : List Item) : List Item :=
  items.filter fun
    | .ok symbol => symbol.exported
    | .error _ => true

end Table

end SymbolBindings
