import SymbolBindings.Delimited.Row

/-!
Scanning comma-separated text. A row ends at a line feed or a carriage return, empty rows are
passed over, and a cell that starts with a double quote runs to the closing one: inside it commas
and line ends are ordinary and a quote is written twice. A quote elsewhere is an ordinary octet,
and what follows a closing quote belongs to the cell as it stands.
-/

namespace SymbolBindings.Delimited

def comma : UInt8 := 0x2C

def quote : UInt8 := 0x22

def lineFeed : UInt8 := 0x0A

def carriageReturn : UInt8 := 0x0D

def isLineEnd (octet : UInt8) : Bool :=
  octet == lineFeed || octet == carriageReturn

inductive Mode
  /-- No octet of the next row has been seen. -/
  | betweenRows
  | cellStart
  | plain
  | quoted
  /-- A quote was seen inside a quoted cell: it closes the cell or is the first of two. -/
  | quoteSeen
  deriving DecidableEq, Repr

structure Scanner where
  mode : Mode
  /-- The octets of the current cell, the latest first. -/
  cell : List UInt8
  /-- The finished cells of the current row, the latest first. -/
  cells : List (List UInt8)
  /-- One more than the number of line feeds passed. -/
  line : Nat
  /-- The value of `line` when the previous row ended. -/
  begun : Nat
  deriving Repr

namespace Scanner

def start : Scanner :=
  ⟨.betweenRows, [], [], 1, 1⟩

def push (scanner : Scanner) (mode : Mode) (octet : UInt8) : Scanner :=
  { scanner with mode, cell := octet :: scanner.cell }

def turn (scanner : Scanner) (mode : Mode) : Scanner :=
  { scanner with mode }

def endCell (scanner : Scanner) : Scanner :=
  { scanner with mode := .cellStart, cell := [], cells := scanner.cell.reverse :: scanner.cells }

/-- The row that ends here. -/
def row (scanner : Scanner) : Row :=
  ⟨scanner.begun, (scanner.cell.reverse :: scanner.cells).reverse⟩

/-- The scanner that looks for the next row. -/
def afterRow (scanner : Scanner) : Scanner :=
  ⟨.betweenRows, [], [], scanner.line, scanner.line⟩

/-- Counts a line feed, wherever it stands. -/
def count (scanner : Scanner) (octet : UInt8) : Scanner :=
  if octet = lineFeed then { scanner with line := scanner.line + 1 } else scanner

/-- An octet that no quoting protects: it separates, ends the row, or belongs to the cell. -/
def unprotected (scanner : Scanner) (octet : UInt8) : Scanner × Option Row :=
  if octet = comma then (scanner.endCell, none)
  else if isLineEnd octet then (scanner.afterRow, some scanner.row)
  else (scanner.push .plain octet, none)

/-- The first octet of a cell. -/
def opening (scanner : Scanner) (octet : UInt8) : Scanner × Option Row :=
  if octet = quote then (scanner.turn .quoted, none) else scanner.unprotected octet

/-- Takes one octet, and gives the row that it ends, if it ends one. -/
def step (scanner : Scanner) (octet : UInt8) : Scanner × Option Row :=
  let scanner := scanner.count octet
  match scanner.mode with
  | .betweenRows =>
    if isLineEnd octet then (scanner, none) else scanner.opening octet
  | .cellStart => scanner.opening octet
  | .plain => scanner.unprotected octet
  | .quoted =>
    if octet = quote then (scanner.turn .quoteSeen, none) else (scanner.push .quoted octet, none)
  | .quoteSeen =>
    if octet = quote then (scanner.push .quoted octet, none) else scanner.unprotected octet

/-- The row that the end of the text ends: none if no octet of it was seen. -/
def finish (scanner : Scanner) : List Row :=
  match scanner.mode with
  | .betweenRows => []
  | _ => [scanner.row]

/-- The rows of the octets. A text that breaks off (`complete` is false) does not end a row. -/
def scan (complete : Bool) (scanner : Scanner) : List UInt8 → List Row
  | [] => if complete then scanner.finish else []
  | octet :: rest =>
    match scanner.step octet with
    | (scanner, none) => scan complete scanner rest
    | (scanner, some row) => row :: scan complete scanner rest

end Scanner

/-- The byte order mark. -/
def mark : List UInt8 := [0xEF, 0xBB, 0xBF]

/-- A byte order mark is skipped, at the very start only. -/
def withoutMark : List UInt8 → List UInt8
  | 0xEF :: 0xBB :: 0xBF :: rest => rest
  | octets => octets

def rows (complete : Bool) (octets : List UInt8) : List Row :=
  Scanner.start.scan complete (withoutMark octets)

/-- The second row is searched for from line 1 on, where the first one ended with a carriage
return; the blank line and the line feed come later. -/
example : rows true (Text.octets "a,\"b\"\"\"\r\n\nc") =
    [⟨1, [[0x61], [0x62, 0x22]]⟩, ⟨1, [[0x63]]⟩] := by rfl

example : rows false (Text.octets "a\nb") = [⟨1, [[0x61]]⟩] := by rfl

end SymbolBindings.Delimited
