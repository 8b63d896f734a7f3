import SymbolBindings.Delimited.Scanner
import SymbolBindings.Proofs.Text.Utf8

/-! # Writing comma-separated text

Rows of any cells can be written so that scanning gives them back: every cell stands between double
quotes, and a quote inside it is written twice. Commas and line ends inside a cell need no care.
-/

namespace SymbolBindings.Delimited

/-! ## Octets -/

/-- A cell as it stands between its quotes. -/
def doubled (cell : List UInt8) : List UInt8 :=
  cell.flatMap fun octet => if octet = quote then [quote, quote] else [octet]

def writtenCell (cell : List UInt8) : List UInt8 :=
  quote :: (doubled cell ++ [quote])

def writtenRow (cells : List (List UInt8)) : List UInt8 :=
  [comma].intercalate (cells.map writtenCell) ++ [lineFeed]

example : writtenRow [[0x61, 0x22], []] =
    [0x22, 0x61, 0x22, 0x22, 0x22, 0x2C, 0x22, 0x22, 0x0A] := by rfl

@[simp] theorem doubled_nil : doubled [] = [] := rfl

theorem doubled_cons (octet : UInt8) (rest : List UInt8) :
    doubled (octet :: rest) =
      (if octet = quote then [quote, quote] else [octet]) ++ doubled rest :=
  List.flatMap_cons

theorem writtenRow_singleton (cell : List UInt8) :
    writtenRow [cell] = writtenCell cell ++ [lineFeed] := by
  simp [writtenRow]

theorem writtenRow_cons_cons (first second : List UInt8) (rest : List (List UInt8)) :
    writtenRow (first :: second :: rest) =
      writtenCell first ++ comma :: writtenRow (second :: rest) := by
  simp [writtenRow, List.intercalate]

theorem count_lineFeed_doubled (cell : List UInt8) :
    (doubled cell).count lineFeed = cell.count lineFeed := by
  induction cell with
  | nil => rfl
  | cons octet rest induction =>
      rw [doubled_cons, List.count_append, induction, List.count_cons]
      by_cases isQuote : octet = quote
      · simp [isQuote, quote, lineFeed]
      · simp [isQuote, List.count_cons, Nat.add_comm]

theorem count_lineFeed_writtenCell (cell : List UInt8) :
    (writtenCell cell).count lineFeed = cell.count lineFeed := by
  rw [writtenCell, List.count_cons, List.count_append, count_lineFeed_doubled]
  rfl

/-! ## Scanning what was written -/

namespace Scanner

variable {complete : Bool} {mode : Mode} {cell done rest : List UInt8}
  {cells : List (List UInt8)} {line begun : Nat}

theorem scan_of_step_none {scanner next : Scanner} {octet : UInt8}
    (stepped : scanner.step octet = (next, none)) :
    scan complete scanner (octet :: rest) = scan complete next rest := by
  rw [scan, stepped]

theorem scan_of_step_some {scanner next : Scanner} {octet : UInt8} {row : Row}
    (stepped : scanner.step octet = (next, some row)) :
    scan complete scanner (octet :: rest) = row :: scan complete next rest := by
  rw [scan, stepped]

/-! The steps a written row takes. Only line feeds move the line. -/

theorem step_quoted {octet : UInt8} (notQuote : octet ≠ quote) :
    step ⟨.quoted, done, cells, line, begun⟩ octet =
      (⟨.quoted, octet :: done, cells, line + (if octet == lineFeed then 1 else 0), begun⟩,
        none) := by
  by_cases isLineFeed : octet = lineFeed
  · subst isLineFeed
    rfl
  · simp [step, count, push, notQuote, isLineFeed]

theorem step_quoted_quote :
    step ⟨.quoted, done, cells, line, begun⟩ quote =
      (⟨.quoteSeen, done, cells, line, begun⟩, none) := rfl

theorem step_quoteSeen_quote :
    step ⟨.quoteSeen, done, cells, line, begun⟩ quote =
      (⟨.quoted, quote :: done, cells, line, begun⟩, none) := rfl

theorem step_quoteSeen_comma :
    step ⟨.quoteSeen, done, cells, line, begun⟩ comma =
      (⟨.cellStart, [], done.reverse :: cells, line, begun⟩, none) := rfl

theorem step_quoteSeen_lineFeed :
    step ⟨.quoteSeen, done, cells, line, begun⟩ lineFeed =
      (⟨.betweenRows, [], [], line + 1, line + 1⟩,
        some ⟨begun, (done.reverse :: cells).reverse⟩) := rfl

theorem step_opening_quote (fresh : mode = .betweenRows ∨ mode = .cellStart) :
    step ⟨mode, [], cells, line, begun⟩ quote =
      (⟨.quoted, [], cells, line, begun⟩, none) := by
  rcases fresh with rfl | rfl <;> rfl

/-- Between quotes everything belongs to the cell, and doubled quotes are single ones. -/
theorem scan_doubled :
    scan complete ⟨.quoted, done, cells, line, begun⟩ (doubled cell ++ rest) =
      scan complete ⟨.quoted, cell.reverse ++ done, cells, line + cell.count lineFeed, begun⟩
        rest := by
  induction cell generalizing done line with
  | nil => rfl
  | cons octet others induction =>
      rw [doubled_cons, List.append_assoc, List.reverse_cons, List.append_assoc,
        List.singleton_append, List.count_cons, Nat.add_comm (List.count lineFeed others),
        ← Nat.add_assoc]
      by_cases isQuote : octet = quote
      · subst isQuote
        rw [if_pos rfl, List.cons_append, List.singleton_append,
          scan_of_step_none step_quoted_quote, scan_of_step_none step_quoteSeen_quote]
        exact induction
      · rw [if_neg isQuote, List.singleton_append, scan_of_step_none (step_quoted isQuote)]
        exact induction

/-- A written cell, up to its closing quote. -/
theorem scan_writtenCell (fresh : mode = .betweenRows ∨ mode = .cellStart) :
    scan complete ⟨mode, [], cells, line, begun⟩ (writtenCell cell ++ rest) =
      scan complete
        ⟨.quoteSeen, cell.reverse, cells, line + (writtenCell cell).count lineFeed, begun⟩
        rest := by
  rw [count_lineFeed_writtenCell, writtenCell, List.cons_append, List.append_assoc,
    scan_of_step_none (step_opening_quote fresh), scan_doubled, List.singleton_append,
    scan_of_step_none step_quoted_quote, List.append_nil]

theorem scan_writtenRow (fresh : mode = .betweenRows ∨ mode = .cellStart)
    {first : List UInt8} {others : List (List UInt8)} :
    scan complete ⟨mode, [], cells, line, begun⟩ (writtenRow (first :: others) ++ rest) =
      let next := line + (writtenRow (first :: others)).count lineFeed
      ⟨begun, cells.reverse ++ first :: others⟩ ::
        scan complete ⟨.betweenRows, [], [], next, next⟩ rest := by
  induction others generalizing mode first cells line with
  | nil =>
      rw [writtenRow_singleton, List.append_assoc, scan_writtenCell fresh, List.singleton_append,
        scan_of_step_some step_quoteSeen_lineFeed, List.count_append]
      simp [Nat.add_assoc]
  | cons second others induction =>
      rw [writtenRow_cons_cons, List.append_assoc, scan_writtenCell fresh, List.cons_append,
        scan_of_step_none step_quoteSeen_comma, induction (.inr rfl), List.count_append,
        List.count_cons_of_ne (by decide), ← Nat.add_assoc]
      simp

end Scanner

/-- Rows as they are found, the first one at `line`. -/
def numberedFrom (line : Nat) : List (List (List UInt8)) → List Row
  | [] => []
  | cells :: rest => ⟨line, cells⟩ :: numberedFrom (line + (writtenRow cells).count lineFeed) rest

theorem Scanner.scan_writtenRows {rows : List (List (List UInt8))} {line : Nat}
    (nonempty : ∀ cells ∈ rows, cells ≠ []) :
    Scanner.scan true ⟨.betweenRows, [], [], line, line⟩ (rows.flatMap writtenRow) =
      numberedFrom line rows := by
  induction rows generalizing line with
  | nil => rfl
  | cons cells others induction =>
      rcases List.exists_cons_of_ne_nil (nonempty cells (by simp)) with ⟨first, rest, rfl⟩
      rw [List.flatMap_cons, scan_writtenRow (.inl rfl), numberedFrom]
      simp only
      rw [induction fun cells member => nonempty cells (by simp [member])]
      rfl

/-- Scanning gives back the rows that were written, and nothing else. -/
theorem rows_writtenRows {written : List (List (List UInt8))}
    (nonempty : ∀ cells ∈ written, cells ≠ []) :
    rows true (written.flatMap writtenRow) = numberedFrom 1 written := by
  have unmarked : withoutMark (written.flatMap writtenRow) = written.flatMap writtenRow := by
    cases written with
    | nil => rfl
    | cons cells others =>
        rcases List.exists_cons_of_ne_nil (nonempty cells (by simp)) with ⟨first, rest, rfl⟩
        cases rest <;> simp [writtenRow_singleton, writtenRow_cons_cons, writtenCell] <;> rfl
  rw [rows, unmarked]
  exact Scanner.scan_writtenRows nonempty

/-! ## Text -/

def textOfCell (cell : String) : String :=
  "\"" ++ String.ofList (cell.toList.flatMap fun character =>
    if character = '"' then ['"', '"'] else [character]) ++ "\""

/-- A line of cells, each between quotes, with commas between them. -/
def textOfRow (cells : List String) : String :=
  String.intercalate "," (cells.map textOfCell) ++ "\n"

def textOfRows (rows : List (List String)) : String :=
  String.join (rows.map textOfRow)

example : textOfRows [["a\"b", ""], ["\n", ","]] = "\"a\"\"b\",\"\"\n\"\n\",\",\"\n" := by decide

/-- Quotes in a text are found among its octets, and nowhere else. -/
theorem doubled_octets (text : String) :
    doubled (Text.octets text) =
      Text.octets (String.ofList (text.toList.flatMap fun character =>
        if character = '"' then ['"', '"'] else [character])) := by
  rw [Text.octets_eq_flatMap, Text.octets_ofList]
  induction text.toList with
  | nil => rfl
  | cons character rest induction =>
      rw [List.flatMap_cons, List.flatMap_cons, List.flatMap_append, ← induction, doubled,
        List.flatMap_append]
      congr 1
      by_cases isQuote : character = '"'
      · subst isQuote
        rfl
      · have noQuote : ∀ octet ∈ String.utf8EncodeChar character, octet ≠ quote := by
          intro octet member same
          subst same
          have low : quote < 0x80 := by decide
          have alone := Text.utf8EncodeChar_eq_singleton_of_low member low
          exact isQuote ((Text.utf8EncodeChar_eq_singleton_iff low).mp alone).symm
        rw [if_neg isQuote, List.flatMap_singleton, List.flatMap_congr fun octet member =>
          if_neg (noQuote octet member)]
        exact List.flatMap_singleton' _

theorem octets_textOfCell (cell : String) :
    Text.octets (textOfCell cell) = writtenCell (Text.octets cell) := by
  rw [textOfCell, Text.octets_append, Text.octets_append, ← doubled_octets]
  rfl

theorem octets_textOfRow (cells : List String) :
    Text.octets (textOfRow cells) = writtenRow (cells.map Text.octets) := by
  rw [textOfRow, writtenRow, Text.octets_append]
  congr 1
  induction cells with
  | nil => rfl
  | cons first others induction =>
      cases others with
      | nil => simp [octets_textOfCell]
      | cons second others =>
          simp only [List.map_cons] at induction ⊢
          rw [String.intercalate_cons_cons, Text.octets_append, Text.octets_append, induction,
            octets_textOfCell]
          simp [List.intercalate]
          rfl

theorem octets_textOfRows (rows : List (List String)) :
    Text.octets (textOfRows rows) =
      (rows.map fun cells => cells.map Text.octets).flatMap writtenRow := by
  rw [textOfRows]
  induction rows with
  | nil => rfl
  | cons cells others induction =>
      rw [List.map_cons, String.join_cons, Text.octets_append, induction, octets_textOfRow]
      rfl

end SymbolBindings.Delimited
