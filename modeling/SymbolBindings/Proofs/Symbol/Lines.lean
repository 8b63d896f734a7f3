import SymbolBindings.Proofs.Delimited.Starts
import SymbolBindings.Proofs.Symbol.Fields

/-! # Lines of a table

Symbols and failures carry the line of their row, and that is the line on which the row before it
ended. It is the line on which the row starts if a single line feed is between the two and every
carriage return above has its line feed.
-/

namespace SymbolBindings

open Delimited

/-- The line that an item carries. -/
def Item.line : Item → Option Nat
  | .ok symbol => symbol.line
  | .error failure => failure.line

namespace Table

/-- Whatever a row comes to, its line is told. -/
theorem line_item (columns : Columns) (width : Nat) (row : Row) :
    (item columns width row).line = some row.line := by
  unfold item
  split
  case isTrue => rfl
  case isFalse =>
    split
    case h_1 => rfl
    case h_2 texts _ =>
      simp only [Columns.symbol]
      split
      case isTrue => rfl
      case isFalse => split <;> rfl

theorem exists_row_of_item {octets : List UInt8} {table : Table}
    (accepted : read (.ofOctets octets) = .ok table) {index : Nat} {item : Item}
    (found : table.items[index]? = some item) :
    ∃ row, (rows true octets)[index + 1]? = some row ∧ item.line = some row.line := by
  rw [read_ofOctets] at accepted
  rcases ofRows_eq_ok_iff.mp accepted with ⟨names, columns, -, -, rfl⟩
  rw [List.getElem?_map, Option.map_eq_some_iff] at found
  rcases found with ⟨row, below, rfl⟩
  rw [List.getElem?_tail] at below
  exact ⟨row, below, line_item columns names.length row⟩

/-- The line of an item is the one on which the row above ended, counted by line feeds. It is the
line on which the item's row starts exactly if the row starts right there and no carriage return
above stands alone. -/
theorem line_of_read (octets : List UInt8) (table : Table) (index : Nat) (item : Item)
    (accepted : read (.ofOctets octets) = .ok table) (found : table.items[index]? = some item) :
    (∃ front, RowStarts octets (index + 1) front) ∧
      ∀ front, RowStarts octets (index + 1) front →
        ∃ above gap, front = above ++ gap ∧ RowEnds index above ∧
          (∀ octet ∈ gap, isLineEnd octet = true) ∧
          item.line = some (1 + above.count lineFeed) ∧
          (item.line = some (1 + lineEnds front) ↔ gap = [] ∧ loneReturns above = 0) := by
  rcases exists_row_of_item accepted found with ⟨row, below, line⟩
  constructor
  · exact exists_rowStarts (List.getElem?_eq_some_iff.mp below).1
  · intro front starts
    rcases starts.exists_gap below with ⟨above, gap, rfl, ends, blank, rowLine⟩
    rw [rowLine] at line
    refine ⟨above, gap, rfl, ends, blank, line, ?_⟩
    rw [line, Option.some_inj, Nat.add_left_cancel_iff, eq_comm]
    exact lineEnds_append_eq_count_iff blank

/-- Line ends in the cells above are counted. -/
theorem line_of_read_quoted :
    let front := Text.octets "name,entry,status,type\nf,Variable,+,\"a\r\nb\"\n"
    let octets := front ++ Text.octets "g,Variable,+,int\n"
    ∃ table item, read (.ofOctets octets) = .ok table ∧ table.items[1]? = some item ∧
      RowStarts octets 2 front ∧ item.line = some 4 ∧ item.line = some (1 + lineEnds front) ∧
      RowEnds 1 front := by
  intro front octets
  have accepted : read (.ofOctets octets) = .ok ⟨["name", "entry", "status", "type"],
      [.ok ⟨"f", .object, true, "a\r\nb", "", some 2⟩,
        .ok ⟨"g", .object, true, "int", "", some 4⟩]⟩ := rfl
  have starts : RowStarts octets 2 front :=
    ⟨0x67, Text.octets ",Variable,+,int\n", rfl, rfl, rfl⟩
  refine ⟨_, _, accepted, rfl, starts, rfl, rfl, ?_⟩
  rcases (line_of_read octets _ 1 _ accepted rfl).2 front starts with
    ⟨above, gap, split, ends, -, -, onTime⟩
  rcases onTime.mp rfl with ⟨rfl, -⟩
  rw [split, List.append_nil]
  exact ends

/-- Line ends of two octets are counted one row late, and both a symbol and a failure point at the
line above their own. -/
theorem line_of_read_late :
    let header := Text.octets "name,entry,status,type\r\n"
    let first := Text.octets "f,Variable,+,int\r\n"
    let second := Text.octets "g,Variable,+\r\n"
    let octets := header ++ first ++ second
    read (.ofOctets octets) = .ok ⟨["name", "entry", "status", "type"],
        [.ok ⟨"f", .object, true, "int", "", some 1⟩,
          .error (.malformed (some 2) (.unevenRow 3 4))]⟩ ∧
      RowStarts octets 1 header ∧ 1 + lineEnds header = 2 ∧
      RowStarts octets 2 (header ++ first) ∧ 1 + lineEnds (header ++ first) = 3 := by
  intro header first second octets
  exact ⟨rfl, ⟨0x66, Text.octets ",Variable,+,int\r\ng,Variable,+\r\n", rfl, rfl, rfl⟩, rfl,
    ⟨0x67, Text.octets ",Variable,+\r\n", rfl, rfl, rfl⟩, rfl⟩

end Table

end SymbolBindings
