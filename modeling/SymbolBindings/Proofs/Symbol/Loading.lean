import SymbolBindings.Proofs.Delimited.Writing
import SymbolBindings.Proofs.Symbol.Fields

/-! # Loading what was written

A table written with every cell between quotes loads as the items its rows describe, one for each
row and in their order, whatever the cells hold.
-/

namespace SymbolBindings.Table

open Delimited (textOfRows writtenRow numberedFrom)

/-- Written rows are found again as rows of the same texts. -/
theorem rows_octets_textOfRows {rows : List (List String)}
    (nonempty : ∀ row ∈ rows, row ≠ []) :
    Delimited.rows true (Text.octets (textOfRows rows)) =
      numberedFrom 1 (rows.map (·.map Text.octets)) := by
  rw [Delimited.octets_textOfRows, Delimited.rows_writtenRows]
  intro cells member
  rcases List.mem_map.mp member with ⟨row, rowMember, rfl⟩
  simpa using nonempty row rowMember

/-- The items of written rows, but for the lines on which they stand. -/
theorem map_item_numberedFrom {columns : Columns} {header : List String}
    (located : Columns.locate (header.map Text.trim) = .ok columns) {rows : List (List String)}
    (even : ∀ row ∈ rows, row.length = header.length) (line : Nat) :
    ∃ lines : List Nat, lines.length = rows.length ∧
      (numberedFrom line (rows.map (·.map Text.octets))).map (item columns header.length) =
        List.zipWith (itemOf header) lines rows := by
  induction rows generalizing line with
  | nil => exact ⟨[], rfl, rfl⟩
  | cons row rest induction =>
      have evenRow := even row (by simp)
      rcases induction (fun other member => even other (by simp [member]))
          (line + (writtenRow (row.map Text.octets)).count Delimited.lineFeed) with
        ⟨lines, sameLength, items⟩
      have spelled : (Delimited.Row.mk line (row.map Text.octets)).Spells row := rfl
      refine ⟨line :: lines, by simp [sameLength], ?_⟩
      rw [List.map_cons, numberedFrom, List.map_cons, items, List.zipWith_cons_cons,
        item_eq_itemOf located spelled evenRow]

/-- Loading undoes writing: the items are those of the rows, none lost, merged, split or added. -/
theorem read_octets_textOfRows (header : List String) (rows : List (List String))
    (complete : ∀ column ∈ requiredColumns, column ∈ header.map Text.trim)
    (even : ∀ row ∈ rows, row.length = header.length) :
    ∃ table lines, read (.ofOctets (Text.octets (textOfRows (header :: rows)))) = .ok table ∧
      lines.length = rows.length ∧ table.items = List.zipWith (itemOf header) lines rows := by
  rcases Columns.exists_locate_iff.mpr complete with ⟨columns, located⟩
  have headerNonempty : header ≠ [] := by
    intro empty
    subst empty
    simpa using complete "name" (by simp [requiredColumns])
  have nonempty : ∀ row ∈ header :: rows, row ≠ [] := by
    intro row member
    rcases List.mem_cons.mp member with rfl | member
    · exact headerNonempty
    · exact List.ne_nil_of_length_pos
        (even row member ▸ List.length_pos_iff.mpr headerNonempty)
  rcases map_item_numberedFrom located even
    (1 + (writtenRow (header.map Text.octets)).count Delimited.lineFeed) with
    ⟨lines, sameLength, items⟩
  refine ⟨⟨header.map Text.trim, List.zipWith (itemOf header) lines rows⟩, lines, ?_,
    sameLength, rfl⟩
  have spelled : (Delimited.Row.mk 1 (header.map Text.octets)).Spells header := rfl
  rw [read_ofOctets, rows_octets_textOfRows nonempty, ofRows_eq_ok_iff, ← items]
  exact ⟨header, columns, spelled, located, rfl⟩

/-- Cells may hold the marks that rows are made of, and a row may describe a failure. -/
theorem read_octets_textOfRows_marks :
    (∀ column ∈ requiredColumns,
        column ∈ ["type", " name ", "status", "note", "entry"].map Text.trim) ∧
      (∀ row ∈ [["int", "a\"b", "+", ",\r\n\"", "Variable"], ["", " ", "-", "é", "Header"],
          ["", "f", "+", "", "Function"]], row.length = 5) ∧
      ∃ table lines,
        read (.ofOctets (Text.octets (textOfRows
            [["type", " name ", "status", "note", "entry"],
              ["int", "a\"b", "+", ",\r\n\"", "Variable"], ["", " ", "-", "é", "Header"],
              ["", "f", "+", "", "Function"]]))) = .ok table ∧
          lines.length = 3 ∧
          table.items =
            List.zipWith (itemOf ["type", " name ", "status", "note", "entry"]) lines
              [["int", "a\"b", "+", ",\r\n\"", "Variable"], ["", " ", "-", "é", "Header"],
                ["", "f", "+", "", "Function"]] :=
  ⟨by decide, by decide, read_octets_textOfRows _ _ (by decide) (by decide)⟩

end SymbolBindings.Table
