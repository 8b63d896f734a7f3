import SymbolBindings.Proofs.Delimited.Starts

/-! # Resuming

Where a row has ended, the search for the next one starts afresh. What follows is cut into the same
cells whatever stands above, and only the lines of the rows remember it.
-/

namespace SymbolBindings.Delimited

namespace Scanner

/-- The scanners differ at most in the lines they have counted. -/
structure Alike (scanner other : Scanner) : Prop where
  mode : scanner.mode = other.mode
  cell : scanner.cell = other.cell
  cells : scanner.cells = other.cells

/-- The results of a step differ at most in the lines that were counted. -/
def AlikeAfter (result other : Scanner × Option Row) : Prop :=
  Alike result.1 other.1 ∧ result.2.map Row.cells = other.2.map Row.cells

variable {scanner other : Scanner}

theorem Alike.count (alike : Alike scanner other) (octet : UInt8) :
    Alike (scanner.count octet) (other.count octet) := by
  unfold Scanner.count
  split
  case isTrue => exact ⟨alike.mode, alike.cell, alike.cells⟩
  case isFalse => exact alike

theorem Alike.turn (alike : Alike scanner other) (mode : Mode) :
    AlikeAfter (scanner.turn mode, none) (other.turn mode, none) :=
  ⟨⟨rfl, alike.cell, alike.cells⟩, rfl⟩

theorem Alike.push (alike : Alike scanner other) (mode : Mode) (octet : UInt8) :
    AlikeAfter (scanner.push mode octet, none) (other.push mode octet, none) :=
  ⟨⟨rfl, congrArg (octet :: ·) alike.cell, alike.cells⟩, rfl⟩

theorem alike_afterRow (scanner other : Scanner) : Alike scanner.afterRow other.afterRow :=
  ⟨rfl, rfl, rfl⟩

theorem Alike.unprotected (alike : Alike scanner other) (octet : UInt8) :
    AlikeAfter (scanner.unprotected octet) (other.unprotected octet) := by
  have sameCells : scanner.cell.reverse :: scanner.cells = other.cell.reverse :: other.cells := by
    rw [alike.cell, alike.cells]
  unfold Scanner.unprotected
  split
  case isTrue => exact ⟨⟨rfl, rfl, sameCells⟩, rfl⟩
  case isFalse =>
    split
    case isTrue =>
      refine ⟨alike_afterRow scanner other, ?_⟩
      simp only [row, Option.map_some, sameCells]
    case isFalse => exact alike.push .plain octet

theorem Alike.opening (alike : Alike scanner other) (octet : UInt8) :
    AlikeAfter (scanner.opening octet) (other.opening octet) := by
  unfold Scanner.opening
  split
  case isTrue => exact alike.turn .quoted
  case isFalse => exact alike.unprotected octet

theorem Alike.step (alike : Alike scanner other) (octet : UInt8) :
    AlikeAfter (scanner.step octet) (other.step octet) := by
  have counted := alike.count octet
  simp only [Scanner.step, ← counted.mode]
  split
  case h_1 =>
    split
    case isTrue => exact ⟨counted, rfl⟩
    case isFalse => exact counted.opening octet
  case h_2 => exact counted.opening octet
  case h_3 => exact counted.unprotected octet
  case h_4 =>
    split
    case isTrue => exact counted.turn .quoteSeen
    case isFalse => exact counted.push .quoted octet
  case h_5 =>
    split
    case isTrue => exact counted.push .quoted octet
    case isFalse => exact counted.unprotected octet

/-- Alike scanners find the same cells. -/
theorem Alike.cells_scan (alike : Alike scanner other) (complete : Bool) (octets : List UInt8) :
    (scan complete scanner octets).map Row.cells = (scan complete other octets).map Row.cells := by
  induction octets generalizing scanner other with
  | nil =>
      have same : scanner.finish.map Row.cells = other.finish.map Row.cells := by
        unfold finish
        rw [← alike.mode]
        split
        · rfl
        · simp only [List.map_singleton, row, alike.cell, alike.cells]
      unfold scan
      split
      · exact same
      · rfl
  | cons octet rest induction =>
      rcases alike.step octet with ⟨goesOn, sameRow⟩
      rw [scan, scan]
      rcases stepped : scanner.step octet with ⟨next, row⟩
      rcases steppedOther : other.step octet with ⟨nextOther, rowOther⟩
      rw [stepped, steppedOther] at goesOn sameRow
      cases row with
      | none =>
          rw [Option.map_none, eq_comm, Option.map_eq_none_iff] at sameRow
          subst sameRow
          exact induction goesOn
      | some row =>
          rcases Option.map_eq_some_iff.mp sameRow.symm with ⟨found, rfl, sameCells⟩
          simp only [List.map_cons, sameCells, induction goesOn]

end Scanner

/-! ## Texts -/

/-- The mark is in the front if it is anywhere and the front is too long to be a part of it. -/
theorem withoutMark_append {front rest : List UInt8}
    (decided : mark <+: front ++ rest → mark <+: front) :
    withoutMark (front ++ rest) = withoutMark front ++ rest := by
  by_cases marked : mark <+: front ++ rest
  case pos =>
    rcases decided marked with ⟨text, rfl⟩
    rw [List.append_assoc, withoutMark_mark_append, withoutMark_mark_append]
  case neg =>
    have unmarked : ¬mark <+: front := fun start => marked (start.trans (List.prefix_append _ _))
    have whole := withoutMark_of_not_prefix marked
    have start := withoutMark_of_not_prefix unmarked
    rw [whole, start]

/-- Where a row has ended, the scanner looks for the next one as it did for the first. -/
theorem RowEnds.cells_below {index : Nat} {above : List UInt8} (ends : RowEnds index above)
    (complete : Bool) (below : List UInt8) :
    ((rows complete (above ++ below)).drop (index + 1)).map Row.cells =
      (Scanner.start.scan complete below).map Row.cells := by
  rcases ends with ⟨before, last, rfl, fewer, counted⟩
  have long : ¬before ++ [last] <+: mark := by
    intro short
    rw [rows_of_prefix_mark short] at counted
    cases counted
  have markedAbove : mark <+: before ++ [last] ++ below → mark <+: before ++ [last] := by
    intro marked
    exact (List.prefix_or_prefix_of_prefix marked (List.prefix_append _ _)).resolve_right long
  have markedBefore : mark <+: before ++ [last] → mark <+: before := by
    intro marked
    rcases List.prefix_concat_iff.mp marked with same | marked
    · exact absurd (same ▸ List.prefix_rfl) long
    · exact marked
  have textAbove := withoutMark_append markedBefore
  have text := withoutMark_append markedAbove
  rw [rows, textAbove, Scanner.scan_append_singleton] at counted
  rw [rows] at fewer
  -- The last octet ends a row.
  have stepped := Scanner.stepped_step (Scanner.start.advance (withoutMark before)) last
  have fresh : Scanner.Alike (Scanner.start.advance (withoutMark (before ++ [last]))) .start := by
    rw [textAbove, Scanner.advance_append_singleton]
    generalize (Scanner.start.advance (withoutMark before)).step last = result at stepped counted
    cases stepped with
    | passes => simp [fewer] at counted
    | ends => exact Scanner.alike_afterRow _ .start
    | goesOn => simp [fewer] at counted
  have whole : rows complete (before ++ [last] ++ below) =
      rows false (before ++ [last]) ++
        (Scanner.start.advance (withoutMark (before ++ [last]))).scan complete below := by
    rw [rows, text, Scanner.scan_append, rows]
  rw [← Scanner.scan_append_singleton, ← textAbove, ← rows] at counted
  rw [whole, ← counted, List.drop_left]
  exact fresh.cells_scan complete below

end SymbolBindings.Delimited
