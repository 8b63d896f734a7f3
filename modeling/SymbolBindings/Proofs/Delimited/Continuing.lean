import Mathlib.Tactic
import SymbolBindings.Symbol.Table

/-! # Continuing

Rows are found as their octets come in. A row that has ended stays what it is however the text goes
on, so the rows of a text that breaks off are the first rows of every text that starts so.
-/

namespace SymbolBindings

namespace Delimited

theorem Scanner.scan_prefix_scan_append (complete : Bool) (scanner : Scanner)
    (front rest : List UInt8) :
    scan false scanner front <+: scan complete scanner (front ++ rest) := by
  induction front generalizing scanner with
  | nil => exact List.nil_prefix
  | cons octet others induction =>
      rw [List.cons_append, scan, scan]
      rcases scanner.step octet with ⟨next, _ | row⟩
      · exact induction next
      · exact List.cons_prefix_cons.mpr ⟨rfl, induction next⟩

theorem withoutMark_mark_append (rest : List UInt8) : withoutMark (mark ++ rest) = rest := rfl

theorem withoutMark_of_not_prefix {octets : List UInt8} (unmarked : ¬mark <+: octets) :
    withoutMark octets = octets := by
  unfold withoutMark
  split
  case h_1 rest => exact absurd (List.prefix_append mark rest) unmarked
  case h_2 => rfl

/-- Before the mark is complete, no row has ended. -/
theorem rows_of_prefix_mark {front : List UInt8} (start : front <+: mark) :
    rows false front = [] := by
  rw [List.prefix_iff_eq_take.mp start]
  have short : front.length ≤ 3 := start.length_le
  interval_cases front.length <;> rfl

theorem rows_prefix_rows_append (front rest : List UInt8) :
    rows false front <+: rows true (front ++ rest) := by
  by_cases marked : mark <+: front ++ rest
  · rcases List.prefix_or_prefix_of_prefix marked (List.prefix_append front rest) with
      ⟨others, rfl⟩ | started
    · rw [rows, rows, List.append_assoc, withoutMark_mark_append, withoutMark_mark_append]
      exact Scanner.scan_prefix_scan_append true .start others rest
    · rw [rows_of_prefix_mark started]
      exact List.nil_prefix
  · have unmarked : ¬mark <+: front := fun start => marked (start.trans (List.prefix_append _ _))
    rw [rows, rows, withoutMark_of_not_prefix marked, withoutMark_of_not_prefix unmarked]
    exact Scanner.scan_prefix_scan_append true .start front rest

end Delimited

/-- A source that breaks off delivers only rows that every text with its octets at the start has. -/
theorem Source.rows_prefix_rows (source : Source) (broken : source.fault.isSome)
    (rest : List UInt8) : source.rows <+: Delimited.rows true (source.octets ++ rest) := by
  unfold rows breakOff
  split
  case isTrue bare =>
    rw [beq_iff_eq.mp bare]
    exact List.nil_prefix
  case isFalse =>
    rw [Option.isNone_eq_false_iff.mpr broken]
    exact Delimited.rows_prefix_rows_append source.octets rest

end SymbolBindings
