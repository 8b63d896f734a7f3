import Mathlib.Tactic
import SymbolBindings.Proofs.Declaration.Block

/-! # Portions

A sink may take what it is offered in portions. To offer the rest again, until nothing is left or
nothing more is taken, comes to the same whatever the portions are.
-/

namespace SymbolBindings.Sink

/-- Octets are offered again and again with this result, and these of them are taken. Of every offer
the sink takes something, as long as it has room. -/
inductive OfferedAgain : Sink → List UInt8 → Except SystemFault Unit → List UInt8 → Prop
  | nothingLeft (sink : Sink) : OfferedAgain sink [] (.ok ()) []
  | portion {sink : Sink} {piece rest taken : List UInt8} {result : Except SystemFault Unit}
      (something : piece ≠ []) (fits : sink.Fits piece)
      (again : OfferedAgain (sink.take piece) rest result taken) :
      OfferedAgain sink (piece ++ rest) result (piece ++ taken)
  | full {sink : Sink} {offered : List UInt8} (left : offered ≠ [])
      (noRoom : sink.room = some 0) :
      OfferedAgain sink offered (.error sink.overflowFault) []

theorem not_fits_iff {sink : Sink} {offered : List UInt8} :
    ¬sink.Fits offered ↔ ∃ room, sink.room = some room ∧ room < offered.length := by
  unfold Fits fitting
  cases sink.room with
  | none => simp
  | some room =>
      simp only [Option.some.injEq, exists_eq_left']
      omega

theorem fitting_of_not_fits {sink : Sink} {offered : List UInt8} {room : Nat}
    (limited : sink.room = some room) (tight : room < offered.length) :
    sink.fitting offered.length = room := by
  rw [fitting, limited]
  exact Nat.min_eq_left (Nat.le_of_lt tight)

/-- After a portion that fits there is room for as much of the rest as there was before. -/
theorem fitting_append {sink : Sink} {piece : List UInt8} (fits : sink.Fits piece) (count : Nat) :
    sink.fitting (piece.length + count) = piece.length + (sink.take piece).fitting count := by
  unfold Fits fitting at fits
  unfold fitting take
  cases limited : sink.room with
  | none => rfl
  | some room =>
      rw [limited] at fits
      simp only [Option.map_some] at fits ⊢
      omega

theorem writeAll_append {sink : Sink} {piece : List UInt8} (fits : sink.Fits piece)
    (rest : List UInt8) :
    (sink.writeAll (piece ++ rest)).1 = ((sink.take piece).writeAll rest).1 ∧
      (sink.writeAll (piece ++ rest)).2.written = ((sink.take piece).writeAll rest).2.written := by
  constructor
  · simp only [writeAll, List.length_append, fitting_append fits, Nat.add_left_cancel_iff]
    rfl
  · rw [written_writeAll, written_writeAll, written_take, List.length_append, fitting_append fits,
      List.take_length_add_append, List.append_assoc]

theorem OfferedAgain.eq_writeAll {sink : Sink} {offered taken : List UInt8}
    {result : Except SystemFault Unit} (again : sink.OfferedAgain offered result taken) :
    (sink.writeAll offered).1 = result ∧
      (sink.writeAll offered).2.written = sink.written ++ taken := by
  induction again with
  | nothingLeft sink =>
      rw [writeAll_of_fits sink.fits_nil]
      exact ⟨rfl, written_take sink []⟩
  | @portion sink piece rest taken result something fits again induction =>
      rcases writeAll_append fits rest with ⟨sameResult, sameWritten⟩
      rw [sameResult, sameWritten, induction.1, induction.2, written_take, List.append_assoc]
      exact ⟨rfl, rfl⟩
  | @full sink offered left noRoom =>
      have tight : 0 < offered.length := List.length_pos_iff.mpr left
      rw [writeAll_of_not_fits (not_fits_iff.mpr ⟨0, noRoom, tight⟩), written_writeAll,
        fitting_of_not_fits noRoom tight]
      exact ⟨rfl, rfl⟩

/-- One portion that is as large as can be is enough. -/
theorem exists_offeredAgain (sink : Sink) (offered : List UInt8) :
    ∃ result taken, sink.OfferedAgain offered result taken := by
  by_cases empty : offered = []
  · subst empty
    exact ⟨_, _, .nothingLeft sink⟩
  · by_cases fits : sink.Fits offered
    · have whole := OfferedAgain.portion empty fits (.nothingLeft _)
      rw [List.append_nil] at whole
      exact ⟨_, _, whole⟩
    · rcases not_fits_iff.mp fits with ⟨room, limited, tight⟩
      cases room with
      | zero => exact ⟨_, _, .full empty limited⟩
      | succ room =>
          have something : offered.take (room + 1) ≠ [] := by simp [empty]
          have left : offered.drop (room + 1) ≠ [] := by
            rw [ne_eq, List.drop_eq_nil_iff]
            omega
          have length : (offered.take (room + 1)).length = room + 1 := by
            rw [List.length_take]
            omega
          have fitsFirst : sink.Fits (offered.take (room + 1)) := by
            rw [Fits, fitting, limited, length]
            exact Nat.min_self _
          have noRoom : (sink.take (offered.take (room + 1))).room = some 0 := by
            simp only [take, limited, length, Option.map_some, Nat.sub_self]
          have portions := OfferedAgain.portion something fitsFirst (.full left noRoom)
          rw [List.take_append_drop] at portions
          exact ⟨_, _, portions⟩

/-- Whatever the portions, the result and what is taken are those of writing at one go. -/
theorem offeredAgain_iff {sink : Sink} {offered taken : List UInt8}
    {result : Except SystemFault Unit} :
    sink.OfferedAgain offered result taken ↔
      (sink.writeAll offered).1 = result ∧
        (sink.writeAll offered).2.written = sink.written ++ taken := by
  constructor
  · exact OfferedAgain.eq_writeAll
  · intro written
    rcases sink.exists_offeredAgain offered with ⟨foundResult, foundTaken, again⟩
    rcases again.eq_writeAll with ⟨sameResult, sameTaken⟩
    have results : foundResult = result := sameResult.symm.trans written.1
    have takens : foundTaken = taken := List.append_cancel_left (sameTaken.symm.trans written.2)
    rw [← results, ← takens]
    exact again

end SymbolBindings.Sink
