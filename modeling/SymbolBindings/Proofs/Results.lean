/-! # Results that may be failures

How a computed result came about, for the two ways of going on after one.
-/

namespace SymbolBindings

variable {ε α β : Type}

theorem except_map_eq_ok_iff {transform : α → β} {result : Except ε α} {value : β} :
    result.map transform = .ok value ↔
      ∃ before, result = .ok before ∧ transform before = value := by
  cases result <;> simp [Except.map]

theorem except_bind_eq_ok_iff {next : α → Except ε β} {result : Except ε α} {value : β} :
    result.bind next = .ok value ↔ ∃ before, result = .ok before ∧ next before = .ok value := by
  cases result <;> simp [Except.bind]

theorem except_bind_eq_error_iff {next : α → Except ε β} {result : Except ε α} {failure : ε} :
    result.bind next = .error failure ↔
      result = .error failure ∨ ∃ before, result = .ok before ∧ next before = .error failure := by
  cases result <;> simp [Except.bind]

theorem except_isOk_iff {result : Except ε α} :
    result.isOk = true ↔ ∃ value, result = .ok value := by
  cases result <;> simp [Except.isOk, Except.toBool]

end SymbolBindings
