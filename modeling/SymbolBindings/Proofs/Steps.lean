/-! # Steps with a state

What a step comes to when the step before it is known to end in a certain way.
-/

namespace SymbolBindings

variable {σ α β ε : Type} {state after : σ} {value : α}

theorem bind_of_eq {first : StateM σ α} (done : first state = (value, after))
    (next : α → StateM σ β) : (first >>= next) state = next value after := by
  change (match first state with | (value, after) => next value after) = _
  rw [done]

theorem step_bind_of_ok {first : ExceptT ε (StateM σ) α}
    (done : first.run state = (.ok value, after)) (next : α → ExceptT ε (StateM σ) β) :
    (first >>= next).run state = (next value).run after := by
  rw [ExceptT.run_bind, bind_of_eq done]

theorem step_bind_of_error {first : ExceptT ε (StateM σ) α} {trouble : ε}
    (failed : first.run state = (.error trouble, after)) (next : α → ExceptT ε (StateM σ) β) :
    (first >>= next).run state = (.error trouble, after) := by
  rw [ExceptT.run_bind, bind_of_eq failed]
  rfl

theorem step_lift_of_eq {first : StateM σ α} (done : first state = (value, after)) :
    (liftM first : ExceptT ε (StateM σ) α).run state = (.ok value, after) := by
  change (Except.ok <$> first) state = _
  rw [map_eq_pure_bind, bind_of_eq done]
  rfl

end SymbolBindings
