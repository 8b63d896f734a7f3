import SymbolBindings.Proofs.HostType.Layering

/-! # Reading types back

A rendered type begins with its layers, and its base begins where they end. Nothing of the type is
lost in its text, unless the base looks like something else: like another layer, like a known base
although it was passed through, or like a base that is not constant although it is.
-/

namespace SymbolBindings

theorem Primitive.head?_name {spelling : String} {primitive : Primitive}
    (listed : (spelling, primitive) ∈ table) : primitive.name.toList.head? ≠ some '*' := by
  have whole : ∀ entry ∈ table, entry.2.name.toList.head? ≠ some '*' := by decide
  exact whole (spelling, primitive) listed

theorem Base.mem_table_of_known {spelling : String} {primitive : Primitive}
    (found : ofSpelling spelling = .known primitive) : (spelling, primitive) ∈ Primitive.table := by
  apply Primitive.lookup_eq_some_iff.mp
  cases looked : Primitive.lookup spelling with
  | none => simp [ofSpelling, looked] at found
  | some listed => simpa [ofSpelling, looked] using found

namespace HostType

/-- The base does not look like anything else in the text of the type. -/
structure Legible (type : HostType) : Prop where
  unmarked : type.base.isUnresolved = true → type.base.name.toList.head? ≠ some '*'
  unknown : type.base.isUnresolved = true →
    type.base.name ∉ Primitive.table.map fun entry => entry.2.name
  pointed : type.base.constant = true → 1 ≤ type.depth

theorem legible_iff {type : HostType} :
    Legible type ↔
      (type.base.isUnresolved = true → type.base.name.toList.head? ≠ some '*') ∧
        (type.base.isUnresolved = true →
          type.base.name ∉ Primitive.table.map fun entry => entry.2.name) ∧
        (type.base.constant = true → 1 ≤ type.depth) :=
  ⟨fun legible => ⟨legible.unmarked, legible.unknown, legible.pointed⟩,
    fun parts => ⟨parts.1, parts.2.1, parts.2.2⟩⟩

instance (type : HostType) : Decidable (Legible type) :=
  decidable_of_iff _ legible_iff.symm

/-! ## Layers read back -/

theorem render_zero (base : Base) : render ⟨base, 0⟩ = base.name := by
  simp [render, layers]

theorem layer_append_inj {innermost deepest : Prop} [Decidable innermost] [Decidable deepest]
    {rest other : String}
    (same : (if innermost then "*const " else "*mut ") ++ rest =
      (if deepest then "*const " else "*mut ") ++ other) :
    (innermost ↔ deepest) ∧ rest = other := by
  have characters := congrArg String.toList same
  by_cases left : innermost <;> by_cases right : deepest <;>
    simp [left, right, String.toList_inj] at characters ⊢
  · exact characters
  · exact characters

theorem head?_render_succ (base : Base) (depth : Nat) :
    (render ⟨base, depth + 1⟩).toList.head? = some '*' := by
  rw [render_succ]
  split <;> simp

/-- A base that does not begin like a layer tells where the layers end. -/
theorem render_inj {left right : HostType} (leftUnmarked : left.base.name.toList.head? ≠ some '*')
    (rightUnmarked : right.base.name.toList.head? ≠ some '*')
    (same : left.render = right.render) :
    left.depth = right.depth ∧ left.base.name = right.base.name ∧
      (1 ≤ left.depth → left.base.constant = right.base.constant) := by
  rcases left with ⟨left, depth⟩
  rcases right with ⟨right, other⟩
  simp only at leftUnmarked rightUnmarked ⊢
  induction depth generalizing other with
  | zero =>
      cases other with
      | zero =>
          rw [render_zero, render_zero] at same
          exact ⟨rfl, same, by omega⟩
      | succ other =>
          rw [render_zero] at same
          exact absurd (same ▸ head?_render_succ right other) leftUnmarked
  | succ depth induction =>
      cases other with
      | zero =>
          rw [render_zero] at same
          exact absurd (same ▸ head?_render_succ left depth) rightUnmarked
      | succ other =>
          rw [render_succ, render_succ] at same
          rcases layer_append_inj same with ⟨sameLayer, sameRest⟩
          rcases induction other sameRest with ⟨rfl, sameName, sameConstant⟩
          refine ⟨rfl, sameName, fun _ => ?_⟩
          -- Only the innermost layer tells a constant base, and further out the layers agree.
          by_cases innermost : depth = 0
          · exact Bool.eq_iff_iff.mpr (by simpa [innermost] using sameLayer)
          · exact sameConstant (Nat.one_le_iff_ne_zero.mpr innermost)

/-! ## Bases read back -/

namespace Legible

theorem constant_eq_false {type : HostType} (legible : Legible type) (direct : type.depth = 0) :
    type.base.constant = false := by
  rw [← Bool.not_eq_true]
  intro constant
  have pointed := legible.pointed constant
  omega

theorem head?_name {spelling : String} (legible : Legible (resolve spelling)) :
    (resolve spelling).base.name.toList.head? ≠ some '*' := by
  have unmarked := legible.unmarked
  cases base : (resolve spelling).base with
  | known primitive =>
      rw [base_resolve] at base
      exact Primitive.head?_name (Base.mem_table_of_known base)
  | unresolved passed =>
      rw [base] at unmarked
      exact unmarked rfl

/-- A base that was passed through is not taken for a known one. -/
theorem name_ne {spelling other : String} {primitive : Primitive}
    (legible : Legible (resolve spelling)) (passed : (resolve spelling).base.isUnresolved = true)
    (found : (resolve other).base = .known primitive) :
    (resolve spelling).base.name ≠ primitive.name := by
  intro same
  rw [base_resolve] at found
  apply legible.unknown passed
  rw [same]
  exact List.mem_map_of_mem (Base.mem_table_of_known found)

theorem base_inj {left right : String} (leftLegible : Legible (resolve left))
    (rightLegible : Legible (resolve right))
    (sameName : (resolve left).base.name = (resolve right).base.name)
    (sameConstant : (resolve left).base.constant = (resolve right).base.constant) :
    (resolve left).base = (resolve right).base := by
  have passed : ∀ {base : Base} {name : String}, base = .unresolved name →
      base.isUnresolved = true := by
    rintro base name rfl
    rfl
  cases leftBase : (resolve left).base with
  | known primitive =>
      rw [leftBase] at sameName sameConstant
      cases rightBase : (resolve right).base with
      | known second =>
          rw [rightBase] at sameName sameConstant
          cases primitive
          cases second
          simp_all [Base.name, Base.constant]
      | unresolved name =>
          exact absurd sameName.symm (rightLegible.name_ne (passed rightBase) leftBase)
  | unresolved name =>
      cases rightBase : (resolve right).base with
      | known primitive =>
          rw [rightBase] at sameName
          exact absurd sameName (leftLegible.name_ne (passed leftBase) rightBase)
      | unresolved second =>
          rw [leftBase, rightBase] at sameName
          exact congrArg Base.unresolved sameName

end Legible

/-- Rendering loses nothing: legible types that are written alike are the same. -/
theorem render_resolve_inj (left right : String) (leftLegible : Legible (resolve left))
    (rightLegible : Legible (resolve right))
    (same : (resolve left).render = (resolve right).render) : resolve left = resolve right := by
  rcases render_inj leftLegible.head?_name rightLegible.head?_name same with
    ⟨sameDepth, sameName, pointed⟩
  have sameConstant : (resolve left).base.constant = (resolve right).base.constant := by
    by_cases direct : (resolve left).depth = 0
    · rw [leftLegible.constant_eq_false direct,
        rightLegible.constant_eq_false (sameDepth.symm.trans direct)]
    · exact pointed (Nat.one_le_iff_ne_zero.mpr direct)
  have sameBase := leftLegible.base_inj rightLegible sameName sameConstant
  rw [resolve_eq, resolve_eq, ← base_resolve, ← base_resolve, ← depth_resolve, ← depth_resolve,
    sameBase, sameDepth]

/-- Two spellings of one type are legible, with a base that has markers within. Types of one name
are told apart by their innermost layers. -/
theorem render_resolve_inj_inner_marker :
    Legible (resolve "int (*)(void)* *") ∧ Legible (resolve "\u3000int (*)(void) **") ∧
      (resolve "int (*)(void)* *").render = (resolve "\u3000int (*)(void) **").render ∧
      resolve "int (*)(void)* *" = resolve "\u3000int (*)(void) **" ∧
      Legible (resolve "uint8_t*") ∧ Legible (resolve "const uint8_t*") ∧
      (resolve "uint8_t*").render ≠ (resolve "const uint8_t*").render := by
  have left : Legible (resolve "int (*)(void)* *") := by decide
  have right : Legible (resolve "\u3000int (*)(void) **") := by decide
  have same : (resolve "int (*)(void)* *").render =
      (resolve "\u3000int (*)(void) **").render := by decide
  have plain : Legible (resolve "uint8_t*") := by decide
  have constant : Legible (resolve "const uint8_t*") := by decide
  refine ⟨left, right, same, render_resolve_inj _ _ left right same, plain, constant, ?_⟩
  intro alike
  exact absurd (render_resolve_inj _ _ plain constant alike) (by decide)

end HostType

end SymbolBindings
