import SymbolBindings.Proofs.HostType.Decomposition

/-! # Pointer layers

Markers are read from the right end of a spelling and layers are written from the left, so the
last marker is the outermost layer. Another marker puts one layer in front of what is there, and the
layer next to a constant base is the only one that can be constant.
-/

namespace SymbolBindings

theorem Primitive.constant_iff {spelling : String} {primitive : Primitive}
    (listed : (spelling, primitive) ∈ table) :
    primitive.constant = true ↔ spelling = "const char" ∨ spelling = "const uint8_t" := by
  have whole : ∀ entry ∈ table,
      entry.2.constant = true ↔ entry.1 = "const char" ∨ entry.1 = "const uint8_t" := by decide
  exact whole (spelling, primitive) listed

theorem Base.constant_ofSpelling_iff {spelling : String} :
    (ofSpelling spelling).constant = true ↔
      spelling = "const char" ∨ spelling = "const uint8_t" := by
  cases found : Primitive.lookup spelling with
  | some primitive =>
      simp only [ofSpelling, found]
      exact Primitive.constant_iff (Primitive.lookup_eq_some_iff.mp found)
  | none =>
      simp only [ofSpelling, found, constant, Bool.false_eq_true, false_iff]
      rintro (rfl | rfl) <;> cases found

namespace HostType

/-- The spelling of a constant value that no pointer leads to. -/
def IsConstantValue (spelling : String) : Prop :=
  Text.trim spelling = "const char" ∨ Text.trim spelling = "const uint8_t"

instance (spelling : String) : Decidable (IsConstantValue spelling) :=
  inferInstanceAs (Decidable (_ ∨ _))

theorem isConstantValue_iff {spelling : String} :
    IsConstantValue spelling ↔
      (resolve spelling).depth = 0 ∧ (resolve spelling).base.constant = true := by
  rw [base_resolve, depth_resolve, Base.constant_ofSpelling_iff]
  constructor
  · intro constantValue
    have bare : ∀ value : String, value = "const char" ∨ value = "const uint8_t" →
        Decomposes value value "" := by
      rintro value (rfl | rfl) <;> decide
    rcases (decomposes_trim spelling).unique (bare _ constantValue) with ⟨sameBase, noTail⟩
    rw [sameBase, noTail]
    exact ⟨rfl, constantValue⟩
  · rintro ⟨unmarked, constantBase⟩
    rw [IsConstantValue, trim_eq_append, tailSpelling_eq_empty unmarked, String.append_empty]
    exact constantBase

/-! ## One more marker -/

theorem exists_trim (spelling : String) :
    ∃ before after, spelling = before ++ Text.trim spelling ++ after ∧
      (∀ character ∈ before.toList, Text.isBlank character = true) ∧
      ∀ character ∈ after.toList, Text.isBlank character = true := by
  rcases Text.exists_trimBy Text.isBlank spelling.toList with
    ⟨before, after, split, blankBefore, blankAfter⟩
  refine ⟨String.ofList before, String.ofList after, ?_, ?_, ?_⟩
  · apply String.toList_injective
    simpa only [Text.trim, String.toList_append, String.toList_ofList] using split
  · rwa [String.toList_ofList]
  · rwa [String.toList_ofList]

theorem resolve_append_marker (spelling : String) {blanks : String}
    (blank : ∀ character ∈ blanks.toList, Text.isBlank character = true) :
    resolve (spelling ++ blanks ++ "*") =
      ⟨(resolve spelling).base, (resolve spelling).depth + 1⟩ := by
  rcases exists_trim spelling with ⟨before, after, split, blankBefore, blankAfter⟩
  have whole : spelling ++ blanks ++ "*" =
      before ++ baseSpelling spelling ++ (tailSpelling spelling ++ after ++ blanks ++ "*") := by
    conv => lhs; rw [split, trim_eq_append]
    simp only [String.append_assoc]
  have marker : "*".toList = ['*'] := rfl
  have markers : ∀ character ∈ (tailSpelling spelling ++ after ++ blanks ++ "*").toList,
      character = '*' ∨ Text.isBlank character = true := by
    intro character member
    simp only [String.toList_append, List.mem_append, marker, List.mem_singleton] at member
    rcases member with ((inTail | inAfter) | inBlanks) | isMarker
    · exact markers_tailSpelling spelling character inTail
    · exact .inr (blankAfter character inAfter)
    · exact .inr (blank character inBlanks)
    · exact .inl isMarker
  rw [whole, resolve_append blankBefore (isBare_baseSpelling spelling) markers, resolve_eq]
  simp only [String.toList_append, List.count_append, marker, List.count_singleton_self,
    Text.count_eq_zero_of_blank isBlank_marker blankAfter,
    Text.count_eq_zero_of_blank isBlank_marker blank, Nat.add_zero]

theorem layers_succ (constant : Bool) (depth : Nat) :
    layers constant (depth + 1) =
      (if depth = 0 ∧ constant = true then "*const " else "*mut ") :: layers constant depth := by
  cases depth with
  | zero => cases constant <;> rfl
  | succ outer => rfl

theorem render_succ (base : Base) (depth : Nat) :
    render ⟨base, depth + 1⟩ =
      (if depth = 0 ∧ base.constant = true then "*const " else "*mut ") ++
        render ⟨base, depth⟩ := by
  rw [render, layers_succ, String.join_cons, String.append_assoc]
  rfl

/-! ## All layers -/

/-- The layers of a type, with a constant one only next to a constant base. -/
structure Layered (type : HostType) (layers : List String) : Prop where
  render_eq : type.render = String.join layers ++ type.base.name
  length_eq : layers.length = type.depth
  written : ∀ layer ∈ layers, layer = "*mut " ∨ layer = "*const "
  outer : ∀ layer ∈ layers.dropLast, layer = "*mut "
  constant_iff : "*const " ∈ layers ↔ type.base.constant = true ∧ 1 ≤ type.depth

theorem layered_layers (type : HostType) :
    Layered type (layers type.base.constant type.depth) := by
  rcases type with ⟨base, depth⟩
  refine ⟨rfl, ?_, fun layer => mem_layer, ?_, ?_⟩
  · cases depth with
    | zero => rfl
    | succ outer => simp [layers]
  · cases depth with
    | zero => simp [layers]
    | succ outer =>
        intro layer member
        rw [layers, List.dropLast_concat] at member
        exact List.eq_of_mem_replicate member
  · cases depth with
    | zero => simp [layers]
    | succ outer => cases base.constant <;> simp [layers]

namespace Layered

variable {type : HostType} {layers : List String}

theorem notMem_dropLast (layered : Layered type layers) : "*const " ∉ layers.dropLast := by
  intro member
  exact absurd (layered.outer "*const " member) (by decide)

theorem count_le_one (layered : Layered type layers) : layers.count "*const " ≤ 1 := by
  have outerCount := List.count_eq_zero.mpr layered.notMem_dropLast
  rcases List.eq_nil_or_concat layers with rfl | ⟨outer, innermost, rfl⟩
  · exact Nat.zero_le 1
  · rw [List.concat_eq_append, List.dropLast_concat] at outerCount
    rw [List.concat_eq_append, List.count_append, outerCount, List.count_singleton]
    split <;> omega

theorem getLast?_eq (layered : Layered type layers) (constant : "*const " ∈ layers) :
    layers.getLast? = some "*const " := by
  have notOuter := layered.notMem_dropLast
  rcases List.eq_nil_or_concat layers with rfl | ⟨outer, innermost, rfl⟩
  · cases constant
  · rw [List.concat_eq_append, List.dropLast_concat] at notOuter
    rw [List.concat_eq_append] at constant ⊢
    rcases List.mem_append.mp constant with inOuter | isInnermost
    · exact absurd inOuter notOuter
    · rw [List.getLast?_concat, List.mem_singleton.mp isInnermost]

end Layered

/-- Another marker adds one outermost layer, a constant one exactly at a constant value. So a type
of depth `d` is written as `d` layers and its base, and at most the innermost layer is constant. -/
theorem render_layers :
    (∀ spelling blanks : String, (∀ character ∈ blanks.toList, Text.isBlank character = true) →
      (resolve (spelling ++ blanks ++ "*")).render =
        (if IsConstantValue spelling then "*const " else "*mut ") ++ (resolve spelling).render) ∧
      (∀ spelling, IsConstantValue spelling ↔
        (resolve spelling).depth = 0 ∧ (resolve spelling).base.constant = true) ∧
      ∀ spelling, ∃ layers, Layered (resolve spelling) layers ∧ layers.count "*const " ≤ 1 ∧
        ("*const " ∈ layers → layers.getLast? = some "*const ") := by
  refine ⟨?_, fun _ => isConstantValue_iff, ?_⟩
  · intro spelling blanks blank
    rw [resolve_append_marker spelling blank, render_succ]
    simp only [isConstantValue_iff]
  · intro spelling
    have layered := layered_layers (resolve spelling)
    exact ⟨_, layered, layered.count_le_one, layered.getLast?_eq⟩

theorem render_layers_constant_value :
    (∀ character ∈ " \t".toList, Text.isBlank character = true) ∧
      (resolve ("const uint8_t" ++ " \t" ++ "*")).render = "*const " ++ "u8" ∧
      (resolve ("const uint8_t*" ++ " \t" ++ "*")).render = "*mut " ++ "*const u8" := by
  have blank : ∀ character ∈ " \t".toList, Text.isBlank character = true :=
    List.all_eq_true.mp (by decide)
  exact ⟨blank, render_layers.1 "const uint8_t" " \t" blank,
    render_layers.1 "const uint8_t*" " \t" blank⟩

end HostType

end SymbolBindings
