import SymbolBindings.HostType.Basic

/-! # Rendered types

Rendering adds pointer layers before the base and nothing else, so what a rendered type is made of
is told by the spelling of its base.
-/

namespace SymbolBindings

/-- Letters, digits, underscores and spaces. Outside ASCII letters and digits are not told from
other characters, and all of them are let in. -/
def isSpellingCharacter (character : Char) : Bool :=
  character.isAlphanum || character == '_' || character == ' ' || 0x80 ≤ character.toNat

/-- Whether a C base is spelled as C spells types. -/
def IsSpelling (text : String) : Prop :=
  ∀ character ∈ text.toList, isSpellingCharacter character = true

instance (text : String) : Decidable (IsSpelling text) :=
  decidable_of_iff (text.toList.all isSpellingCharacter = true) List.all_eq_true

/-! ## Bases -/

theorem Primitive.exists_mem_table {spelling : String} {primitive : Primitive}
    (found : lookup spelling = some primitive) : (spelling, primitive) ∈ table := by
  rcases List.lookup_eq_some_iff.mp found with ⟨before, after, split, -⟩
  rw [split]
  exact List.mem_append_right before List.mem_cons_self

theorem Primitive.isSpelling_name {spelling : String} {primitive : Primitive}
    (found : lookup spelling = some primitive) : IsSpelling primitive.name := by
  have whole : ∀ entry ∈ table, IsSpelling entry.2.name := by decide
  exact whole _ (exists_mem_table found)

/-- A known base has a name of the table, and every other is written as it is spelled. -/
theorem Base.isSpelling_name_ofSpelling {spelling : String}
    (plain : (ofSpelling spelling).isUnresolved = true → IsSpelling (ofSpelling spelling).name) :
    IsSpelling (ofSpelling spelling).name := by
  cases found : Primitive.lookup spelling with
  | some primitive =>
      simp only [ofSpelling, found]
      exact Primitive.isSpelling_name found
  | none =>
      apply plain
      simp only [ofSpelling, found]
      rfl

/-! ## Types -/

namespace HostType

/-- What precedes the pointer markers of a spelling. -/
def baseSpelling (spelling : String) : String :=
  String.ofList ((Text.trimBy Text.isBlank spelling.toList).reverse.dropWhile isPointerTail).reverse

theorem base_resolve (spelling : String) :
    (resolve spelling).base = .ofSpelling (baseSpelling spelling) := by
  simp only [resolve, baseSpelling]

theorem isSpelling_base_resolve {spelling : String}
    (plain : (resolve spelling).base.isUnresolved = true →
      IsSpelling (resolve spelling).base.name) :
    IsSpelling (resolve spelling).base.name := by
  rw [base_resolve] at plain ⊢
  exact Base.isSpelling_name_ofSpelling plain

theorem mem_layer {constant : Bool} {depth : Nat} {layer : String}
    (member : layer ∈ layers constant depth) : layer = "*mut " ∨ layer = "*const " := by
  cases depth with
  | zero => cases member
  | succ outer =>
      rcases List.mem_append.mp member with inOuter | innermost
      · exact .inl (List.eq_of_mem_replicate inOuter)
      · rw [List.mem_singleton] at innermost
        cases constant
        · exact .inl innermost
        · exact .inr innermost

theorem mem_render {type : HostType} (plain : IsSpelling type.base.name) {character : Char}
    (member : character ∈ type.render.toList) :
    isSpellingCharacter character = true ∨ character = '*' := by
  rw [render, String.toList_append, String.toList_join, List.mem_append] at member
  rcases member with inLayers | inBase
  · rcases List.mem_flatMap.mp inLayers with ⟨layer, layerMember, within⟩
    have marked : ("*mut ".toList ++ "*const ".toList).all
        (fun character => isSpellingCharacter character || character == '*') = true := by decide
    have inBoth : character ∈ "*mut ".toList ++ "*const ".toList := by
      rcases mem_layer layerMember with rfl | rfl
      · exact List.mem_append_left _ within
      · exact List.mem_append_right _ within
    simpa using List.all_eq_true.mp marked character inBoth
  · exact .inl (plain character inBase)

theorem notMem_render {type : HostType} (plain : IsSpelling type.base.name) {stop : Char}
    (foreign : isSpellingCharacter stop = false) (notMarker : stop ≠ '*') :
    stop ∉ type.render.toList := by
  intro member
  rcases mem_render plain member with spelled | marker
  · rw [foreign] at spelled
    cases spelled
  · exact notMarker marker

end HostType

end SymbolBindings
