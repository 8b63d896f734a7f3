import SymbolBindings.Proofs.HostType.Rendering
import SymbolBindings.Proofs.Text.Blank

/-! # Decomposing a spelling

A trimmed spelling is a base and a tail of pointer markers in exactly one way. Resolution finds that
way, wherever blanks stand around the base and between the markers.
-/

namespace SymbolBindings

/-! ## Longest tails -/

namespace Text

section Lists

variable {α : Type}

/-- A split before a tail is the one before the longest tail, if the part before it ends outside. -/
theorem eq_rdropWhile_of_append {inTail : α → Bool} {items front tail : List α}
    (split : items = front ++ tail) (stops : ∀ last ∈ front.getLast?, inTail last = false)
    (within : ∀ item ∈ tail, inTail item = true) :
    front = items.rdropWhile inTail ∧ tail = items.rtakeWhile inTail := by
  have frontEqual : items.rdropWhile inTail = front := by
    rw [split, rdropWhile_append_of_blank within, List.rdropWhile_eq_self_iff]
    intro nonempty
    rw [Bool.not_eq_true]
    exact stops _ (List.getLast?_eq_some_getLast nonempty)
  have whole : items.rdropWhile inTail ++ items.rtakeWhile inTail = items :=
    List.rdropWhile_append_rtakeWhile
  rw [frontEqual] at whole
  exact ⟨frontEqual.symm, (List.append_cancel_left (whole.trans split)).symm⟩

theorem rdropWhile_getLast? {inTail : α → Bool} {items : List α} :
    ∀ last ∈ (items.rdropWhile inTail).getLast?, inTail last = false := by
  intro last found
  rcases List.mem_getLast?_eq_getLast found with ⟨nonempty, rfl⟩
  exact Bool.eq_false_iff.mpr (List.rdropWhile_last_not inTail items nonempty)

/-- After trimming, what was trimmed away need not be looked at again. -/
theorem rdropWhile_trimBy {narrow wide : α → Bool}
    (included : ∀ item, narrow item = true → wide item = true) (items : List α) :
    (trimBy narrow items).rdropWhile wide = (items.dropWhile narrow).rdropWhile wide := by
  have whole : trimBy narrow items ++ (items.dropWhile narrow).rtakeWhile narrow =
      items.dropWhile narrow := List.rdropWhile_append_rtakeWhile
  rw [← whole, rdropWhile_append_of_blank]
  intro item member
  exact included item (List.mem_rtakeWhile_imp member)

theorem mem_head?_of_rdropWhile {inTail : α → Bool} {items : List α} {first : α}
    (found : first ∈ (items.rdropWhile inTail).head?) : first ∈ items.head? := by
  rcases List.rdropWhile_prefix (p := inTail) (l := items) with ⟨tail, whole⟩
  rw [← whole]
  exact List.mem_head?_append_of_mem_head? found

theorem head?_trimBy {blank : α → Bool} {items : List α} :
    ∀ first ∈ (trimBy blank items).head?, blank first = false := by
  intro first found
  have started : first ∈ (items.dropWhile blank).head? := mem_head?_of_rdropWhile found
  have solid := List.head?_dropWhile_not blank items
  rw [Option.mem_def.mp started] at solid
  simpa using solid

theorem count_eq_zero_of_blank [DecidableEq α] {blank : α → Bool} {item : α}
    (solid : blank item = false) {items : List α} (allBlank : ∀ item ∈ items, blank item = true) :
    items.count item = 0 := by
  apply List.count_eq_zero.mpr
  intro member
  rw [allBlank item member] at solid
  cases solid

theorem count_trimBy [DecidableEq α] {blank : α → Bool} {item : α} (solid : blank item = false)
    (items : List α) : (trimBy blank items).count item = items.count item := by
  rcases exists_trimBy blank items with ⟨before, after, split, blankBefore, blankAfter⟩
  conv => rhs; rw [split]
  rw [List.count_append, List.count_append, count_eq_zero_of_blank solid blankBefore,
    count_eq_zero_of_blank solid blankAfter]
  omega

end Lists

end Text

/-! ## The table of bases -/

namespace Primitive

theorem lookup_eq_some_iff {spelling : String} {primitive : Primitive} :
    lookup spelling = some primitive ↔ (spelling, primitive) ∈ table := by
  constructor
  · exact exists_mem_table
  · have distinct : ∀ entry ∈ table, lookup entry.1 = some entry.2 := by decide
    exact distinct (spelling, primitive)

theorem lookup_eq_none_iff {spelling : String} :
    lookup spelling = none ↔ spelling ∉ table.map Prod.fst := by
  rw [Option.eq_none_iff_forall_ne_some, List.mem_map]
  constructor
  · intro missing listed
    rcases listed with ⟨entry, member, rfl⟩
    exact missing entry.2 (lookup_eq_some_iff.mpr member)
  · intro missing primitive found
    exact missing ⟨_, lookup_eq_some_iff.mp found, rfl⟩

end Primitive

namespace HostType

/-- The type is the base of this spelling under `depth` layers: a primitive if the table has the
spelling, and the spelling itself otherwise. -/
structure Wraps (type : HostType) (spelling : String) (depth : Nat) : Prop where
  depth_eq : type.depth = depth
  known : ∀ primitive, (spelling, primitive) ∈ Primitive.table → type.base = .known primitive
  unresolved : spelling ∉ Primitive.table.map Prod.fst → type.base = .unresolved spelling

theorem wraps_ofSpelling (spelling : String) (depth : Nat) :
    Wraps ⟨.ofSpelling spelling, depth⟩ spelling depth where
  depth_eq := rfl
  known primitive member := by
    simp only [Base.ofSpelling, Primitive.lookup_eq_some_iff.mpr member]
  unresolved missing := by
    simp only [Base.ofSpelling, Primitive.lookup_eq_none_iff.mpr missing]

/-! ## Bases and tails -/

/-- No blank stands at either end of the base, and no marker at its end. -/
structure IsBare (base : String) : Prop where
  first : ∀ first ∈ base.toList.head?, Text.isBlank first = false
  last : ∀ last ∈ base.toList.getLast?, Text.isBlank last = false ∧ last ≠ '*'

structure Decomposes (text base tail : String) : Prop where
  text_eq : text = base ++ tail
  bare : IsBare base
  markers : ∀ character ∈ tail.toList, character = '*' ∨ Text.isBlank character = true
  marked : tail.toList.count '*' = 0 → tail = ""

theorem isPointerTail_iff {character : Char} :
    isPointerTail character = true ↔ character = '*' ∨ Text.isBlank character = true := by
  rw [isPointerTail, Bool.or_eq_true, beq_iff_eq]

theorem isPointerTail_eq_false_iff {character : Char} :
    isPointerTail character = false ↔ Text.isBlank character = false ∧ character ≠ '*' := by
  rw [← Bool.not_eq_true, isPointerTail_iff, not_or, Bool.not_eq_true, and_comm, ne_eq]

theorem isBlank_marker : Text.isBlank '*' = false := by decide

theorem all_isPointerTail_iff {characters : List Char} :
    characters.all isPointerTail = true ↔
      ∀ character ∈ characters, character = '*' ∨ Text.isBlank character = true := by
  simp only [List.all_eq_true, isPointerTail_iff]

theorem isBare_iff {base : String} :
    IsBare base ↔ base.toList.head?.all (!Text.isBlank ·) = true ∧
      base.toList.getLast?.all (!isPointerTail ·) = true := by
  simp only [Option.all_eq_true, Bool.not_eq_true', isPointerTail_eq_false_iff]
  exact ⟨fun bare => ⟨bare.first, bare.last⟩, fun ends => ⟨ends.1, ends.2⟩⟩

instance (base : String) : Decidable (IsBare base) :=
  decidable_of_iff _ isBare_iff.symm

theorem decomposes_iff {text base tail : String} :
    Decomposes text base tail ↔ text = base ++ tail ∧ IsBare base ∧
      tail.toList.all isPointerTail = true ∧ (tail.toList.count '*' = 0 → tail = "") := by
  rw [all_isPointerTail_iff]
  constructor
  · intro parts
    exact ⟨parts.text_eq, parts.bare, parts.markers, parts.marked⟩
  · rintro ⟨whole, bare, markers, marked⟩
    exact ⟨whole, bare, markers, marked⟩

instance (text base tail : String) : Decidable (Decomposes text base tail) :=
  decidable_of_iff _ decomposes_iff.symm

/-- The pointer markers of a spelling, with the blanks between them. -/
def tailSpelling (spelling : String) : String :=
  String.ofList ((Text.trimBy Text.isBlank spelling.toList).rtakeWhile isPointerTail)

theorem toList_baseSpelling (spelling : String) :
    (baseSpelling spelling).toList =
      (Text.trimBy Text.isBlank spelling.toList).rdropWhile isPointerTail :=
  String.toList_ofList

theorem depth_resolve (spelling : String) :
    (resolve spelling).depth = (tailSpelling spelling).toList.count '*' := by
  rw [tailSpelling, String.toList_ofList, List.rtakeWhile, List.count_reverse]
  rfl

theorem resolve_eq (spelling : String) :
    resolve spelling =
      ⟨.ofSpelling (baseSpelling spelling), (tailSpelling spelling).toList.count '*'⟩ := by
  rw [← base_resolve, ← depth_resolve]

theorem trim_eq_append (spelling : String) :
    Text.trim spelling = baseSpelling spelling ++ tailSpelling spelling := by
  apply String.toList_injective
  rw [String.toList_append, toList_baseSpelling, tailSpelling, String.toList_ofList,
    List.rdropWhile_append_rtakeWhile, Text.trim, String.toList_ofList]

theorem markers_tailSpelling (spelling : String) :
    ∀ character ∈ (tailSpelling spelling).toList,
      character = '*' ∨ Text.isBlank character = true := by
  intro character member
  rw [tailSpelling, String.toList_ofList] at member
  exact isPointerTail_iff.mp (List.mem_rtakeWhile_imp member)

theorem isBare_baseSpelling (spelling : String) : IsBare (baseSpelling spelling) where
  first := by
    intro first found
    rw [toList_baseSpelling] at found
    exact Text.head?_trimBy first (Text.mem_head?_of_rdropWhile found)
  last := by
    intro last found
    rw [toList_baseSpelling] at found
    exact isPointerTail_eq_false_iff.mp (Text.rdropWhile_getLast? last found)

/-- The last character of a trimmed spelling is not blank, so a tail ends in a marker. -/
theorem tailSpelling_eq_empty {spelling : String}
    (unmarked : (tailSpelling spelling).toList.count '*' = 0) : tailSpelling spelling = "" := by
  apply String.toList_injective
  by_contra nonempty
  have ends := List.getLast?_eq_some_getLast nonempty
  have endsTrimmed : (tailSpelling spelling).toList.getLast nonempty ∈
      (Text.trim spelling).toList.getLast? := by
    rw [trim_eq_append, String.toList_append, List.getLast?_append, ends]
    rfl
  rw [Text.trim, String.toList_ofList] at endsTrimmed
  have solid := Text.rdropWhile_getLast? _ endsTrimmed
  rcases markers_tailSpelling spelling _ (List.getLast_mem nonempty) with marker | blank
  · exact List.count_eq_zero.mp unmarked (marker ▸ List.getLast_mem nonempty)
  · rw [solid] at blank
    cases blank

theorem decomposes_trim (spelling : String) :
    Decomposes (Text.trim spelling) (baseSpelling spelling) (tailSpelling spelling) where
  text_eq := trim_eq_append spelling
  bare := isBare_baseSpelling spelling
  markers := markers_tailSpelling spelling
  marked := tailSpelling_eq_empty

/-- The base ends where the longest tail begins, so a text has no two decompositions. -/
theorem Decomposes.unique {text base tail otherBase otherTail : String}
    (left : Decomposes text base tail) (right : Decomposes text otherBase otherTail) :
    base = otherBase ∧ tail = otherTail := by
  have longest : ∀ {base tail : String}, Decomposes text base tail →
      base.toList = text.toList.rdropWhile isPointerTail ∧
        tail.toList = text.toList.rtakeWhile isPointerTail := by
    intro base tail parts
    apply Text.eq_rdropWhile_of_append
    · rw [parts.text_eq, String.toList_append]
    · intro last found
      exact isPointerTail_eq_false_iff.mpr (parts.bare.last last found)
    · intro character member
      exact isPointerTail_iff.mpr (parts.markers character member)
  rcases longest left with ⟨baseLeft, tailLeft⟩
  rcases longest right with ⟨baseRight, tailRight⟩
  exact ⟨String.toList_injective (baseLeft.trans baseRight.symm),
    String.toList_injective (tailLeft.trans tailRight.symm)⟩

theorem wraps_resolve_of_decomposes {spelling base tail : String}
    (parts : Decomposes (Text.trim spelling) base tail) :
    (resolve spelling).Wraps base (tail.toList.count '*') := by
  rcases parts.unique (decomposes_trim spelling) with ⟨rfl, rfl⟩
  rw [resolve_eq]
  exact wraps_ofSpelling _ _

/-! ## Spelling a base with markers -/

section Spelled

variable {before base after : String}
  (blankBefore : ∀ character ∈ before.toList, Text.isBlank character = true)
  (bare : IsBare base)
  (markers : ∀ character ∈ after.toList, character = '*' ∨ Text.isBlank character = true)
include blankBefore bare markers

theorem baseSpelling_append : baseSpelling (before ++ base ++ after) = base := by
  have within : ∀ character ∈ after.toList, isPointerTail character = true := by
    intro character member
    exact isPointerTail_iff.mpr (markers character member)
  have included : ∀ character, Text.isBlank character = true → isPointerTail character = true := by
    intro character blank
    exact isPointerTail_iff.mpr (.inr blank)
  apply String.toList_injective
  rw [toList_baseSpelling, Text.rdropWhile_trimBy included, String.toList_append,
    String.toList_append, List.append_assoc, List.dropWhile_append_of_pos blankBefore]
  cases start : base.toList with
  | nil =>
      rw [List.nil_append, List.rdropWhile_eq_nil_iff]
      intro character member
      exact within character ((List.dropWhile_sublist _).subset member)
  | cons first rest =>
      have solid : ¬Text.isBlank first = true := by
        rw [bare.first first (by rw [start]; rfl)]
        simp
      rw [List.cons_append, List.dropWhile_cons_of_neg solid, ← List.cons_append, ← start]
      refine (Text.eq_rdropWhile_of_append rfl ?_ within).1.symm
      intro last found
      exact isPointerTail_eq_false_iff.mpr (bare.last last found)

/-- Blanks come and go without a trace, so every marker behind the base counts. -/
theorem count_tailSpelling_append :
    (tailSpelling (before ++ base ++ after)).toList.count '*' = after.toList.count '*' := by
  have trimmed : (Text.trim (before ++ base ++ after)).toList.count '*' =
      (before ++ base ++ after).toList.count '*' := by
    rw [Text.trim, String.toList_ofList]
    exact Text.count_trimBy isBlank_marker _
  have unmarked := Text.count_eq_zero_of_blank isBlank_marker blankBefore
  rw [trim_eq_append, baseSpelling_append blankBefore bare markers] at trimmed
  simp only [String.toList_append, List.count_append] at trimmed
  omega

theorem resolve_append :
    resolve (before ++ base ++ after) = ⟨.ofSpelling base, after.toList.count '*'⟩ := by
  rw [resolve_eq, baseSpelling_append blankBefore bare markers,
    count_tailSpelling_append blankBefore bare markers]

end Spelled

/-- A trimmed spelling has exactly one decomposition, its parts are what it resolves to, and a base
resolves to itself under as many layers as markers follow it. -/
theorem resolve_decomposition :
    (∀ spelling, ∃! parts : String × String, Decomposes (Text.trim spelling) parts.1 parts.2) ∧
      (∀ spelling base tail, Decomposes (Text.trim spelling) base tail →
        (resolve spelling).Wraps base (tail.toList.count '*')) ∧
      ∀ before base after : String,
        (∀ character ∈ before.toList, Text.isBlank character = true) → IsBare base →
          (∀ character ∈ after.toList, character = '*' ∨ Text.isBlank character = true) →
            (resolve (before ++ base ++ after)).Wraps base (after.toList.count '*') := by
  refine ⟨?_, fun _ _ _ => wraps_resolve_of_decomposes, ?_⟩
  · intro spelling
    refine ⟨(baseSpelling spelling, tailSpelling spelling), decomposes_trim spelling, ?_⟩
    intro others parts
    rcases parts.unique (decomposes_trim spelling) with ⟨sameBase, sameTail⟩
    exact Prod.ext sameBase sameTail
  · intro before base after blankBefore bare markers
    rw [resolve_append blankBefore bare markers]
    exact wraps_ofSpelling _ _

/-- A marker inside the base stays there, and blanks of any alphabet are passed over. -/
theorem resolve_decomposition_inner_marker :
    Decomposes (Text.trim " *int(*)\u3000* *\n") "*int(*)" "\u3000* *" ∧
      (resolve " *int(*)\u3000* *\n").Wraps "*int(*)" 2 ∧
      (resolve (" " ++ "const char" ++ "*\t* ")).Wraps "const char" 2 := by
  have parts : Decomposes (Text.trim " *int(*)\u3000* *\n") "*int(*)" "\u3000* *" := by decide
  have bare : IsBare "const char" := by decide
  have blank : ∀ character ∈ " ".toList, Text.isBlank character = true :=
    List.all_eq_true.mp (by decide)
  have markers : ∀ character ∈ "*\t* ".toList,
      character = '*' ∨ Text.isBlank character = true :=
    all_isPointerTail_iff.mp (by decide)
  exact ⟨parts, resolve_decomposition.2.1 _ _ _ parts,
    resolve_decomposition.2.2 _ _ _ blank bare markers⟩

end HostType

end SymbolBindings
