import Mathlib.Data.List.DropRight
import SymbolBindings.Proofs.Text.Utf8
import SymbolBindings.Text.Blank

/-! # Trimming

Trimming twice, first by a narrower notion of blank and then by a wider one, is trimming by the
wider one. So the blank octets may go before a text is read and the blank characters after, and
what remains is the text trimmed once.
-/

namespace SymbolBindings.Text

section Lists

variable {α β : Type} {blank : α → Bool}

theorem trimBy_eq_rdropWhile (items : List α) :
    trimBy blank items = (items.dropWhile blank).rdropWhile blank := rfl

/-- What trimming removes are blanks at the two ends. -/
theorem exists_trimBy (blank : α → Bool) (items : List α) :
    ∃ before after, items = before ++ trimBy blank items ++ after ∧
      (∀ item ∈ before, blank item = true) ∧ ∀ item ∈ after, blank item = true := by
  refine ⟨items.takeWhile blank, (items.dropWhile blank).rtakeWhile blank, ?_, ?_, ?_⟩
  · rw [trimBy_eq_rdropWhile, List.append_assoc, List.rdropWhile_append_rtakeWhile,
      List.takeWhile_append_dropWhile]
  · intro item member
    exact List.mem_takeWhile_imp member
  · intro item member
    exact List.mem_rtakeWhile_imp member

theorem rdropWhile_append_of_blank {items after : List α}
    (blankAfter : ∀ item ∈ after, blank item = true) :
    (items ++ after).rdropWhile blank = items.rdropWhile blank := by
  rw [List.rdropWhile, List.reverse_append,
    List.dropWhile_append_of_pos (by simpa using blankAfter)]
  rfl

theorem trimBy_append_blank {before items after : List α}
    (blankBefore : ∀ item ∈ before, blank item = true)
    (blankAfter : ∀ item ∈ after, blank item = true) :
    trimBy blank (before ++ items ++ after) = trimBy blank items := by
  rw [trimBy_eq_rdropWhile, List.append_assoc, List.dropWhile_append_of_pos blankBefore,
    List.dropWhile_append]
  split
  case isTrue allBlank =>
    rw [List.isEmpty_iff] at allBlank
    rw [trimBy_eq_rdropWhile, allBlank, List.rdropWhile_nil, List.rdropWhile_eq_nil_iff]
    intro item member
    exact blankAfter item ((List.dropWhile_sublist _).subset member)
  case isFalse =>
    rw [rdropWhile_append_of_blank blankAfter, trimBy_eq_rdropWhile]

theorem trimBy_trimBy {narrow wide : α → Bool}
    (included : ∀ item, narrow item = true → wide item = true) (items : List α) :
    trimBy wide (trimBy narrow items) = trimBy wide items := by
  rcases exists_trimBy narrow items with ⟨before, after, split, blankBefore, blankAfter⟩
  conv => rhs; rw [split]
  exact (trimBy_append_blank (fun item member => included item (blankBefore item member))
    fun item member => included item (blankAfter item member)).symm

/-- Where every item is spelled by blanks alone or without any, dropping blanks drops whole
items. -/
theorem dropWhile_flatMap (spell : α → List β) (blank : β → Bool)
    (nonempty : ∀ item, spell item ≠ [])
    (solid : ∀ item, ∀ part ∈ spell item, blank part = true → (spell item).all blank = true)
    (items : List α) :
    (items.flatMap spell).dropWhile blank =
      (items.dropWhile fun item => (spell item).all blank).flatMap spell := by
  induction items with
  | nil => rfl
  | cons item rest induction =>
      rw [List.flatMap_cons, List.dropWhile_cons]
      split
      case isTrue allBlank =>
        rw [List.dropWhile_append_of_pos (List.all_eq_true.mp allBlank), induction]
      case isFalse notBlank =>
        rcases List.exists_cons_of_ne_nil (nonempty item) with ⟨first, others, spelled⟩
        have firstSolid : ¬blank first = true := fun firstBlank =>
          notBlank (solid item first (by simp [spelled]) firstBlank)
        rw [List.flatMap_cons, spelled, List.cons_append, List.dropWhile_cons_of_neg firstSolid]

theorem trimBy_flatMap {spell : α → List β} {blank : β → Bool}
    (nonempty : ∀ item, spell item ≠ [])
    (solid : ∀ item, ∀ part ∈ spell item, blank part = true → (spell item).all blank = true)
    (items : List α) :
    trimBy blank (items.flatMap spell) =
      (trimBy (fun item => (spell item).all blank) items).flatMap spell := by
  have backwards := dropWhile_flatMap (List.reverse ∘ spell) blank
    (by simpa using nonempty) (by simpa using solid)
  simp only [Function.comp_apply, List.all_reverse] at backwards
  rw [trimBy, trimBy, dropWhile_flatMap spell blank nonempty solid, List.reverse_flatMap, backwards,
    List.reverse_flatMap]
  simp [Function.comp_def]

end Lists

theorem toList_trim (text : String) : (trim text).toList = trimBy isBlank text.toList :=
  String.toList_ofList

/-! ## Cells -/

/-- The characters that are blank before the cell around them has been read. -/
def isFieldBlank (character : Char) : Bool :=
  (String.utf8EncodeChar character).all isBlankOctet

theorem lt_of_isBlankOctet {octet : UInt8} (blank : isBlankOctet octet = true) :
    octet < 0x80 := by
  simp only [isBlankOctet, Bool.or_eq_true, beq_iff_eq] at blank
  rcases blank with (((rfl | rfl) | rfl) | rfl) | rfl <;> decide

theorem isBlank_of_isFieldBlank (character : Char) (blank : isFieldBlank character = true) :
    isBlank character = true := by
  rcases List.exists_cons_of_ne_nil (String.utf8EncodeChar_ne_nil (c := character)) with
    ⟨first, others, spelled⟩
  have member : first ∈ String.utf8EncodeChar character := by simp [spelled]
  have firstBlank : isBlankOctet first = true := List.all_eq_true.mp blank first member
  have low := lt_of_isBlankOctet firstBlank
  rw [← (utf8EncodeChar_eq_singleton_iff low).mp (utf8EncodeChar_eq_singleton_of_low member low)]
  simp only [isBlankOctet, Bool.or_eq_true, beq_iff_eq] at firstBlank
  rcases firstBlank with (((rfl | rfl) | rfl) | rfl) | rfl <;> decide

/-- Removing blank octets removes whole characters. -/
theorem trimBy_octets (text : String) :
    trimBy isBlankOctet (octets text) =
      octets (String.ofList (trimBy isFieldBlank text.toList)) := by
  rw [octets_eq_flatMap, octets_ofList]
  refine trimBy_flatMap (fun _ => String.utf8EncodeChar_ne_nil) ?_ text.toList
  intro character octet member blank
  rw [utf8EncodeChar_eq_singleton_of_low member (lt_of_isBlankOctet blank)]
  simpa using blank

theorem exists_octets_of_low {low : List UInt8} (bound : ∀ octet ∈ low, octet < 0x80) :
    ∃ text, octets text = low := by
  induction low with
  | nil => exact ⟨"", rfl⟩
  | cons octet rest induction =>
      rcases induction fun octet member => bound octet (by simp [member]) with ⟨text, spelled⟩
      refine ⟨String.ofList [Char.ofNat octet.toNat] ++ text, ?_⟩
      have single := (utf8EncodeChar_eq_singleton_iff (bound octet (by simp))).mpr rfl
      rw [octets_append, octets_ofList, spelled, List.flatMap_singleton, single]
      rfl

/-- A cell whose blank octets are removed before it is read is the trimmed text of the whole
cell. -/
theorem decode_trimmed_eq_ok_iff {cell : List UInt8} {text : String} :
    (decode (trimBy isBlankOctet cell)).map trim = .ok text ↔
      ∃ raw, cell = octets raw ∧ text = trim raw := by
  have trimmedOnce : ∀ raw : String,
      (decode (trimBy isBlankOctet (octets raw))).map trim = .ok (trim raw) := by
    intro raw
    rw [trimBy_octets, decode_eq_ok_iff.mpr rfl]
    simp only [Except.map, trim, String.toList_ofList, trimBy_trimBy isBlank_of_isFieldBlank]
  constructor
  · intro decoded
    rcases except_map_eq_ok_iff.mp decoded with ⟨core, read, -⟩
    rcases exists_trimBy isBlankOctet cell with ⟨before, after, split, blankBefore, blankAfter⟩
    rcases exists_octets_of_low fun octet member =>
      lt_of_isBlankOctet (blankBefore octet member) with ⟨leading, spelledBefore⟩
    rcases exists_octets_of_low fun octet member =>
      lt_of_isBlankOctet (blankAfter octet member) with ⟨trailing, spelledAfter⟩
    have whole : cell = octets (leading ++ core ++ trailing) := by
      rw [split, decode_eq_ok_iff.mp read]
      simp [spelledBefore, spelledAfter]
    refine ⟨leading ++ core ++ trailing, whole, ?_⟩
    rw [whole, trimmedOnce] at decoded
    exact (Except.ok.inj decoded).symm
  · intro spelled
    rcases spelled with ⟨raw, rfl, rfl⟩
    exact trimmedOnce raw

end SymbolBindings.Text
