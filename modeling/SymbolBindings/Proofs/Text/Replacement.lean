import Mathlib.Data.List.TakeWhile
import SymbolBindings.Proofs.Text.Utf8
import SymbolBindings.Text.Replacement

/-! # Showing octets

Octets that are text show as that text, and no others show as their own. An ASCII character among
the octets shows as itself, whatever stands on its two sides, so that octets can be cut at one
before or after they are shown.
-/

namespace SymbolBindings.Text

theorem showFrom_eq_drop (passed : Nat) (octets : List UInt8) :
    showFrom passed octets = showFrom 0 (octets.drop passed) := by
  induction passed generalizing octets with
  | zero => rfl
  | succ passed induction =>
      cases octets with
      | nil => rfl
      | cons first rest => exact induction rest

theorem extent_pos (first : UInt8) (rest : List UInt8) : 0 < extent first rest := by
  cases rest with
  | nil => exact Nat.one_pos
  | cons second rest =>
      rw [extent]
      split
      case isTrue => omega
      case isFalse => exact Nat.one_pos

/-- What belongs together is shown as one character, and the rest is shown after it. -/
theorem showFrom_cons (first : UInt8) (rest : List UInt8) :
    showFrom 0 (first :: rest) =
      characterOrReplacement ((first :: rest).take (extent first rest)) ::
        showFrom 0 ((first :: rest).drop (extent first rest)) := by
  rw [showFrom, showFrom_eq_drop]
  congr 2
  obtain ⟨more, enough⟩ := Nat.exists_eq_succ_of_ne_zero (extent_pos first rest).ne'
  rw [enough]
  rfl

theorem extent_le (first : UInt8) (others : List UInt8) :
    extent first others ≤ (first :: others).length := by
  cases others with
  | nil => rfl
  | cons second rest =>
      have taken : (rest.take (width first - 2)).length ≤ rest.length := List.length_take_le' _ _
      have continued : ((rest.take (width first - 2)).takeWhile continues).length ≤
          (rest.take (width first - 2)).length := (List.takeWhile_sublist continues).length_le
      rw [extent]
      split
      case isTrue =>
        simp only [List.length_cons]
        omega
      case isFalse => simp

/-- What holds of no octets and, if it holds of what is shown after the first character, of all of
them, holds of any octets. -/
theorem shown_induction {motive : List UInt8 → Prop} (nil : motive [])
    (cons : ∀ first rest, motive ((first :: rest).drop (extent first rest)) →
      motive (first :: rest)) (octets : List UInt8) : motive octets := by
  induction size : octets.length using Nat.strong_induction_on generalizing octets with
  | h count induction =>
    cases octets with
    | nil => exact nil
    | cons first rest =>
        have some := extent_pos first rest
        apply cons
        apply induction ((first :: rest).drop (extent first rest)).length _ _ rfl
        rw [List.length_drop, size]
        rw [List.length_cons] at size
        omega

/-! ## Text -/

theorem width_eq (first : UInt8) :
    width first =
      if first.toNat < 0xC2 then 1
      else if first.toNat < 0xE0 then 2
      else if first.toNat < 0xF0 then 3
      else if first.toNat < 0xF5 then 4
      else 1 := by
  simp only [width, UInt8.lt_iff_toNat_lt, UInt8.reduceToNat]

theorem starts_iff {first second : UInt8} :
    starts first second = true ↔
      2 ≤ width first ∧ (0x80 ≤ second.toNat ∧ second.toNat < 0xC0) ∧
        (first.toNat = 0xE0 → 0xA0 ≤ second.toNat) ∧ (first.toNat = 0xED → second.toNat < 0xA0) ∧
        (first.toNat = 0xF0 → 0x90 ≤ second.toNat) ∧
        (first.toNat = 0xF4 → second.toNat < 0x90) := by
  have either (left right : Prop) [Decidable left] : ¬left ∨ right ↔ (left → right) := by
    rw [imp_iff_not_or]
  simp only [starts, Bool.and_eq_true, Bool.or_eq_true, decide_eq_true_eq, bne_iff_ne, ne_eq,
    continues_iff, UInt8.le_iff_toNat_le, UInt8.lt_iff_toNat_lt, ← UInt8.toNat_inj,
    UInt8.reduceToNat, either, and_assoc]

/-- All the octets of a character belong together, if it has several. -/
theorem extent_of_starts {first second : UInt8} {others : List UInt8}
    (started : starts first second = true) (continued : ∀ octet ∈ others, continues octet = true)
    (complete : width first = others.length + 2) (rest : List UInt8) :
    extent first (second :: (others ++ rest)) = others.length + 2 := by
  rw [extent, if_pos started, complete, Nat.add_sub_cancel, List.take_left,
    List.takeWhile_eq_self_iff.mpr continued, Nat.add_comm]

/-- No octet after a character belongs to it. -/
theorem extent_utf8EncodeChar {character : Char} {first : UInt8} {others : List UInt8}
    (spelled : String.utf8EncodeChar character = first :: others) (rest : List UInt8) :
    extent first (others ++ rest) = (first :: others).length := by
  have numbers := map_toNat_utf8EncodeChar character
  have valid : character.toNat < 0xD800 ∨ 0xDFFF < character.toNat ∧ character.toNat < 0x110000 :=
    character.valid
  rw [spelled] at numbers
  generalize character.toNat = code at numbers valid
  simp only [List.map_cons] at numbers
  split_ifs at numbers <;>
    simp only [List.cons.injEq, List.map_eq_cons_iff, List.map_eq_nil_iff] at numbers
  · rcases numbers with ⟨firstCode, rfl⟩
    have narrow : width first = 1 := by
      rw [width_eq, if_pos (by omega)]
    cases rest with
    | nil => rfl
    | cons second rest =>
        have single : ¬starts first second = true := by
          rw [starts_iff, narrow]
          omega
        exact if_neg single
  · rcases numbers with ⟨firstCode, second, _, rfl, secondCode, rfl⟩
    have wide : width first = 2 := by
      rw [width_eq]
      split_ifs <;> omega
    apply extent_of_starts _ (by simp) wide
    rw [starts_iff, wide]
    omega
  · rcases numbers with ⟨firstCode, second, _, rfl, secondCode, third, _, rfl, thirdCode, rfl⟩
    have wide : width first = 3 := by
      rw [width_eq]
      split_ifs <;> omega
    apply extent_of_starts _ _ wide
    · rw [starts_iff, wide]
      omega
    · simp only [List.mem_singleton, forall_eq, continues_iff]
      omega
  · rcases numbers with
      ⟨firstCode, second, _, rfl, secondCode, third, _, rfl, thirdCode, fourth, _, rfl,
        fourthCode, rfl⟩
    have wide : width first = 4 := by
      rw [width_eq]
      split_ifs <;> omega
    apply extent_of_starts _ _ wide
    · rw [starts_iff, wide]
      omega
    · simp only [List.forall_mem_cons, List.not_mem_nil, false_imp_iff, implies_true, and_true,
        continues_iff]
      omega

theorem showFrom_character (character : Char) (rest : List UInt8) :
    showFrom 0 (String.utf8EncodeChar character ++ rest) = character :: showFrom 0 rest := by
  cases spelled : String.utf8EncodeChar character with
  | nil => simp at spelled
  | cons first others =>
      have whole := extent_utf8EncodeChar spelled rest
      have read : decodeFrom 0 (first :: others) = .ok [character] := by
        have decoded := decodeFrom_flatMap 0 [character]
        rwa [List.flatMap_singleton, spelled] at decoded
      rw [List.cons_append, showFrom_cons, whole, ← List.cons_append, List.take_left,
        List.drop_left, characterOrReplacement, read]

/-- Text shows as it is. -/
theorem shown_octets (text : String) : shown (octets text) = text := by
  have all (characters : List Char) :
      showFrom 0 (characters.flatMap String.utf8EncodeChar) = characters := by
    induction characters with
    | nil => rfl
    | cons character rest induction => rw [List.flatMap_cons, showFrom_character, induction]
  rw [shown, octets_eq_flatMap, all, String.ofList_toList]

/-- Octets are kept as they are shown exactly if they are text. -/
theorem octets_shown_eq_iff {octets : List UInt8} :
    Text.octets (shown octets) = octets ↔ IsText octets := by
  constructor
  · intro kept
    exact ⟨shown octets, kept⟩
  · intro isText
    rcases isText with ⟨text, rfl⟩
    rw [shown_octets]

/-! ## Replacements -/

theorem eq_of_characterOrReplacement {octets : List UInt8} {character : Char}
    (shows : characterOrReplacement octets = character) (kept : character ≠ replacement) :
    octets = String.utf8EncodeChar character := by
  unfold characterOrReplacement at shows
  split at shows
  case h_1 read decoded =>
    have spelled := eq_flatMap_of_decodeFrom decoded
    rwa [List.flatMap_singleton, shows] at spelled
  case h_2 => exact absurd shows.symm kept

/-- Whatever is shown but as a replacement is there. -/
theorem mem_of_mem_showFrom {octets : List UInt8} {character : Char} {octet : UInt8}
    (member : character ∈ showFrom 0 octets) (kept : character ≠ replacement)
    (spelled : octet ∈ String.utf8EncodeChar character) : octet ∈ octets := by
  induction octets using shown_induction with
  | nil => cases member
  | cons first rest induction =>
      rw [showFrom_cons, List.mem_cons] at member
      rcases member with now | later
      · rw [← eq_of_characterOrReplacement now.symm kept] at spelled
        exact List.mem_of_mem_take spelled
      · exact List.mem_of_mem_drop (induction later)

/-- Octets of which nothing is replaced are text. -/
theorem isText_of_notMem_showFrom {octets : List UInt8} (kept : replacement ∉ showFrom 0 octets) :
    IsText octets := by
  induction octets using shown_induction with
  | nil => exact isText_nil
  | cons first rest induction =>
      rw [showFrom_cons, List.mem_cons, not_or] at kept
      have spelled := eq_of_characterOrReplacement rfl (Ne.symm kept.1)
      have character : IsText ((first :: rest).take (extent first rest)) := by
        rw [spelled]
        exact ⟨String.ofList [_], by rw [octets_ofList, List.flatMap_singleton]⟩
      have whole := character.append (induction kept.2)
      rwa [List.take_append_drop] at whole

/-! ## Cutting -/

section Stop

variable {stop : UInt8} (ascii : stop < 0x80)
include ascii

theorem takeWhile_continues_append_stop (count : Nat) (front rest : List UInt8) :
    ((front ++ stop :: rest).take count).takeWhile continues =
      (front.take count).takeWhile continues := by
  have stops : continues stop = false := by
    rw [← Bool.not_eq_true, continues_iff]
    rw [UInt8.lt_iff_toNat_lt] at ascii
    simp only [UInt8.reduceToNat] at ascii
    omega
  induction front generalizing count with
  | nil =>
      cases count with
      | zero => rfl
      | succ count => simp [stops]
  | cons first others induction =>
      cases count with
      | zero => rfl
      | succ count =>
          simp only [List.cons_append, List.take_succ_cons, List.takeWhile_cons, induction]

/-- An ASCII octet belongs to nothing before it. -/
theorem extent_append_stop (first : UInt8) (others rest : List UInt8) :
    extent first (others ++ stop :: rest) = extent first others := by
  cases others with
  | nil =>
      have alone : ¬starts first stop = true := by
        rw [starts_iff]
        rw [UInt8.lt_iff_toNat_lt] at ascii
        simp only [UInt8.reduceToNat] at ascii
        omega
      exact if_neg alone
  | cons second more =>
      simp only [List.cons_append, extent, takeWhile_continues_append_stop ascii]

/-- An ASCII octet shows as its character, and what is on its two sides shows as it does alone. -/
theorem showFrom_append_stop (front rest : List UInt8) :
    showFrom 0 (front ++ stop :: rest) =
      showFrom 0 front ++ Char.ofNat stop.toNat :: showFrom 0 rest := by
  induction front using shown_induction with
  | nil =>
      have shows := showFrom_character (Char.ofNat stop.toNat) rest
      rw [(utf8EncodeChar_eq_singleton_iff ascii).mpr rfl] at shows
      exact shows
  | cons first others induction =>
      have inside := extent_le first others
      rw [List.cons_append, showFrom_cons, showFrom_cons, extent_append_stop ascii,
        ← List.cons_append, List.take_append_of_le_length inside,
        List.drop_append_of_le_length inside, induction, List.cons_append]

end Stop

end SymbolBindings.Text
