import Mathlib.Tactic
import SymbolBindings.Proofs.Results
import SymbolBindings.Text.Utf8

/-! # Reading and writing octets

Reading octets undoes writing a text, and nothing else can be read: octets are text exactly if they
are the octets of one. Below U+0080 an octet stands for a character of its own and is never a part
of another, which is why octets can be searched for ASCII characters before they are read.
-/

namespace SymbolBindings.Text

/-! ## Writing -/

theorem octets_ofList (characters : List Char) :
    octets (String.ofList characters) = characters.flatMap String.utf8EncodeChar := by
  rw [octets, String.toByteArray_ofList, List.utf8Encode, List.toList_data_toByteArray]

theorem octets_eq_flatMap (text : String) :
    octets text = text.toList.flatMap String.utf8EncodeChar := by
  rw [← octets_ofList, String.ofList_toList]

@[simp] theorem octets_append (left right : String) :
    octets (left ++ right) = octets left ++ octets right := by
  simp [octets]

/-- The octets of a character, by the numbers they stand for. -/
theorem map_toNat_utf8EncodeChar (character : Char) :
    (String.utf8EncodeChar character).map UInt8.toNat =
      let code := character.toNat
      if code < 0x80 then [code]
      else if code < 0x800 then [0xC0 + code / 64, 0x80 + code % 64]
      else if code < 0x10000 then [0xE0 + code / 4096, 0x80 + code / 64 % 64, 0x80 + code % 64]
      else [0xF0 + code / 262144, 0x80 + code / 4096 % 64, 0x80 + code / 64 % 64,
        0x80 + code % 64] := by
  have small : character.toNat < 0x110000 := by
    rcases character.valid with low | high
    · exact Nat.lt_of_lt_of_le low (by decide)
    · exact high.2
  unfold String.utf8EncodeChar
  simp only [show character.val.toNat = character.toNat from rfl]
  generalize character.toNat = code at small
  split_ifs <;> simp [UInt8.toNat_ofNat'] <;> omega

theorem utf8EncodeChar_eq_iff {octets : List UInt8} {character : Char} :
    String.utf8EncodeChar character = octets ↔
      (String.utf8EncodeChar character).map UInt8.toNat = octets.map UInt8.toNat :=
  (List.map_injective_iff.mpr fun _ _ => UInt8.toNat_inj.mp).eq_iff.symm

/-- An octet below 0x80 is a whole character. -/
theorem utf8EncodeChar_eq_singleton_of_low {octet : UInt8} {character : Char}
    (member : octet ∈ String.utf8EncodeChar character) (low : octet < 0x80) :
    String.utf8EncodeChar character = [octet] := by
  have number : octet.toNat ∈ (String.utf8EncodeChar character).map UInt8.toNat :=
    List.mem_map_of_mem member
  rw [utf8EncodeChar_eq_iff]
  rw [map_toNat_utf8EncodeChar] at number ⊢
  simp only [UInt8.lt_iff_toNat_lt, UInt8.reduceToNat] at low number ⊢
  split_ifs at number ⊢ <;> simp at number ⊢ <;> omega

/-- The leading octet tells how many octets a character has. -/
private theorem utf8EncodeChar_shape (character : Char) :
    (∃ first, String.utf8EncodeChar character = [first] ∧ first < 0x80) ∨
    (∃ first second, String.utf8EncodeChar character = [first, second] ∧
      ¬first < 0x80 ∧ first < 0xE0) ∨
    (∃ first second third, String.utf8EncodeChar character = [first, second, third] ∧
      ¬first < 0xE0 ∧ first < 0xF0) ∨
    (∃ first second third fourth,
      String.utf8EncodeChar character = [first, second, third, fourth] ∧ ¬first < 0xF0) := by
  have numbers := map_toNat_utf8EncodeChar character
  simp only [UInt8.lt_iff_toNat_lt, UInt8.reduceToNat]
  generalize String.utf8EncodeChar character = octets at numbers ⊢
  simp only at numbers
  split_ifs at numbers <;> simp only [List.map_eq_cons_iff, List.map_eq_nil_iff] at numbers
  · rcases numbers with ⟨first, _, rfl, firstCode, rfl⟩
    exact .inl ⟨first, rfl, by omega⟩
  · rcases numbers with ⟨first, _, rfl, firstCode, second, _, rfl, _, rfl⟩
    exact .inr (.inl ⟨first, second, rfl, by omega, by omega⟩)
  · rcases numbers with ⟨first, _, rfl, firstCode, second, _, rfl, _, third, _, rfl, _, rfl⟩
    exact .inr (.inr (.inl ⟨first, second, third, rfl, by omega, by omega⟩))
  · rcases numbers with
      ⟨first, _, rfl, firstCode, second, _, rfl, _, third, _, rfl, _, fourth, _, rfl, _, rfl⟩
    exact .inr (.inr (.inr ⟨first, second, third, fourth, rfl, by omega⟩))

/-! ## One character -/

theorem continues_iff (octet : UInt8) :
    continues octet = true ↔ 0x80 ≤ octet.toNat ∧ octet.toNat < 0xC0 := by
  simp [continues, UInt8.le_iff_toNat_le, UInt8.lt_iff_toNat_lt]

private theorem toNat_ofNat_of_valid {code : Nat} (valid : code.isValidChar) :
    (Char.ofNat code).toNat = code := by
  rw [Char.ofNat, dif_pos valid]
  rfl

theorem characterOf_eq_some_iff {least first : Nat} {following : List UInt8} {character : Char} :
    characterOf least first following = some character ↔
      following.all continues = true ∧ least ≤ codeOf first following ∧
        codeOf first following = character.toNat := by
  unfold characterOf
  simp only
  split
  case isTrue accepted =>
    simp only [Option.some.injEq, accepted, true_and]
    constructor
    · intro equal
      subst equal
      exact (toNat_ofNat_of_valid accepted.2.2).symm
    · intro equal
      rw [equal, Char.ofNat_toNat]
  case isFalse refused =>
    simp only [reduceCtorEq, false_iff]
    intro found
    rcases found with ⟨continued, enough, equal⟩
    exact refused ⟨continued, enough, equal ▸ character.valid⟩

theorem utf8EncodeChar_eq_singleton_iff {first : UInt8} {character : Char} (low : first < 0x80) :
    String.utf8EncodeChar character = [first] ↔ Char.ofNat first.toNat = character := by
  rw [UInt8.lt_iff_toNat_lt] at low
  have valid : first.toNat.isValidChar := Or.inl (Nat.lt_of_lt_of_le low (by decide))
  rw [← Char.toNat_inj, toNat_ofNat_of_valid valid, utf8EncodeChar_eq_iff,
    map_toNat_utf8EncodeChar]
  simp only [UInt8.reduceToNat, List.map_cons, List.map_nil] at low ⊢
  split_ifs <;> simp <;> omega

private theorem pair_iff {first second : UInt8} {character : Char}
    (low : ¬first < 0x80) (high : first < 0xE0) :
    characterOf 0x80 (first.toNat - 0xC0) [second] = some character ↔
      String.utf8EncodeChar character = [first, second] := by
  rw [characterOf_eq_some_iff, utf8EncodeChar_eq_iff, map_toNat_utf8EncodeChar]
  simp only [UInt8.lt_iff_toNat_lt, UInt8.reduceToNat, codeOf, List.foldl_cons, List.foldl_nil,
    List.all_cons, List.all_nil, Bool.and_true, continues_iff, List.map_cons, List.map_nil]
    at low high ⊢
  split_ifs <;> simp <;> omega

private theorem triple_iff {first second third : UInt8} {character : Char}
    (low : ¬first < 0xE0) (high : first < 0xF0) :
    characterOf 0x800 (first.toNat - 0xE0) [second, third] = some character ↔
      String.utf8EncodeChar character = [first, second, third] := by
  rw [characterOf_eq_some_iff, utf8EncodeChar_eq_iff, map_toNat_utf8EncodeChar]
  simp only [UInt8.lt_iff_toNat_lt, UInt8.reduceToNat, codeOf, List.foldl_cons, List.foldl_nil,
    List.all_cons, List.all_nil, Bool.and_true, Bool.and_eq_true, continues_iff, List.map_cons,
    List.map_nil] at low high ⊢
  split_ifs <;> simp <;> omega

private theorem quadruple_iff {first second third fourth : UInt8} {character : Char}
    (low : ¬first < 0xF0) :
    characterOf 0x10000 (first.toNat - 0xF0) [second, third, fourth] = some character ↔
      String.utf8EncodeChar character = [first, second, third, fourth] := by
  rw [characterOf_eq_some_iff, utf8EncodeChar_eq_iff, map_toNat_utf8EncodeChar]
  simp only [UInt8.lt_iff_toNat_lt, UInt8.reduceToNat, codeOf, List.foldl_cons, List.foldl_nil,
    List.all_cons, List.all_nil, Bool.and_true, Bool.and_eq_true, continues_iff, List.map_cons,
    List.map_nil] at low ⊢
  split_ifs <;> simp <;> omega

/-! ## Reading -/

/-- Reading starts with the first character that was written. -/
theorem decodeFrom_character (read : Nat) (character : Char) (rest : List UInt8) :
    decodeFrom read (String.utf8EncodeChar character ++ rest) =
      (decodeFrom (read + (String.utf8EncodeChar character).length) rest).map
        (character :: ·) := by
  rcases utf8EncodeChar_shape character with
    ⟨first, spelled, low⟩ | ⟨first, second, spelled, low, high⟩ |
    ⟨first, second, third, spelled, low, high⟩ | ⟨first, second, third, fourth, spelled, low⟩
  · have same := (utf8EncodeChar_eq_singleton_iff low).mp spelled
    rw [spelled, decodeFrom.eq_def]
    simp [low, same]
  · have same := (pair_iff low high).mpr spelled
    rw [spelled, decodeFrom.eq_def]
    simp [low, high, same]
  · have same := (triple_iff low high).mpr spelled
    have notPlain : ¬first < 0x80 := fun plain => low (UInt8.lt_trans plain (by decide))
    rw [spelled, decodeFrom.eq_def]
    simp [notPlain, low, high, same]
  · have same := (quadruple_iff low).mpr spelled
    have notPlain : ¬first < 0x80 := fun plain => low (UInt8.lt_trans plain (by decide))
    have notPair : ¬first < 0xE0 := fun pair => low (UInt8.lt_trans pair (by decide))
    rw [spelled, decodeFrom.eq_def]
    simp [notPlain, notPair, low, same]

theorem decodeFrom_flatMap (read : Nat) (characters : List Char) :
    decodeFrom read (characters.flatMap String.utf8EncodeChar) = .ok characters := by
  induction characters generalizing read with
  | nil => rfl
  | cons character rest induction =>
      rw [List.flatMap_cons, decodeFrom_character, induction]
      rfl

private theorem eq_flatMap_of_map {result : Except Nat (List Char)} {rest : List UInt8}
    {character : Char} {characters : List Char}
    (remaining : ∀ {characters : List Char}, result = .ok characters →
      rest = characters.flatMap String.utf8EncodeChar)
    (decoded : result.map (character :: ·) = .ok characters) :
    String.utf8EncodeChar character ++ rest = characters.flatMap String.utf8EncodeChar := by
  rcases except_map_eq_ok_iff.mp decoded with ⟨others, read, rfl⟩
  rw [List.flatMap_cons, ← remaining read]

/-- Whatever is read was written so. -/
theorem eq_flatMap_of_decodeFrom {read : Nat} {octets : List UInt8} {characters : List Char}
    (decoded : decodeFrom read octets = .ok characters) :
    octets = characters.flatMap String.utf8EncodeChar := by
  fun_induction decodeFrom read octets generalizing characters with
  | case1 =>
      cases decoded
      rfl
  | case2 read first rest low induction =>
      rw [← eq_flatMap_of_map induction decoded, (utf8EncodeChar_eq_singleton_iff low).mpr rfl]
      rfl
  | case3 read first low high second rest character found induction =>
      rw [← eq_flatMap_of_map induction decoded, (pair_iff low high).mp found]
      rfl
  | case6 read first _ low high second third rest character found induction =>
      rw [← eq_flatMap_of_map induction decoded, (triple_iff low high).mp found]
      rfl
  | case9 read first _ _ low second third fourth rest character found induction =>
      rw [← eq_flatMap_of_map induction decoded, (quadruple_iff low).mp found]
      rfl
  | case4 | case5 | case7 | case8 | case10 | case11 => cases decoded

/-- Octets can be read as a text exactly if they are the octets of that text. -/
theorem decode_eq_ok_iff {octets : List UInt8} {text : String} :
    decode octets = .ok text ↔ octets = Text.octets text := by
  rw [decode, except_map_eq_ok_iff, octets_eq_flatMap]
  constructor
  · intro decoded
    rcases decoded with ⟨characters, decoded, rfl⟩
    rw [String.toList_ofList]
    exact eq_flatMap_of_decodeFrom decoded
  · intro spelled
    subst spelled
    exact ⟨text.toList, decodeFrom_flatMap 0 text.toList, String.ofList_toList⟩

theorem octets_injective : Function.Injective octets := by
  intro left right equal
  have leftRead : decode (octets left) = .ok left := decode_eq_ok_iff.mpr rfl
  have rightRead : decode (octets left) = .ok right := decode_eq_ok_iff.mpr equal
  exact Except.ok.inj (leftRead.symm.trans rightRead)

/-- The octets are those of some text. -/
def IsText (octets : List UInt8) : Prop :=
  ∃ text, Text.octets text = octets

theorem isText_nil : IsText [] :=
  ⟨"", rfl⟩

theorem IsText.append {left right : List UInt8} (first : IsText left) (second : IsText right) :
    IsText (left ++ right) := by
  rcases first with ⟨first, rfl⟩
  rcases second with ⟨second, rfl⟩
  exact ⟨first ++ second, octets_append first second⟩

end SymbolBindings.Text
