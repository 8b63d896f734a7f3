import Mathlib.Data.List.Basic
import SymbolBindings.Text.Blank

/-! # String literals

What the text between the quotes of a string literal denotes in the language of the declarations.
Escapes are longer than what they stand for. So a text that denotes itself has none of them, and
nothing that would have to be escaped.
-/

namespace SymbolBindings.Text

/-- A character that stands for itself, and for nothing else, between the quotes of a literal. A
carriage return may not stand there alone, and before a line feed it is left out. -/
def isPlain (character : Char) : Bool :=
  character != '"' && character != '\\' && character != '\r'

def hexDigit? (character : Char) : Option Nat :=
  "0123456789abcdef".toList.idxOf? character.toLower

example : hexDigit? 'A' = some 10 ∧ hexDigit? 'g' = none := by decide

/-- What the digits spell, where underscores may stand between them. -/
def hexValue? (digits : List Char) : Option Nat :=
  (digits.filter (· != '_')).foldlM (fun value digit => (hexDigit? digit).map (16 * value + ·)) 0

example : hexValue? "1f_600".toList = some 0x1F600 := by decide

/-- The letters that a backslash may precede, and what they then stand for. -/
def escapes : List (Char × Char) :=
  [('n', '\n'), ('r', '\r'), ('t', '\t'), ('\\', '\\'), ('0', '\x00'), ('\'', '\''), ('"', '"')]

/-- What may follow a backslash, and the character it stands for. -/
inductive Escape : List Char → Char → Prop
  | letter {letter character : Char} (listed : (letter, character) ∈ escapes) :
      Escape [letter] character
  | octet {high low character : Char} (value : hexValue? [high, low] = some character.toNat)
      (digits : high ≠ '_' ∧ low ≠ '_') (ascii : character.toNat < 0x80) :
      Escape ['x', high, low] character
  | scalar {first : Char} {rest : List Char} {character : Char}
      (value : hexValue? (first :: rest) = some character.toNat) (digit : first ≠ '_')
      (short : ((first :: rest).filter (· != '_')).length ≤ 6) :
      Escape ('u' :: '{' :: first :: (rest ++ ['}'])) character

/-- The blanks that a backslash at the end of a line lets one leave out. -/
def isIndent (character : Char) : Bool :=
  character == ' ' || character == '\t' || character == '\n' || character == '\r'

/-- The contents of a literal denote the text. -/
inductive Denotes : List Char → List Char → Prop
  | nil : Denotes [] []
  | plain {character : Char} {contents text : List Char} (stands : isPlain character = true)
      (denotes : Denotes contents text) : Denotes (character :: contents) (character :: text)
  | lineEnd {contents text : List Char} (denotes : Denotes contents text) :
      Denotes ('\r' :: '\n' :: contents) ('\n' :: text)
  | escape {spelling contents text : List Char} {character : Char}
      (stands : Escape spelling character) (denotes : Denotes contents text) :
      Denotes ('\\' :: (spelling ++ contents)) (character :: text)
  | continued {lineEnd blanks contents text : List Char}
      (ends : lineEnd = ['\n'] ∨ lineEnd = ['\r', '\n'])
      (indent : blanks.all isIndent = true) (solid : contents.head?.any isIndent = false)
      (denotes : Denotes contents text) : Denotes ('\\' :: (lineEnd ++ blanks ++ contents)) text

example : Denotes "q\\\"\\u\x7b5f\x7d\\\n  a".toList "q\"_a".toList :=
  .plain (by decide) (@Denotes.escape ['"'] _ _ _ (.letter (by decide))
    (.escape (@Escape.scalar '5' ['f'] _ (by decide) (by decide) (by decide))
      (@Denotes.continued ['\n'] [' ', ' '] _ _ (.inl rfl) (by decide) (by decide)
        (.plain (by decide) .nil))))

theorem Escape.length_pos {spelling : List Char} {character : Char}
    (stands : Escape spelling character) : 0 < spelling.length := by
  cases stands <;> simp

/-- Contents are no shorter than what they denote, and longer if any of it is not plain. -/
theorem Denotes.length_le {contents text : List Char} (denotes : Denotes contents text) :
    text.length ≤ contents.length ∧
      (contents.length ≤ text.length → contents.all isPlain = true) := by
  induction denotes with
  | nil => simp
  | plain stands denotes induction =>
      simp only [List.length_cons, Nat.add_le_add_iff_right, List.all_cons, stands, Bool.true_and]
      exact induction
  | lineEnd denotes induction =>
      have bound := induction.1
      simp only [List.length_cons]
      exact ⟨by omega, fun short => by omega⟩
  | escape stands denotes induction =>
      have bound := induction.1
      have something := stands.length_pos
      simp only [List.length_cons, List.length_append]
      exact ⟨by omega, fun short => by omega⟩
  | continued ends indent solid denotes induction =>
      have bound := induction.1
      simp only [List.length_cons, List.length_append]
      exact ⟨by omega, fun short => by omega⟩

theorem denotes_self_iff {text : List Char} :
    Denotes text text ↔ text.all isPlain = true := by
  constructor
  · intro denotes
    exact denotes.length_le.2 (Nat.le_refl _)
  · intro plain
    induction text with
    | nil => exact .nil
    | cons character rest induction =>
        rw [List.all_cons, Bool.and_eq_true] at plain
        exact .plain plain.1 (induction plain.2)

end SymbolBindings.Text
