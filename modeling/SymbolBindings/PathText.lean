import SymbolBindings.Text.Replacement

/-!
Path texts: what the names of files and directories are written in. A system takes octets for a name
whether or not they are text. What a program was told in text, it can have as a string.
-/

namespace SymbolBindings

/-- Texts that can name files, by their letters: the characters or the octets they consist of. -/
class PathText (σ : Type) (α : outParam Type) extends Append σ where
  letters : σ → List α
  ofLetters : List α → σ
  /-- The letter for an ASCII character. -/
  letter : Char → α
  ofText : String → σ
  /-- The text as a string. What is not well-formed is replaced. -/
  shown : σ → String
  /-- How many octets the text has. -/
  size : σ → Nat
  letters_ofLetters (word : List α) : letters (ofLetters word) = word
  ofLetters_letters (text : σ) : ofLetters (letters text) = text
  letters_append (first second : σ) : letters (first ++ second) = letters first ++ letters second
  size_append (first second : σ) : size (first ++ second) = size first + size second

attribute [simp] PathText.letters_ofLetters PathText.ofLetters_letters PathText.letters_append

namespace PathText

instance : PathText String Char where
  letters := String.toList
  ofLetters := String.ofList
  letter := id
  ofText := id
  shown := id
  size := String.utf8ByteSize
  letters_ofLetters _ := String.toList_ofList
  ofLetters_letters _ := String.ofList_toList
  letters_append _ _ := String.toList_append
  size_append _ _ := String.utf8ByteSize_append

section Letters

variable (σ : Type) {α : Type} [PathText σ α]

def slash : α := @letter σ α _ '/'

def dot : α := @letter σ α _ '.'

def zero : α := @letter σ α _ '\x00'

end Letters

variable {σ α : Type} [PathText σ α]

def isEmpty (text : σ) : Bool :=
  (letters text).isEmpty

/-- Neither a file name nor a word for a program can hold U+0000. -/
def hasZero [DecidableEq α] (text : σ) : Bool :=
  (letters text).contains (zero σ)

end PathText

/-- A text of the system: octets, which need not be those of a string. -/
@[ext] structure SystemText where
  octets : List UInt8
  deriving DecidableEq, Repr

namespace SystemText

instance : Append SystemText :=
  ⟨fun first second => ⟨first.octets ++ second.octets⟩⟩

instance : PathText SystemText UInt8 where
  letters := octets
  ofLetters := mk
  letter character := UInt8.ofNat character.toNat
  ofText text := ⟨Text.octets text⟩
  shown text := Text.shown text.octets
  size text := text.octets.length
  letters_ofLetters _ := rfl
  ofLetters_letters _ := rfl
  letters_append _ _ := rfl
  size_append _ _ := List.length_append

end SystemText

end SymbolBindings
