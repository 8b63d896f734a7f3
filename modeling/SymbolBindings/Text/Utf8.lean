/-!
Octets and characters. Text is written as UTF-8; reading refuses ill-formed octets and tells how
many octets before the refusal were well-formed.
-/

namespace SymbolBindings.Text

/-- The UTF-8 octets of a text. -/
def octets (text : String) : List UInt8 :=
  text.toByteArray.data.toList

/-! ## Reading -/

/-- An octet that continues a character carries six bits of its code. -/
def continues (octet : UInt8) : Bool :=
  0x80 ≤ octet && octet < 0xC0

/-- The code that `first` begins and `following` continue. -/
def codeOf (first : Nat) (following : List UInt8) : Nat :=
  following.foldl (fun code octet => 64 * code + (octet.toNat - 0x80)) first

/-- The character of a first octet with the bits `first` and the octets after it. A code below
`least` would have been written with fewer octets. -/
def characterOf (least first : Nat) (following : List UInt8) : Option Char :=
  let code := codeOf first following
  if following.all continues ∧ least ≤ code ∧ code.isValidChar then some (Char.ofNat code) else none

/-- Reads characters to the end. The error is `read`, the number of octets already read, plus the
number of well-formed octets that follow. -/
def decodeFrom (read : Nat) : List UInt8 → Except Nat (List Char)
  | [] => .ok []
  | first :: rest =>
    if first < 0x80 then
      (decodeFrom (read + 1) rest).map (Char.ofNat first.toNat :: ·)
    else if first < 0xE0 then
      match rest with
      | second :: rest =>
        match characterOf 0x80 (first.toNat - 0xC0) [second] with
        | some character => (decodeFrom (read + 2) rest).map (character :: ·)
        | none => .error read
      | _ => .error read
    else if first < 0xF0 then
      match rest with
      | second :: third :: rest =>
        match characterOf 0x800 (first.toNat - 0xE0) [second, third] with
        | some character => (decodeFrom (read + 3) rest).map (character :: ·)
        | none => .error read
      | _ => .error read
    else
      match rest with
      | second :: third :: fourth :: rest =>
        match characterOf 0x10000 (first.toNat - 0xF0) [second, third, fourth] with
        | some character => (decodeFrom (read + 4) rest).map (character :: ·)
        | none => .error read
      | _ => .error read

/-- The text with these octets, or the length of the longest well-formed start that ends before an
ill-formed sequence. -/
def decode (octets : List UInt8) : Except Nat String :=
  (decodeFrom 0 octets).map String.ofList

example : (decode [0x61, 0xC3, 0xA9]).toOption = some "aé" := by decide

/-- The second octet of the pair is missing: one octet was good. -/
example : decode [0x61, 0xC3] = .error 1 := rfl

/-- Surrogates are no characters. -/
example : decode [0xED, 0xA0, 0x80] = .error 0 := rfl

end SymbolBindings.Text
