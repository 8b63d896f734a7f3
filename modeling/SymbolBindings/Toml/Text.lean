/-!
The texts of a TOML document: blanks, line ends, comments, strings and keys. A reader takes the
characters that are left and gives what it read with those still left.
-/

namespace SymbolBindings.Toml

/-- What a reader read, and the characters still left. -/
abbrev Reader (α : Type) := List Char → Option (α × List Char)

def isSpace (character : Char) : Bool :=
  character == ' ' || character == '\t'

def skipSpaces (text : List Char) : List Char :=
  text.dropWhile isSpace

/-- Characters that stand for themselves: all but the controls, of which the tab is excepted. -/
def isPlain (character : Char) : Bool :=
  character == '\t' || (0x20 ≤ character.toNat && character.toNat != 0x7F)

/-- What follows a line end. -/
def afterLineEnd : List Char → Option (List Char)
  | '\n' :: rest => some rest
  | '\r' :: '\n' :: rest => some rest
  | _ => none

def skipLineEnd (text : List Char) : List Char :=
  (afterLineEnd text).getD text

/-- Skips a comment, if there is one, up to the end of its line. -/
def skipComment : List Char → List Char
  | '#' :: rest => rest.dropWhile isPlain
  | text => text

/-- What follows the rest of a line that says nothing more. The last line needs no end. -/
def afterLine (text : List Char) : Option (List Char) :=
  match skipComment (skipSpaces text) with
  | [] => some []
  | rest => afterLineEnd rest

/-! ## Escapes -/

def hexValue (character : Char) : Option Nat :=
  if character.isDigit then some (character.toNat - 48)
  else if 'a' ≤ character ∧ character ≤ 'f' then some (character.toNat - 87)
  else if 'A' ≤ character ∧ character ≤ 'F' then some (character.toNat - 55)
  else none

/-- The character with the code that hexadecimal digits give. -/
def coded (digits : List Char) : Option Char := do
  let values ← digits.mapM hexValue
  let code := values.foldl (fun sum digit => 16 * sum + digit) 0
  if code.isValidChar then some (Char.ofNat code) else none

/-- The character a letter stands for after a backslash. -/
def escaped : Char → Option Char
  | 'b' => some '\x08'
  | 't' => some '\t'
  | 'n' => some '\n'
  | 'f' => some '\x0C'
  | 'r' => some '\r'
  | '"' => some '"'
  | '\\' => some '\\'
  | _ => none

def put (character : Char) : Option (List Char × List Char) → Option (List Char × List Char)
  | some (text, rest) => some (character :: text, rest)
  | none => none

/-! ## Strings -/

/-- A string on one line, after its opening quote. -/
def basicString : Reader (List Char)
  | [] => none
  | '"' :: rest => some ([], rest)
  | '\\' :: 'u' :: a :: b :: c :: d :: rest =>
    (coded [a, b, c, d]).bind fun character => put character (basicString rest)
  | '\\' :: 'U' :: a :: b :: c :: d :: e :: f :: g :: h :: rest =>
    (coded [a, b, c, d, e, f, g, h]).bind fun character => put character (basicString rest)
  | '\\' :: letter :: rest =>
    (escaped letter).bind fun character => put character (basicString rest)
  | character :: rest =>
    if isPlain character && character != '\\' then put character (basicString rest) else none

/-- A string without escapes on one line, after its opening apostrophe. -/
def literalString : Reader (List Char)
  | [] => none
  | '\'' :: rest => some ([], rest)
  | character :: rest =>
    if isPlain character then put character (literalString rest) else none

/-- Whether a backslash before this text ends its line, and so joins the line to what follows. -/
def joinsLines (text : List Char) : Bool :=
  (afterLineEnd (skipSpaces text)).isSome

/-- A string over several lines, after its three opening quotes. While `joining`, blanks and line
ends are left out. Up to two quotes can stand before the closing three. -/
def basicLines (joining : Bool) : Reader (List Char)
  | [] => none
  | '"' :: '"' :: '"' :: '"' :: '"' :: rest => some (['"', '"'], rest)
  | '"' :: '"' :: '"' :: '"' :: rest => some (['"'], rest)
  | '"' :: '"' :: '"' :: rest => some ([], rest)
  | '\\' :: 'u' :: a :: b :: c :: d :: rest =>
    (coded [a, b, c, d]).bind fun character => put character (basicLines false rest)
  | '\\' :: 'U' :: a :: b :: c :: d :: e :: f :: g :: h :: rest =>
    (coded [a, b, c, d, e, f, g, h]).bind fun character => put character (basicLines false rest)
  | '\\' :: letter :: rest =>
    if joinsLines (letter :: rest) then basicLines true (letter :: rest)
    else (escaped letter).bind fun character => put character (basicLines false rest)
  | '\r' :: '\n' :: rest =>
    if joining then basicLines true rest else put '\n' (basicLines false rest)
  | '\n' :: rest =>
    if joining then basicLines true rest else put '\n' (basicLines false rest)
  | character :: rest =>
    if joining && isSpace character then basicLines true rest
    else if isPlain character && character != '\\' then put character (basicLines false rest)
    else none

/-- A string without escapes over several lines, after its three opening apostrophes. -/
def literalLines : Reader (List Char)
  | [] => none
  | '\'' :: '\'' :: '\'' :: '\'' :: '\'' :: rest => some (['\'', '\''], rest)
  | '\'' :: '\'' :: '\'' :: '\'' :: rest => some (['\''], rest)
  | '\'' :: '\'' :: '\'' :: rest => some ([], rest)
  | '\r' :: '\n' :: rest => put '\n' (literalLines rest)
  | '\n' :: rest => put '\n' (literalLines rest)
  | character :: rest =>
    if isPlain character then put character (literalLines rest) else none

/-- A string in any of its four forms. A line end right after three opening quotes is left out. -/
def string : Reader (List Char)
  | '"' :: '"' :: '"' :: rest => basicLines false (skipLineEnd rest)
  | '"' :: rest => basicString rest
  | '\'' :: '\'' :: '\'' :: rest => literalLines (skipLineEnd rest)
  | '\'' :: rest => literalString rest
  | _ => none

/-! ## Keys -/

def isBare (character : Char) : Bool :=
  character.isAlphanum || character == '-' || character == '_'

/-- One part of a key: bare, or a string on one line. -/
def keyPart : Reader (List Char)
  | '"' :: rest => basicString rest
  | '\'' :: rest => literalString rest
  | text =>
    match text.takeWhile isBare with
    | [] => none
    | part => some (part, text.dropWhile isBare)

/-- The parts of a key, as many as `limit` allows, with their dots. -/
def keyParts : Nat → Reader (List String)
  | 0, _ => none
  | limit + 1, text => do
    let (part, rest) ← keyPart (skipSpaces text)
    match skipSpaces rest with
    | '.' :: rest => do
      let (parts, rest) ← keyParts limit rest
      return (String.ofList part :: parts, rest)
    | rest => return ([String.ofList part], rest)

/-- How deep documents may nest, in dotted keys and in brackets. -/
def depthLimit : Nat := 79

/-- A key: the path before its last part, and that part. -/
def key (text : List Char) : Option ((List String × String) × List Char) := do
  let (parts, rest) ← keyParts depthLimit text
  let last ← parts.getLast?
  return ((parts.dropLast, last), rest)

example : key "a . \"b c\".d = 1".toList =
    some ((["a", "b c"], "d"), ['=', ' ', '1']) := by decide

end SymbolBindings.Toml
