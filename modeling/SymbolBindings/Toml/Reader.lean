import SymbolBindings.Toml.Document
import SymbolBindings.Toml.Moment

/-!
Reading a TOML document: its lines become statements, and the statements its entries. Nothing is
said about why a document is refused.
-/

namespace SymbolBindings.Toml

/-! ## Values -/

/-- A value without brackets. -/
def scalar : Reader Item
  | 't' :: 'r' :: 'u' :: 'e' :: rest => some (.boolean true, rest)
  | 'f' :: 'a' :: 'l' :: 's' :: 'e' :: rest => some (.boolean false, rest)
  | '"' :: rest => (string ('"' :: rest)).map fun (text, rest) => (.text (String.ofList text), rest)
  | '\'' :: rest =>
    (string ('\'' :: rest)).map fun (text, rest) => (.text (String.ofList text), rest)
  | text => (moment text).or (number text)

/-- What follows blanks, line ends and comments between the parts of an array, where every comment
ends with its line. The fuel is a bound on the number of lines. -/
def skipGap : Nat → List Char → Option (List Char)
  | 0, text => some text
  | fuel + 1, text =>
    match skipSpaces text with
    | '#' :: rest => do
      let rest ← afterLineEnd (rest.dropWhile isPlain)
      skipGap fuel rest
    | '\n' :: rest => skipGap fuel rest
    | '\r' :: rest => do
      let rest ← afterLineEnd ('\r' :: rest)
      skipGap fuel rest
    | rest => some rest

def gap (text : List Char) : Option (List Char) :=
  skipGap text.length text

/-- The values of an array up to its closing bracket. A comma may stand after the last one. -/
def arrayItems (value : Reader Item) : Nat → Reader (List Item)
  | 0, _ => none
  | fuel + 1, text => do
    match ← gap text with
    | ']' :: rest => return ([], rest)
    | text => do
      let (item, rest) ← value text
      match ← gap rest with
      | ',' :: rest => do
        let (items, rest) ← arrayItems value fuel rest
        return (item :: items, rest)
      | ']' :: rest => return ([item], rest)
      | _ => none

/-- A key, an equals sign and a value. -/
def assignment (value : Reader Item) (text : List Char) :
    Option (((List String × String) × Item) × List Char) := do
  let (key, rest) ← key text
  let (item, rest) ← value (skipSpaces (← after '=' rest))
  return ((key, item), rest)

/-- The assignments of an inline table up to its closing brace. They stand on one line, and no comma
stands after the last one. -/
def inlineEntries (value : Reader Item) : Nat → Entries → Reader Entries
  | 0, _, _ => none
  | fuel + 1, entries, text => do
    let (((path, key), item), rest) ← assignment value text
    let entries ← entries.assign path key item .header
    match skipSpaces rest with
    | ',' :: rest => inlineEntries value fuel entries rest
    | '}' :: rest => return (entries, rest)
    | _ => none

def inlineTable (value : Reader Item) (text : List Char) : Option (Entries × List Char) :=
  match skipSpaces text with
  | '}' :: rest => some ([], rest)
  | _ => inlineEntries value (text.length + 1) [] text

/-- A value with at most `depth` brackets around another. -/
def value : (depth : Nat) → Reader Item
  | 0, text => scalar text
  | depth + 1, text =>
    match text with
    | '[' :: rest =>
      (arrayItems (value depth) (rest.length + 1) rest).map fun (items, rest) =>
        (.array items, rest)
    | '{' :: rest =>
      (inlineTable (value depth) rest).map fun (entries, rest) => (.table .inline entries, rest)
    | _ => scalar text

/-! ## Lines -/

/-- A line that says something: a header or an assignment. -/
def statement : Reader Statement
  | '[' :: '[' :: text => do
    let ((path, key), rest) ← key text
    let rest ← after ']' (← after ']' rest)
    return (.seriesHeader path key, rest)
  | '[' :: text => do
    let ((path, key), rest) ← key text
    return (.header path key, ← after ']' rest)
  | text => do
    let (((path, key), item), rest) ← assignment (value depthLimit) text
    return (.assign path key item, rest)

/-- The statements of all lines. The fuel is a bound on their number. -/
def statements : Nat → List Char → Option (List Statement)
  | 0, text => if text.isEmpty then some [] else none
  | fuel + 1, text =>
    match skipSpaces text with
    | [] => some []
    | text =>
      match afterLine text with
      | some rest => statements fuel rest
      | none => do
        let (statement, rest) ← statement text
        let more ← statements fuel (← afterLine rest)
        return statement :: more

/-- A byte order mark may stand before the document. -/
def withoutMark : List Char → List Char
  | '\uFEFF' :: rest => rest
  | text => text

/-- The entries of a document, unless it is refused. -/
def read (document : String) : Option Entries := do
  let text := withoutMark document.toList
  assemble (← statements text.length text)

example : (read "[a]\nb = [1, 2.5,] # c\nd.e = \x7bf = 1\x7d\n").isSome = true := by decide

example : (read "a = 1\na = 2").isNone = true := by decide

end SymbolBindings.Toml
