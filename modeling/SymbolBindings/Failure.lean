import SymbolBindings.Diagnostic
import SymbolBindings.Symbol.Basic
import SymbolBindings.SystemFault

/-!
Failures of reading a symbol table or of writing declarations, as causes. The wording is in one
place each: `message` for the failure itself and `diagnose` for what the user is told about it.
-/

namespace SymbolBindings

/-- What can be wrong with a table. -/
inductive Malformation
  | missingColumn (column : String)
  | unevenRow (columns expected : Nat)
  /-- The octets of a field are no text from the given offset on. -/
  | illFormedText (field offset : Nat)
  | emptyName
  /-- A function was found in a table that has no column for parameters. -/
  | missingParameters (function : String)
  /-- A malformation known by its description alone. -/
  | described (description : String)
  deriving DecidableEq, Repr

def Malformation.message : Malformation → String
  | missingColumn column => "header is missing the `" ++ column ++ "` column"
  | unevenRow columns expected =>
    "row has " ++ toString columns ++ " columns, header has " ++ toString expected
  | illFormedText field offset =>
    "invalid UTF-8: invalid utf-8: invalid UTF-8 in field " ++ toString field ++
      " near byte index " ++ toString offset
  | emptyName => "symbol name is empty"
  | missingParameters function =>
    "function `" ++ function ++ "` found but the header has no `params` column"
  | described description => description

inductive Failure
  /-- The line is that of the row, and the first one for the header. -/
  | malformed (line : Option Nat) (what : Malformation)
  /-- A row that is neither a variable nor a function was selected for declaration. -/
  | unsupportedKind (name entry : String) (line : Option Nat)
  | kindMismatch (name : String) (expected found : Kind)
  | missingType (name : String)
  | system (fault : SystemFault)
  deriving DecidableEq, Repr

namespace Failure

def message : Failure → String
  | malformed _ what => "malformed symbol table: " ++ what.message
  | unsupportedKind name entry _ =>
    "unsupported entry kind `" ++ entry ++ "` for `" ++ name ++ "`"
  | kindMismatch name expected found =>
    "expected a " ++ expected.text ++ " declaration for `" ++ name ++ "`, got a " ++ found.text
  | missingType name => "variable `" ++ name ++ "` has no type"
  | system fault => "I/O error: " ++ fault.message

def line : Failure → Option Nat
  | malformed line _ => line
  | unsupportedKind _ _ line => line
  | kindMismatch _ _ _ => none
  | missingType _ => none
  | system _ => none

/-- The stable name of a failure, for searching in documentation. -/
def code : Failure → String
  | malformed _ _ => "symgen::load::malformed_input"
  | unsupportedKind _ _ _ => "symgen::generate::unsupported_entry"
  | kindMismatch _ _ _ => "symgen::emit::type_mismatch"
  | missingType _ => "symgen::emit::missing_type"
  | system _ => "symgen::io"

/-- How the user can mend the cause, for failures that come from the input. -/
def advice : Failure → Option String
  | malformed _ _ =>
    some ("Every row needs as many columns as the header, and the header needs " ++
      "`name`, `entry`, `status` and `type`")
  | unsupportedKind _ _ _ =>
    some ("Only `Variable` and `Function` rows produce declarations; " ++
      "pass `--unknown-entry skip` to ignore others")
  | system _ =>
    some "Check the path; firmware builds usually ship it as `targets/f7/api_symbols.csv`"
  | kindMismatch _ _ _ => none
  | missingType _ => none

/-- Mismatched kinds and missing types never come from a table: they point at a declaration that
was put together by hand. -/
def isInternal : Failure → Bool
  | kindMismatch _ _ _ => true
  | missingType _ => true
  | _ => false

def context (failure : Failure) : List String :=
  (match failure.line with
    | some line => ["at line " ++ toString line]
    | none => []) ++
  (if failure.isInternal then ["this is an internal error in declaration emission"] else []) ++
  ["code: " ++ failure.code]

def diagnose (failure : Failure) : Diagnostic :=
  { message := failure.message
    location := none
    context := failure.context
    suggestions := failure.advice.toList }

/-- The diagnostic for a failure over the table at `path`. -/
def diagnoseAt (failure : Failure) (path : String) : Diagnostic :=
  failure.diagnose.withLocation path

end Failure

end SymbolBindings
