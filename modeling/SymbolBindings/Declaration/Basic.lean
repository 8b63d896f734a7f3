import SymbolBindings.Declaration.Parameters
import SymbolBindings.Failure

/-!
Declarations: what is written for a symbol, with every C spelling resolved. A declaration may be
made under another name than the symbol's; it then carries the symbol's name for the linker.
-/

namespace SymbolBindings

structure Declaration where
  kind : Kind
  name : String
  /-- The symbol's own name, where it differs from the declared one. -/
  linkName : Option String
  /-- The type of a variable or of a function's result, if it returns one. -/
  type : Option HostType
  parameters : List HostType
  variadic : Bool
  deriving DecidableEq, Repr

namespace Declaration

/-- The name the linker resolves the declaration to. -/
def linkedName (declaration : Declaration) : String :=
  declaration.linkName.getD declaration.name

/-- Only variables and functions can be declared. -/
def ofSymbol (symbol : Symbol) (name : String) : Except Failure Declaration :=
  let linkName := if name = symbol.name then none else some symbol.name
  match symbol.kind with
  | .object =>
    .ok
      { kind := .object, name, linkName
        type := some (.resolve symbol.type)
        parameters := []
        variadic := false }
  | .function =>
    let parameters := Parameters.resolve symbol.parameters
    .ok
      { kind := .function, name, linkName
        type := HostType.resolveResult symbol.type
        parameters := parameters.types
        variadic := parameters.variadic }
  | .other entry => .error (.unsupportedKind symbol.name entry symbol.line)

/-- Every type of the declaration, the variable's or the result's first. -/
def types (declaration : Declaration) : List HostType :=
  declaration.type.toList ++ declaration.parameters

/-- The base names the declaration mentions but nobody resolved. -/
def unresolved (declaration : Declaration) : List String :=
  (declaration.types.filter (·.base.isUnresolved)).map (·.base.name)

/-! ## The written block -/

/-- The line that names the linked symbol, written when the declared name differs from it. -/
def linkLine (declaration : Declaration) : String :=
  match declaration.linkName with
  | none => ""
  | some name => "#[link_name = \"" ++ name ++ "\"]\n"

/-- The parameters as they are written, numbered from `number`. -/
def argumentsFrom (number : Nat) : List HostType → List String
  | [] => []
  | type :: rest =>
    ("_arg" ++ toString number ++ ": " ++ type.render) :: argumentsFrom (number + 1) rest

def arguments (declaration : Declaration) : List String :=
  argumentsFrom 0 declaration.parameters ++ (if declaration.variadic then ["..."] else [])

/-- The text of a variable's declaration. -/
def objectBlock (declaration : Declaration) : Except Failure String :=
  if declaration.kind ≠ .object then
    .error (.kindMismatch declaration.name .object declaration.kind)
  else
    match declaration.type with
    | none => .error (.missingType declaration.name)
    | some type =>
      .ok (declaration.linkLine ++ "pub static " ++ declaration.name ++ ": " ++ type.render ++
        ";\n")

def resultClause : Option HostType → String
  | none => ""
  | some type => " -> " ++ type.render

/-- The text of a function's declaration. -/
def functionBlock (declaration : Declaration) : Except Failure String :=
  if declaration.kind ≠ .function then
    .error (.kindMismatch declaration.name .function declaration.kind)
  else
    .ok (declaration.linkLine ++ "pub fn " ++ declaration.name ++ "(" ++
      String.intercalate ", " declaration.arguments ++ ")" ++
      resultClause declaration.type ++ ";\n")

/-- Whatever is not a function is written as a variable, and refused there unless it is one. -/
def block (declaration : Declaration) : Except Failure String :=
  match declaration.kind with
  | .function => declaration.functionBlock
  | _ => declaration.objectBlock

example :
    (ofSymbol ⟨"furi_log", .function, true, "void", "const char*, ...", none⟩ "log").bind block =
      .ok "#[link_name = \"furi_log\"]\npub fn log(_arg0: *const c_char, ...);\n" := by rfl

end Declaration

end SymbolBindings
