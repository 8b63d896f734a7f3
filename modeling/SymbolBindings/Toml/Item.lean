/-!
The items of a TOML document. A table remembers how it came about, since that decides what later
lines may still add to it.
-/

namespace SymbolBindings.Toml

inductive Origin
  /-- Only mentioned in a header, on the way to a table below it. -/
  | implied
  /-- Mentioned in a dotted key. -/
  | dotted
  /-- Opened by a header of its own. -/
  | header
  /-- Written between braces, and closed with them. -/
  | inline
  deriving DecidableEq, Repr

inductive Item
  | text (value : String)
  | integer (value : Int)
  /-- A number with a fraction or an exponent, as it is spelled. -/
  | real (spelling : String)
  | boolean (value : Bool)
  /-- A date, a time, or both, as it is spelled. -/
  | moment (spelling : String)
  | array (items : List Item)
  | table (origin : Origin) (entries : List (String × Item))
  /-- The tables that headers in double brackets opened under one name. -/
  | series (tables : List (List (String × Item)))

/-- The entries of a table, in the order in which their keys came up. No key comes up twice. -/
abbrev Entries := List (String × Item)

namespace Entries

/-- Replaces the item under a key. -/
def replace (key : String) (item : Item) : Entries → Entries
  | [] => []
  | (other, old) :: rest =>
    if other = key then (key, item) :: rest else (other, old) :: replace key item rest

end Entries

end SymbolBindings.Toml
