import SymbolBindings.Toml.Item

/-!
Putting a document together: its lines open tables and assign to keys, and no line may open or
assign twice what an earlier line settled.
-/

namespace SymbolBindings.Toml

/-- One line of a document, as far as it says anything. -/
inductive Statement
  | assign (path : List String) (key : String) (item : Item)
  /-- Opens a table. -/
  | header (path : List String) (key : String)
  /-- Opens the next table of a series. -/
  | seriesHeader (path : List String) (key : String)

namespace Entries

/-- Changes the entries of the table that `path` leads to. Tables that are missing on the way come
about as the path says: by a dotted key or in a header. A path leads into the last table of a series
and never into a closed table; a dotted key leads only into tables that have no header. -/
def within (dotted : Bool) (change : Origin → Entries → Option Entries) :
    List String → Origin → Entries → Option Entries
  | [], origin, entries => change origin entries
  | key :: path, _, entries =>
    let missing := if dotted then Origin.dotted else Origin.implied
    match entries.lookup key with
    | none => do
      let inner ← within dotted change path missing []
      return entries ++ [(key, .table missing inner)]
    | some (.table origin inner) =>
      if origin = .inline ∨ (dotted ∧ origin = .header) then none
      else do
        let inner ← within dotted change path origin inner
        return replace key (.table origin inner) entries
    | some (.series tables) =>
      match tables.getLast? with
      | none => none
      | some last => do
        let last ← within dotted change path .header last
        return replace key (.series (tables.dropLast ++ [last])) entries
    | some _ => none

/-- Adds an item under a new key. Behind a dotted path the table has to be one that dotted keys
brought about. -/
def add (path : List String) (key : String) (item : Item) (origin : Origin) (entries : Entries) :
    Option Entries :=
  if origin = .dotted ↔ path = [] then none
  else
    match entries.lookup key with
    | none => some (entries ++ [(key, item)])
    | some _ => none

/-- Assigns to a key, dotted if `path` is not empty. -/
def assign (path : List String) (key : String) (item : Item) (origin : Origin)
    (entries : Entries) : Option Entries :=
  within true (add path key item) path origin entries

/-- A header may claim a table that was only implied so far. -/
def openTable (key : String) (entries : Entries) : Option Entries :=
  match entries.lookup key with
  | none => some (entries ++ [(key, .table .header [])])
  | some (.table .implied inner) => some (replace key (.table .header inner) entries)
  | some _ => none

def openElement (key : String) (entries : Entries) : Option Entries :=
  match entries.lookup key with
  | none => some (entries ++ [(key, .series [[]])])
  | some (.series tables) => some (replace key (.series (tables ++ [[]])) entries)
  | some _ => none

end Entries

/-- A document under construction. -/
structure Draft where
  /-- The table that assignments go to. -/
  current : List String
  entries : Entries

namespace Draft

def empty : Draft :=
  ⟨[], []⟩

def obey (draft : Draft) : Statement → Option Draft
  | .assign path key item => do
    let entries ←
      Entries.within false (Entries.assign path key item) draft.current .header draft.entries
    return { draft with entries }
  | .header path key => do
    let entries ←
      Entries.within false (fun _ entries => entries.openTable key) path .header draft.entries
    return ⟨path ++ [key], entries⟩
  | .seriesHeader path key => do
    let entries ←
      Entries.within false (fun _ entries => entries.openElement key) path .header draft.entries
    return ⟨path ++ [key], entries⟩

end Draft

/-- The entries that the statements amount to, if none contradicts an earlier one. -/
def assemble (statements : List Statement) : Option Entries :=
  (statements.foldlM Draft.obey Draft.empty).map Draft.entries

/-- A table is opened once. -/
example : (assemble [.header [] "a", .header [] "a"]).isNone = true := by decide

/-- A table may be opened after a table below it. -/
example : (assemble [.header ["a"] "b", .header [] "a"]).isSome = true := by decide

end SymbolBindings.Toml
