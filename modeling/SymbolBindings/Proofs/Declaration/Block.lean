import SymbolBindings.Declaration.Emitter

/-! # Blocks

What is written of a declaration: one block, which every declaration made of a symbol has, and of
which a sink takes as much as fits.
-/

namespace SymbolBindings

namespace Kind

/-- Only variables and functions can be declared. -/
def isDeclarable : Kind → Bool
  | object | function => true
  | other _ => false

theorem isDeclarable_ofEntry (entry : String) :
    (ofEntry entry).isDeclarable = decide (entry ∈ ["Variable", "Function"]) := by
  unfold ofEntry
  split
  case isTrue isVariable =>
    rw [isVariable]
    rfl
  case isFalse notVariable =>
    split
    case isTrue isFunction =>
      rw [isFunction]
      rfl
    case isFalse notFunction => simp [isDeclarable, notVariable, notFunction]

end Kind

theorem Parameters.mem_types_ofSpellings {spellings : List (List Char)} {type : HostType}
    (member : type ∈ (ofSpellings spellings).types) :
    ∃ spelling, HostType.resolve spelling = type := by
  simp only [ofSpellings, List.mem_map] at member
  rcases member with ⟨spelling, -, resolved⟩
  exact ⟨_, resolved⟩

theorem Parameters.mem_types_resolve {text : String} {type : HostType}
    (member : type ∈ (resolve text).types) :
    ∃ spelling, HostType.resolve spelling = type := by
  unfold resolve at member
  simp only at member
  split at member
  · cases member
  · exact mem_types_ofSpellings member

namespace Declaration

theorem ofSymbol_eq_error_iff {symbol : Symbol} {name : String} {failure : Failure} :
    ofSymbol symbol name = .error failure ↔
      ∃ entry, symbol.kind = .other entry ∧
        failure = .unsupportedKind symbol.name entry symbol.line := by
  unfold ofSymbol
  cases symbol.kind <;> simp [eq_comm]

theorem exists_ofSymbol_iff {symbol : Symbol} {name : String} :
    (∃ declaration, ofSymbol symbol name = .ok declaration) ↔
      symbol.kind.isDeclarable = true := by
  unfold ofSymbol
  cases symbol.kind <;> simp [Kind.isDeclarable]

theorem of_made {symbol : Symbol} {name : String} {declaration : Declaration}
    (made : ofSymbol symbol name = .ok declaration) :
    declaration.name = name ∧ declaration.kind = symbol.kind ∧
      declaration.linkName = if name = symbol.name then none else some symbol.name := by
  unfold ofSymbol at made
  cases kind : symbol.kind <;> rw [kind] at made <;> cases made <;> exact ⟨rfl, rfl, rfl⟩

/-- Under another name, only what tells the symbol apart from its name changes. -/
theorem ofSymbol_rename {symbol : Symbol} {name : String} {declaration : Declaration}
    (made : ofSymbol symbol name = .ok declaration) (other : String) :
    ofSymbol symbol other = .ok
      { declaration with
        name := other
        linkName := if other = symbol.name then none else some symbol.name } := by
  unfold ofSymbol at made ⊢
  cases kind : symbol.kind with
  | object =>
      rw [kind] at made
      cases made
      rfl
  | function =>
      rw [kind] at made
      cases made
      rfl
  | other entry =>
      rw [kind] at made
      cases made

/-- Whatever the name, what is linked is the symbol. -/
theorem linkedName_of_made {symbol : Symbol} {name : String} {declaration : Declaration}
    (made : ofSymbol symbol name = .ok declaration) :
    declaration.linkedName = symbol.name := by
  rcases of_made made with ⟨sameName, -, link⟩
  rw [linkedName, link, sameName]
  split
  case isTrue same => exact same
  case isFalse => rfl

theorem mem_types_of_made {symbol : Symbol} {name : String} {declaration : Declaration}
    (made : ofSymbol symbol name = .ok declaration) {type : HostType}
    (member : type ∈ declaration.types) : ∃ spelling, HostType.resolve spelling = type := by
  unfold ofSymbol at made
  cases kind : symbol.kind with
  | object =>
      rw [kind] at made
      cases made
      exact ⟨symbol.type, (List.mem_singleton.mp member).symm⟩
  | function =>
      rw [kind] at made
      cases made
      rcases List.mem_append.mp member with result | parameter
      · unfold HostType.resolveResult at result
        simp only at result
        split at result
        · cases result
        · exact ⟨_, (List.mem_singleton.mp result).symm⟩
      · exact Parameters.mem_types_resolve parameter
  | other entry =>
      rw [kind] at made
      cases made

theorem mem_unresolved {declaration : Declaration} {type : HostType}
    (member : type ∈ declaration.types) (unresolved : type.base.isUnresolved = true) :
    type.base.name ∈ declaration.unresolved :=
  List.mem_map_of_mem (List.mem_filter.mpr ⟨member, unresolved⟩)

/-- Whatever is declared of a symbol can be written. -/
theorem exists_block {symbol : Symbol} {name : String} {declaration : Declaration}
    (made : ofSymbol symbol name = .ok declaration) :
    ∃ block, declaration.block = .ok block := by
  unfold ofSymbol at made
  cases kind : symbol.kind with
  | object =>
      rw [kind] at made
      cases made
      exact ⟨_, rfl⟩
  | function =>
      rw [kind] at made
      cases made
      exact ⟨_, rfl⟩
  | other entry =>
      rw [kind] at made
      cases made

/-- The octets of the written block, of which a declaration made of a symbol always has one. -/
def octets (declaration : Declaration) : List UInt8 :=
  match declaration.block with
  | .ok block => Text.octets block
  | .error _ => []

theorem octets_of_block {declaration : Declaration} {block : String}
    (found : declaration.block = .ok block) : declaration.octets = Text.octets block := by
  rw [octets, found]

end Declaration

/-! ## Sinks -/

namespace Sink

/-- Whether the sink takes all of what it is offered. -/
def Fits (sink : Sink) (offered : List UInt8) : Prop :=
  sink.fitting offered.length = offered.length

theorem fits_nil (sink : Sink) : sink.Fits [] := by
  unfold Fits fitting
  cases sink.room <;> simp

theorem fits_of_roomy {sink : Sink} (roomy : sink.room = none) (offered : List UInt8) :
    sink.Fits offered := by
  rw [Fits, fitting, roomy]

theorem writeAll_of_fits {sink : Sink} {offered : List UInt8} (fits : sink.Fits offered) :
    sink.writeAll offered = (.ok (), sink.take offered) := by
  unfold Fits at fits
  rw [writeAll, if_pos fits, fits, List.take_length]

theorem writeAll_of_not_fits {sink : Sink} {offered : List UInt8} (tight : ¬sink.Fits offered) :
    (sink.writeAll offered).1 = .error sink.overflowFault := by
  unfold Fits at tight
  rw [writeAll, if_neg tight]

theorem perform_declaration {sink : Sink} {declaration : Declaration} {block : String}
    (found : declaration.block = .ok block) :
    sink.perform (.declaration declaration) =
      ((sink.writeAll declaration.octets).1.mapError .system,
        (sink.writeAll declaration.octets).2) := by
  unfold perform
  simp only [Emission.block, found, emitBlock, write, declaration.octets_of_block found]

end Sink

end SymbolBindings
