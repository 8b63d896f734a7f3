import SymbolBindings.Proofs.Generate.Streaming

/-! # Stripping

Leaving out the start of a name changes what a symbol is declared as, and nothing else: neither
which symbols are declared, nor what is linked, nor how the run ends.
-/

namespace SymbolBindings

/-! ## Names -/

namespace Matcher

theorem declaredName_keeping (leading : Option String) (name : String) :
    declaredName ⟨leading, false⟩ name =
      (declaredName ⟨leading, true⟩ name).map fun _ => name := by
  cases leading with
  | none => rfl
  | some start =>
      simp only [declaredName, remainder, Bool.false_eq_true, if_false, if_true]
      split <;> rfl

theorem declaredName_stripping {start name declared : String}
    (selected : declaredName ⟨some start, true⟩ name = some declared) :
    start ++ declared = name := by
  simp only [declaredName, remainder, if_true] at selected
  split at selected
  case isTrue led =>
    have starts := List.isPrefixOf_iff_prefix.mp led
    rw [← Option.some.inj selected, ← String.toList_inj]
    simp only [String.toList_append, String.toList_ofList]
    exact (List.prefix_append_drop starts).symm
  case isFalse => cases selected

/-- Where there is nothing to leave out, stripping changes no name. -/
theorem declaredName_inert {leading : Option String} (inert : leading = none ∨ leading = some "")
    (name : String) :
    declaredName ⟨leading, true⟩ name = declaredName ⟨leading, false⟩ name := by
  rcases inert with rfl | rfl
  · rfl
  · simp [declaredName, remainder]

end Matcher

namespace Generate

/-- What a symbol is declared as by runs that keep names and by runs that strip them, with the
start of names that is `leading`. -/
structure Renamed (leading : Option String) (symbol : Symbol) (kept stripped : Declaration) :
    Prop where
  keptMade : Declaration.ofSymbol symbol symbol.name = .ok kept
  strippedMade : Declaration.ofSymbol symbol stripped.name = .ok stripped
  kind : kept.kind = stripped.kind
  type : kept.type = stripped.type
  parameters : kept.parameters = stripped.parameters
  variadic : kept.variadic = stripped.variadic
  keptLinked : kept.linkedName = symbol.name
  strippedLinked : stripped.linkedName = symbol.name
  keptLink : kept.linkName = none
  strippedLink : leading = none → stripped.linkName = none
  strippedName : ∀ start, leading = some start →
    start ++ stripped.name = symbol.name ∧ (stripped.linkName.isSome = true ↔ start ≠ "")

/-- How a run that strips names differs from one that keeps them, where both take these items into
a sink that had taken some pieces before. -/
structure OnlyRenames (options : Options) (items : List Item) (before : List (List UInt8))
    (keeping stripping : Outcome) : Prop where
  result : keeping.result = stripping.result
  declared : ∃ pairs : List (Declaration × Declaration),
    List.Forall₂
      (fun symbol pair => Renamed options.matcher.leading symbol pair.1 pair.2)
      (declaredSymbols options.matcher
        (items.takeWhile fun item => (options.ending item).isNone)) pairs ∧
      keeping.sink.pieces = (pairs.map fun pair => pair.1.octets).reverse ++ before ∧
      stripping.sink.pieces = (pairs.map fun pair => pair.2.octets).reverse ++ before

/-! ## Declarations -/

theorem renamed_of_made {leading : Option String} {symbol : Symbol} {name : String}
    {kept stripped : Declaration}
    (keptMade : Declaration.ofSymbol symbol symbol.name = .ok kept)
    (selected : Matcher.declaredName ⟨leading, true⟩ symbol.name = some name)
    (strippedMade : Declaration.ofSymbol symbol name = .ok stripped) :
    Renamed leading symbol kept stripped := by
  have linked := Declaration.linkedName_of_made strippedMade
  have link := (Declaration.of_made keptMade).2.2
  rw [if_pos rfl] at link
  have same := (Declaration.ofSymbol_rename keptMade name).symm.trans strippedMade
  cases same
  refine ⟨keptMade, strippedMade, rfl, rfl, rfl, rfl,
    Declaration.linkedName_of_made keptMade, linked, link, ?_, ?_⟩
  · rintro rfl
    have unchanged : name = symbol.name := (Option.some.inj selected).symm
    exact if_pos unchanged
  · rintro start rfl
    have joined := Matcher.declaredName_stripping selected
    have unchanged : name = symbol.name ↔ start = "" := by
      rw [← joined, ← String.toList_inj, ← String.toList_inj, String.toList_append]
      simp
    refine ⟨joined, ?_⟩
    simp only [unchanged]
    split <;> simp [*]

/-- A symbol is declared either way, or comes to the same. -/
theorem Verdict.renamed (leading : Option String) (symbol : Symbol) :
    (∃ kept stripped, Renamed leading symbol kept stripped ∧
      ofItem ⟨leading, false⟩ (.ok symbol) = .declared kept ∧
      ofItem ⟨leading, true⟩ (.ok symbol) = .declared stripped) ∨
    ∃ verdict, verdict.declaration? = none ∧
      ofItem ⟨leading, false⟩ (.ok symbol) = verdict ∧
      ofItem ⟨leading, true⟩ (.ok symbol) = verdict := by
  have keeping := Matcher.declaredName_keeping leading symbol.name
  have judged := judged_ofItem ⟨leading, true⟩ (.ok symbol)
  generalize ofItem ⟨leading, true⟩ (.ok symbol) = verdict at judged ⊢
  cases judged with
  | hidden kept => exact .inr ⟨_, rfl, (Judged.hidden kept).unique, rfl⟩
  | unmatched exported rejected =>
      rw [rejected] at keeping
      exact .inr ⟨_, rfl, (Judged.unmatched exported keeping).unique, rfl⟩
  | unsupported exported selected kind =>
      rw [selected] at keeping
      exact .inr ⟨_, rfl, (Judged.unsupported exported keeping kind).unique, rfl⟩
  | declared exported selected strippedMade =>
      rw [selected] at keeping
      have keptMade := Declaration.ofSymbol_rename strippedMade symbol.name
      have renamed := renamed_of_made keptMade selected strippedMade
      exact .inl ⟨_, _, renamed, (Judged.declared exported keeping keptMade).unique, rfl⟩

theorem exists_renamed (leading : Option String) (items : List Item) :
    ∃ pairs : List (Declaration × Declaration),
      List.Forall₂ (fun symbol pair => Renamed leading symbol pair.1 pair.2)
        (declaredSymbols ⟨leading, false⟩ items) pairs ∧
      declarations ⟨leading, false⟩ items = pairs.map Prod.fst ∧
      declarations ⟨leading, true⟩ items = pairs.map Prod.snd := by
  induction items with
  | nil => exact ⟨[], .nil, rfl, rfl⟩
  | cons item rest induction =>
      rcases induction with ⟨pairs, related, keptOnes, strippedOnes⟩
      cases item with
      | error failure => exact ⟨pairs, related, keptOnes, strippedOnes⟩
      | ok symbol =>
          have judged := Verdict.judged_ofItem ⟨leading, false⟩ (.ok symbol)
          have declares := judged.declares_eq
          unfold declarations declaredSymbols at *
          simp only [List.filterMap_cons, Except.toOption, List.filter_cons, declares]
          rcases Verdict.renamed leading symbol with
            ⟨kept, stripped, renamed, keeping, stripping⟩ |
            ⟨verdict, undeclared, keeping, stripping⟩
          · rw [keeping, stripping]
            exact ⟨(kept, stripped) :: pairs, .cons renamed related,
              congrArg (kept :: ·) keptOnes, congrArg (stripped :: ·) strippedOnes⟩
          · rw [keeping, stripping, undeclared]
            exact ⟨pairs, related, keptOnes, strippedOnes⟩

/-! ## Counting -/

/-- Two runs have counted the same. -/
structure SameCounts (left right : Progress) : Prop where
  seen : left.seen = right.seen
  exported : left.exported = right.exported
  emitted : left.emitted = right.emitted
  unmatched : left.unmatched = right.unmatched
  unsupported : left.unsupported = right.unsupported
  unresolved : left.unresolved = right.unresolved

namespace SameCounts

variable {left right : Progress}

theorem meet (same : SameCounts left right) (exported : Bool) :
    SameCounts (left.meet exported) (right.meet exported) :=
  ⟨congrArg (· + 1) same.seen, congrArg (· + exported.toNat) same.exported, same.emitted,
    same.unmatched, same.unsupported, same.unresolved⟩

theorem add_undeclared (same : SameCounts left right) {verdict : Verdict}
    (undeclared : verdict.declaration? = none) :
    SameCounts (left.add verdict) (right.add verdict) := by
  have met := same.meet verdict.isExported
  cases verdict with
  | failed | hidden => exact met
  | unmatched => exact { met with unmatched := congrArg (· + 1) same.unmatched }
  | unsupported => exact { met with unsupported := congrArg (· + 1) same.unsupported }
  | declared declaration => cases undeclared

/-- The types that are left unresolved do not depend on names. -/
theorem add_declared (same : SameCounts left right) {leading : Option String} {symbol : Symbol}
    {kept stripped : Declaration} (renamed : Renamed leading symbol kept stripped) :
    SameCounts (left.add (.declared kept)) (right.add (.declared stripped)) := by
  have sameTypes : kept.types = stripped.types := by
    rw [Declaration.types, Declaration.types, renamed.type, renamed.parameters]
  have sameUnresolved : insertNames kept.unresolved left.unresolved =
      insertNames stripped.unresolved right.unresolved := by
    rw [Declaration.unresolved, Declaration.unresolved, sameTypes, same.unresolved]
  exact { same.meet true with
    emitted := congrArg (· + 1) same.emitted
    unresolved := sameUnresolved }

theorem addAll (same : SameCounts left right) (leading : Option String) (items : List Item) :
    SameCounts (left.addAll ⟨leading, false⟩ items) (right.addAll ⟨leading, true⟩ items) := by
  induction items generalizing left right with
  | nil => exact same
  | cons item rest induction =>
      rw [Progress.addAll_cons, Progress.addAll_cons]
      apply induction
      cases item with
      | error failure => exact same.add_undeclared rfl
      | ok symbol =>
          rcases Verdict.renamed leading symbol with
            ⟨kept, stripped, renamed, keeping, stripping⟩ |
            ⟨verdict, undeclared, keeping, stripping⟩
          · rw [keeping, stripping]
            exact same.add_declared renamed
          · rw [keeping, stripping]
            exact same.add_undeclared undeclared

theorem summary_eq (same : SameCounts left right) : left.summary = right.summary := by
  simp only [Progress.summary, same.seen, same.exported, same.emitted, same.unmatched,
    same.unsupported, same.unresolved]

end SameCounts

/-! ## Runs -/

theorem onlyRenames_runItems (leading : Option String) (policy : Policy) (items : List Item)
    {sink : Sink} (roomy : sink.room = none) :
    OnlyRenames ⟨⟨leading, false⟩, policy⟩ items sink.pieces
      (runItems ⟨⟨leading, false⟩, policy⟩ items sink)
      (runItems ⟨⟨leading, true⟩, policy⟩ items sink) := by
  rcases runItems_of_roomy ⟨⟨leading, false⟩, policy⟩ items roomy with ⟨keptSink, keptResult⟩
  rcases runItems_of_roomy ⟨⟨leading, true⟩, policy⟩ items roomy with
    ⟨strippedSink, strippedResult⟩
  constructor
  · have start : SameCounts (.start sink) (.start sink) := ⟨rfl, rfl, rfl, rfl, rfl, rfl⟩
    rw [keptResult, strippedResult, (start.addAll leading items).summary_eq]
    rfl
  · -- An item ends both runs or neither, so both have written of the same items.
    rcases exists_renamed leading
        (items.takeWhile fun item => (Options.ending ⟨⟨leading, false⟩, policy⟩ item).isNone)
      with ⟨pairs, related, keptOnes, strippedOnes⟩
    refine ⟨pairs, related, ?_, ?_⟩
    · rw [keptSink, Progress.pieces_addAll, keptOnes, List.map_map]
      rfl
    · rw [strippedSink, Progress.pieces_addAll]
      change ((declarations ⟨leading, true⟩ (items.takeWhile fun item =>
        (Options.ending ⟨⟨leading, false⟩, policy⟩ item).isNone)).map _).reverse ++ _ = _
      rw [strippedOnes, List.map_map]
      rfl

theorem takeItems_inert {leading : Option String} (inert : leading = none ∨ leading = some "")
    (policy : Policy) (items : List Item) (progress : Progress) :
    takeItems ⟨⟨leading, true⟩, policy⟩ items progress =
      takeItems ⟨⟨leading, false⟩, policy⟩ items progress := by
  induction items generalizing progress with
  | nil => rfl
  | cons item rest induction =>
      have same : takeItem ⟨⟨leading, true⟩, policy⟩ item progress =
          takeItem ⟨⟨leading, false⟩, policy⟩ item progress := by
        cases item with
        | error failure => rfl
        | ok symbol =>
            simp only [takeItem, exportedSymbol, Matcher.declaredName_inert inert symbol.name]
      rw [takeItems, takeItems, same]
      simp only [induction]

/-- Stripping only renames what is declared, and without anything to leave out it does not even
do that, whatever the sink takes. -/
theorem run_renames (leading : Option String) (policy : Policy) :
    (∀ source sink table, Table.read source = .ok table → sink.room = none →
      OnlyRenames ⟨⟨leading, false⟩, policy⟩ table.items sink.pieces
        (run ⟨⟨leading, false⟩, policy⟩ source sink)
        (run ⟨⟨leading, true⟩, policy⟩ source sink)) ∧
    (∀ source sink failure, Table.read source = .error failure →
      OnlyRenames ⟨⟨leading, false⟩, policy⟩ [] sink.pieces
        (run ⟨⟨leading, false⟩, policy⟩ source sink)
        (run ⟨⟨leading, true⟩, policy⟩ source sink)) ∧
    (leading = none ∨ leading = some "" →
      ∀ source sink,
        (run ⟨⟨leading, false⟩, policy⟩ source sink).result =
            (run ⟨⟨leading, true⟩, policy⟩ source sink).result ∧
          (run ⟨⟨leading, false⟩, policy⟩ source sink).sink =
            (run ⟨⟨leading, true⟩, policy⟩ source sink).sink) := by
  refine ⟨?_, ?_, ?_⟩
  · intro source sink table accepted roomy
    rcases run_of_read_ok accepted ⟨⟨leading, false⟩, policy⟩ sink with ⟨keptResult, keptSink⟩
    rcases run_of_read_ok accepted ⟨⟨leading, true⟩, policy⟩ sink with
      ⟨strippedResult, strippedSink⟩
    have renames := onlyRenames_runItems leading policy table.items roomy
    constructor
    · rw [keptResult, strippedResult, renames.result]
    · rw [keptSink, strippedSink]
      exact renames.declared
  · intro source sink failure refused
    rcases run_of_read_error refused ⟨⟨leading, false⟩, policy⟩ sink with ⟨keptResult, keptSink⟩
    rcases run_of_read_error refused ⟨⟨leading, true⟩, policy⟩ sink with
      ⟨strippedResult, strippedSink⟩
    constructor
    · rw [keptResult, strippedResult]
    · rw [keptSink, strippedSink]
      exact ⟨[], .nil, rfl, rfl⟩
  · intro inert source sink
    unfold run
    cases Table.read source with
    | error failure => exact ⟨rfl, rfl⟩
    | ok table =>
        simp only [runItems, takeItems_inert inert, and_self]

/-- A name may be nothing but its start, and of a repeated start only the first is left out. -/
theorem run_renames_repeated_start :
    Sink.unbounded.room = none ∧
      OnlyRenames ⟨⟨some "f_", false⟩, .skip⟩
        [.ok ⟨"f_", .object, true, "int", "", some 2⟩,
          .ok ⟨"f_f_a", .object, true, "int", "", some 3⟩]
        []
        (run ⟨⟨some "f_", false⟩, .skip⟩
          (.ofOctets (Text.octets
            "status,name,entry,type\n+,f_,Variable,int\n+,f_f_a,Variable,int\n"))
          .unbounded)
        (run ⟨⟨some "f_", true⟩, .skip⟩
          (.ofOctets (Text.octets
            "status,name,entry,type\n+,f_,Variable,int\n+,f_f_a,Variable,int\n"))
          .unbounded) ∧
      (run ⟨⟨some "f_", true⟩, .skip⟩
          (.ofOctets (Text.octets
            "status,name,entry,type\n+,f_,Variable,int\n+,f_f_a,Variable,int\n"))
          .unbounded).sink.pieces =
        [Text.octets "#[link_name = \"f_f_a\"]\npub static f_a: i32;\n",
          Text.octets "#[link_name = \"f_\"]\npub static : i32;\n"] ∧
      (run ⟨⟨some "", false⟩, .skip⟩
          (.ofOctets (Text.octets
            "status,name,entry,type\n+,f_,Variable,int\n+,f_f_a,Variable,int\n"))
          .unbounded).sink =
        (run ⟨⟨some "", true⟩, .skip⟩
          (.ofOctets (Text.octets
            "status,name,entry,type\n+,f_,Variable,int\n+,f_f_a,Variable,int\n"))
          .unbounded).sink := by
  have renames := (run_renames (some "f_") .skip).1
    (.ofOctets (Text.octets
      "status,name,entry,type\n+,f_,Variable,int\n+,f_f_a,Variable,int\n"))
    .unbounded
    ⟨["status", "name", "entry", "type"],
      [.ok ⟨"f_", .object, true, "int", "", some 2⟩,
        .ok ⟨"f_f_a", .object, true, "int", "", some 3⟩]⟩
  have inert := (run_renames (some "") .skip).2.2 (.inr rfl)
  exact ⟨rfl, renames rfl rfl, rfl, (inert _ _).2⟩

end Generate

end SymbolBindings
