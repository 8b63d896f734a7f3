import SymbolBindings.Proofs.Declaration.Regular
import SymbolBindings.Proofs.Generate.Stripping
import SymbolBindings.Proofs.Generate.Truncation
import SymbolBindings.Proofs.Generate.Unresolved

/-! # Declared names

Names that are kept stay the identifiers they are. A name whose start is left out stays one only if
something is left of it that no digit starts. Nobody looks at what is left, so the rest is declared
whatever it is.
-/

namespace SymbolBindings

/-! ## Identifiers -/

/-- An identifier of C: a word that no digit starts. -/
structure IsIdentifier (text : String) : Prop where
  word : IsWord text
  start : text.toList.head?.any Char.isDigit = false

instance (text : String) : Decidable (IsIdentifier text) :=
  decidable_of_iff (IsWord text ∧ text.toList.head?.any Char.isDigit = false)
    ⟨fun parts => ⟨parts.1, parts.2⟩, fun identifier => ⟨identifier.word, identifier.start⟩⟩

example : IsIdentifier "_3d" ∧ ¬IsIdentifier "3d" ∧ ¬IsIdentifier "" := by decide

/-- What is left of an identifier without its start is an identifier, unless nothing is left or a
digit comes first. -/
theorem IsIdentifier.of_append_iff {start rest : String}
    (whole : IsIdentifier (start ++ rest)) :
    IsIdentifier rest ↔ rest ≠ "" ∧ rest.toList.head?.any Char.isDigit = false := by
  constructor
  · intro identifier
    exact ⟨identifier.word.1, identifier.start⟩
  · rintro ⟨nonempty, noDigit⟩
    refine ⟨⟨nonempty, ?_⟩, noDigit⟩
    intro character member
    apply whole.word.2
    rw [String.toList_append]
    exact List.mem_append_right _ member

namespace Matcher

/-- The matcher leaves out so much of the name that what is left starts with a digit, or that
nothing is left. -/
def Maims (matcher : Matcher) (name : String) : Prop :=
  matcher.strip = true ∧ ∃ start, matcher.leading = some start ∧
    (name = start ∨ ∃ digit rest, digit.isDigit = true ∧
      name.toList = start.toList ++ digit :: rest)

theorem maims_iff_of_append {start rest : String} :
    Maims ⟨some start, true⟩ (start ++ rest) ↔
      rest = "" ∨ rest.toList.head?.any Char.isDigit = true := by
  simp only [Maims, true_and, Option.some.injEq, exists_eq_left', String.toList_append,
    List.append_cancel_left_eq]
  apply or_congr
  · rw [← String.toList_inj, ← String.toList_inj]
    simp
  · simp only [Option.any_eq_true, List.head?_eq_some_iff]
    constructor
    · rintro ⟨digit, others, isDigit, split⟩
      exact ⟨digit, ⟨others, split⟩, isDigit⟩
    · rintro ⟨digit, ⟨others, split⟩, isDigit⟩
      exact ⟨digit, others, isDigit, split⟩

/-- An identifier is declared under an identifier exactly if the matcher does not maim it. -/
theorem isIdentifier_iff_not_maims {matcher : Matcher} {name declared : String}
    (native : IsIdentifier name) (selected : matcher.declaredName name = some declared) :
    IsIdentifier declared ↔ ¬matcher.Maims name := by
  rcases matcher with ⟨leading, strip⟩
  cases strip with
  | false =>
      rw [declaredName_keeping] at selected
      rcases Option.map_eq_some_iff.mp selected with ⟨_, -, rfl⟩
      simp [Maims, native]
  | true =>
      cases leading with
      | none =>
          rcases Option.some.inj selected with rfl
          simp [Maims, native]
      | some start =>
          rcases declaredName_stripping selected with rfl
          rw [native.of_append_iff, maims_iff_of_append]
          simp

end Matcher

namespace Generate

theorem flatMap_octets_declarations_cons (matcher : Matcher) (item : Item) (rest : List Item) :
    (declarations matcher (item :: rest)).flatMap Declaration.octets =
      (Verdict.ofItem matcher item).offered ++
        (declarations matcher rest).flatMap Declaration.octets := by
  rw [declarations, List.filterMap_cons, Verdict.offered]
  cases (Verdict.ofItem matcher item).declaration? with
  | none => rfl
  | some declaration => exact List.flatMap_cons

/-- What is written are the blocks of the symbols above the end of the run, as far as the sink has
room for them. -/
theorem written_takeItems_prefix (options : Options) (items : List Item) (progress : Progress) :
    (takeItems options items progress).2.sink.written <+:
      progress.sink.written ++
        (declarations options.matcher
          (items.takeWhile fun item => (options.ending item).isNone)).flatMap
            Declaration.octets := by
  induction items generalizing progress with
  | nil => exact List.prefix_append _ _
  | cons item rest induction =>
      have judged := Verdict.judged_ofItem options.matcher item
      cases ends : options.ending item with
      | some failure =>
          rw [takeItems_cons_of_ending ends]
          exact List.prefix_append _ _
      | none =>
          have goesOn := judged.ending_eq.trans ends
          have written := written_takeItem judged goesOn progress
          rw [List.takeWhile_cons_of_pos (by rw [ends]; rfl), flatMap_octets_declarations_cons,
            takeItems]
          rcases taken : takeItem options item progress with ⟨_ | _, after⟩
          · -- The sink is full, and what it took of the item's block is the last it has.
            rw [taken] at written
            rw [written, List.prefix_append_right_inj]
            exact (List.take_prefix _ _).trans (List.prefix_append _ _)
          · rcases (takeItem_eq_ok_iff judged).mp taken with ⟨-, -, rfl⟩
            rw [← List.append_assoc, ← Progress.written_add]
            exact induction _

/-- Where every symbol of a table is named by an identifier, a run declares each symbol under an
identifier exactly if the matcher does not maim its name. -/
theorem run_names (options : Options) (source : Source) (sink : Sink) (table : Table)
    (accepted : Table.read source = .ok table)
    (native : ∀ symbol, .ok symbol ∈ table.items → IsIdentifier symbol.name) :
    ∃ declared : List Declaration,
      (run options source sink).sink.written <+:
          sink.written ++ declared.flatMap Declaration.octets ∧
        (sink.room = none → (run options source sink).sink.written =
          sink.written ++ declared.flatMap Declaration.octets) ∧
        ∀ declaration ∈ declared, ∃ symbol, .ok symbol ∈ table.items ∧
          options.matcher.declaredName symbol.name = some declaration.name ∧
          Declaration.ofSymbol symbol declaration.name = .ok declaration ∧
          (IsIdentifier declaration.name ↔ ¬options.matcher.Maims symbol.name) := by
  rw [(run_of_read_ok accepted options sink).2]
  refine ⟨declarations options.matcher
    (table.items.takeWhile fun item => (options.ending item).isNone), ?_, ?_, ?_⟩
  · rw [sink_runItems]
    exact written_takeItems_prefix options table.items (.start sink)
  · intro roomy
    rw [(runItems_of_roomy options table.items roomy).1, Progress.written_addAll]
    rfl
  · intro declaration member
    rcases mem_declarations_iff.mp member with ⟨symbol, declares, name, selected, made⟩
    have inTable : .ok symbol ∈ table.items :=
      (List.takeWhile_prefix _).subset (mem_declaredSymbols_iff.mp declares).1
    rcases (Declaration.of_made made).1 with rfl
    exact ⟨symbol, inTable, selected, made,
      Matcher.isIdentifier_iff_not_maims (native symbol inTable) selected⟩

/-- A name may be left an identifier by so much as an underscore. -/
theorem run_names_underscore :
    Table.read (.ofOctets (Text.octets
          "name,entry,status,type\nf_3d,Variable,+,int\nf__,Variable,+,Tick\n")) =
        .ok ⟨["name", "entry", "status", "type"],
          [.ok ⟨"f_3d", .object, true, "int", "", some 2⟩,
            .ok ⟨"f__", .object, true, "Tick", "", some 3⟩]⟩ ∧
      (∀ symbol : Symbol, Except.ok symbol ∈ ([
          .ok ⟨"f_3d", .object, true, "int", "", some 2⟩,
          .ok ⟨"f__", .object, true, "Tick", "", some 3⟩] : List Item) →
        IsIdentifier symbol.name) ∧
      ∃ declared : List Declaration,
        (run ⟨⟨some "f", true⟩, .skip⟩ (.ofOctets (Text.octets
            "name,entry,status,type\nf_3d,Variable,+,int\nf__,Variable,+,Tick\n"))
          .unbounded).sink.written = declared.flatMap Declaration.octets ∧
        ∀ declaration ∈ declared, IsIdentifier declaration.name := by
  have accepted : Table.read (.ofOctets (Text.octets
      "name,entry,status,type\nf_3d,Variable,+,int\nf__,Variable,+,Tick\n")) =
        .ok ⟨["name", "entry", "status", "type"],
          [.ok ⟨"f_3d", .object, true, "int", "", some 2⟩,
            .ok ⟨"f__", .object, true, "Tick", "", some 3⟩]⟩ := rfl
  have native : ∀ symbol : Symbol, Except.ok symbol ∈ ([
      .ok ⟨"f_3d", .object, true, "int", "", some 2⟩,
      .ok ⟨"f__", .object, true, "Tick", "", some 3⟩] : List Item) →
      IsIdentifier symbol.name := by
    intro symbol member
    simp only [List.mem_cons, Except.ok.injEq, List.not_mem_nil, or_false] at member
    rcases member with rfl | rfl <;> decide
  rcases run_names ⟨⟨some "f", true⟩, .skip⟩ _ .unbounded _ accepted native
    with ⟨declared, -, written, each⟩
  refine ⟨accepted, native, declared, written rfl, ?_⟩
  intro declaration member
  rcases each declaration member with ⟨symbol, inTable, -, -, unmaimed⟩
  apply unmaimed.mpr
  simp only [List.mem_cons, Except.ok.injEq, List.not_mem_nil, or_false] at inTable
  rcases inTable with rfl | rfl
  · change ¬Matcher.Maims _ ("f" ++ "_3d")
    rw [Matcher.maims_iff_of_append]
    decide
  · change ¬Matcher.Maims _ ("f" ++ "__")
    rw [Matcher.maims_iff_of_append]
    decide

/-- With a start that is all of one name and is followed by a digit in another, neither is left an
identifier, and the run is reported as completed. -/
theorem run_declares_maimed_names :
    Table.read (.ofOctets (Text.octets
          "name,entry,status,type\nf_,Variable,+,int\nf_3d,Variable,+,int\n")) =
        .ok ⟨["name", "entry", "status", "type"],
          [.ok ⟨"f_", .object, true, "int", "", some 2⟩,
            .ok ⟨"f_3d", .object, true, "int", "", some 3⟩]⟩ ∧
      IsIdentifier "f_" ∧ IsIdentifier "f_3d" ∧
      (run ⟨⟨some "f_", true⟩, .skip⟩ (.ofOctets (Text.octets
          "name,entry,status,type\nf_,Variable,+,int\nf_3d,Variable,+,int\n"))
        .unbounded).result = .ok ⟨2, 0, 0, 0, []⟩ ∧
      (run ⟨⟨some "f_", true⟩, .skip⟩ (.ofOctets (Text.octets
          "name,entry,status,type\nf_,Variable,+,int\nf_3d,Variable,+,int\n"))
        .unbounded).sink.written =
        Text.octets ("#[link_name = \"f_\"]\npub static : i32;\n" ++
          "#[link_name = \"f_3d\"]\npub static 3d: i32;\n") ∧
      ¬IsIdentifier "" ∧ ¬IsIdentifier "3d" :=
  ⟨rfl, by decide, by decide, rfl, rfl, by decide, by decide⟩

end Generate

end SymbolBindings
