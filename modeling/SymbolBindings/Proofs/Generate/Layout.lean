import SymbolBindings.Proofs.Generate.Progress
import SymbolBindings.Proofs.Symbol.Layout

/-! # Runs over tables laid out anew

The order of the columns and the columns nobody asks for make no difference to a run: it writes,
counts and refuses the same. Cells that are no text are the exception. A run is refused for them
wherever they stand, and tells their place.
-/

namespace SymbolBindings.Generate

open Table (SameButPlace LaidOut IsRegular headerRow dataRows read_ofOctets_eq_ofRows)

section Items

variable {rows : List Delimited.Row} (options : Options)

theorem takeItem_sameButPlace {item other : Item} (alike : SameButPlace rows Eq item other)
    (progress : Progress) :
    (takeItem options other progress).2 = (takeItem options item progress).2 ∧
      SameButPlace rows Eq (takeItem options item progress).1
        (takeItem options other progress).1 := by
  cases alike with
  | ok same =>
      subst same
      exact ⟨rfl, .refl _⟩
  | error alike => exact ⟨rfl, .error alike⟩

/-- Both runs come to the first item that ends them at the same time. -/
theorem takeItems_sameButPlace {items others : List Item}
    (alike : List.Forall₂ (SameButPlace rows Eq) items others) (progress : Progress) :
    (takeItems options others progress).2 = (takeItems options items progress).2 ∧
      SameButPlace rows Eq (takeItems options items progress).1
        (takeItems options others progress).1 := by
  induction alike generalizing progress with
  | nil => exact ⟨rfl, .refl _⟩
  | @cons item other rest otherRest head _ induction =>
      rcases takeItem_sameButPlace options head progress with ⟨sameAfter, sameResult⟩
      rw [takeItems, takeItems]
      rcases taken : takeItem options item progress with ⟨result, after⟩
      rcases takenOther : takeItem options other progress with ⟨otherResult, otherAfter⟩
      rw [taken, takenOther] at sameAfter sameResult
      cases sameAfter
      -- Both runs stand at the same progress now, and go on or end together.
      cases sameResult with
      | ok same => exact induction after
      | error alike => exact ⟨rfl, .error alike⟩

theorem runItems_sameButPlace {items others : List Item}
    (alike : List.Forall₂ (SameButPlace rows Eq) items others) (sink : Sink) :
    (runItems options others sink).sink = (runItems options items sink).sink ∧
      SameButPlace rows Eq (runItems options items sink).result
        (runItems options others sink).result := by
  rcases takeItems_sameButPlace options alike (.start sink) with
    ⟨sameAfter, sameResult⟩
  rw [runItems, runItems]
  rcases taken : takeItems options items (.start sink) with ⟨result, after⟩
  rcases takenOther : takeItems options others (.start sink) with ⟨otherResult, otherAfter⟩
  rw [taken, takenOther] at sameAfter sameResult
  cases sameAfter
  cases sameResult with
  | ok same => cases after.sink.flush <;> exact ⟨rfl, .refl _⟩
  | error alike => exact ⟨rfl, .error alike⟩

theorem run_sameButPlace {source other : Source}
    (alike : SameButPlace rows
      (fun table other => List.Forall₂ (SameButPlace rows Eq) table.items other.items)
      (Table.read source) (Table.read other)) (sink : Sink) :
    (run options other sink).sink = (run options source sink).sink ∧
      SameButPlace rows Eq (run options source sink).result (run options other sink).result := by
  generalize read : Table.read source = result at alike
  generalize readOther : Table.read other = otherResult at alike
  cases alike with
  | ok items =>
      rcases run_of_read_ok read options sink with ⟨result, after⟩
      rcases run_of_read_ok readOther options sink with ⟨resultOther, afterOther⟩
      rw [result, after, resultOther, afterOther]
      exact runItems_sameButPlace options items sink
  | error alike =>
      rcases run_of_read_error read options sink with ⟨result, after⟩
      rcases run_of_read_error readOther options sink with ⟨resultOther, afterOther⟩
      rw [result, after, resultOther, afterOther]
      exact ⟨rfl, .error alike⟩

end Items

/-- A run over a regular table that is laid out anew, with further columns of text, writes the same
and comes to the same, but for the place that is told of a cell that is no text. -/
theorem run_laidOut {octets others : List UInt8} {names : List String} {order : List Nat}
    (regular : IsRegular (headerRow octets) (dataRows octets))
    (laidOut : LaidOut Text.IsText names order (headerRow octets) (dataRows octets)
      (headerRow others) (dataRows others)) (options : Options) (sink : Sink) :
    (run options (.ofOctets others) sink).sink = (run options (.ofOctets octets) sink).sink ∧
      SameButPlace (headerRow octets :: dataRows octets) Eq
        (run options (.ofOctets octets) sink).result
        (run options (.ofOctets others) sink).result ∧
      ((∀ row ∈ headerRow octets :: dataRows octets, ∃ texts, row.Spells texts) →
        (run options (.ofOctets others) sink).result =
          (run options (.ofOctets octets) sink).result) := by
  have tables := laidOut.sameButPlace regular
  rw [← read_ofOctets_eq_ofRows, ← read_ofOctets_eq_ofRows] at tables
  rcases run_sameButPlace options tables sink with ⟨sameSink, alike⟩
  exact ⟨sameSink, alike, alike.eq_of_readable⟩

/-- Two rows are read from another layout, and the second one is refused as it was. -/
theorem run_laidOut_reversed :
    IsRegular
        (headerRow (Text.octets "name,entry,status,type\na,Variable,+,int\n,Header,+,\n"))
        (dataRows (Text.octets "name,entry,status,type\na,Variable,+,int\n,Header,+,\n")) ∧
      LaidOut Text.IsText ["note"] [4, 3, 2, 1, 0]
        (headerRow (Text.octets "name,entry,status,type\na,Variable,+,int\n,Header,+,\n"))
        (dataRows (Text.octets "name,entry,status,type\na,Variable,+,int\n,Header,+,\n"))
        (headerRow (Text.octets "note,type,status,entry,name\nx,int,+,Variable,a\n,,+,Header,\n"))
        (dataRows (Text.octets
          "note,type,status,entry,name\nx,int,+,Variable,a\n,,+,Header,\n")) ∧
      (run ⟨⟨none, false⟩, .error⟩
          (.ofOctets (Text.octets "name,entry,status,type\na,Variable,+,int\n,Header,+,\n"))
          .unbounded).result = .error (.malformed (some 3) .emptyName) ∧
      (run ⟨⟨none, false⟩, .error⟩
          (.ofOctets (Text.octets
            "note,type,status,entry,name\nx,int,+,Variable,a\n,,+,Header,\n"))
          .unbounded).result = .error (.malformed (some 3) .emptyName) ∧
      (run ⟨⟨none, false⟩, .error⟩
          (.ofOctets (Text.octets
            "note,type,status,entry,name\nx,int,+,Variable,a\n,,+,Header,\n"))
          .unbounded).sink.written = Text.octets "pub static a: i32;\n" := by
  have regular : IsRegular
      (headerRow (Text.octets "name,entry,status,type\na,Variable,+,int\n,Header,+,\n"))
      (dataRows (Text.octets "name,entry,status,type\na,Variable,+,int\n,Header,+,\n")) := by
    have spelled : (headerRow (Text.octets
        "name,entry,status,type\na,Variable,+,int\n,Header,+,\n")).Spells
        ["name", "entry", "status", "type"] := rfl
    exact .of_spells (by decide) spelled (by decide)
  have laidOut : LaidOut Text.IsText ["note"] [4, 3, 2, 1, 0]
      (headerRow (Text.octets "name,entry,status,type\na,Variable,+,int\n,Header,+,\n"))
      (dataRows (Text.octets "name,entry,status,type\na,Variable,+,int\n,Header,+,\n"))
      (headerRow (Text.octets "note,type,status,entry,name\nx,int,+,Variable,a\n,,+,Header,\n"))
      (dataRows (Text.octets
        "note,type,status,entry,name\nx,int,+,Variable,a\n,,+,Header,\n")) := by
    refine ⟨by decide, by decide, rfl, .cons ?_ (.cons ?_ .nil)⟩
    · exact ⟨[Text.octets "x"], rfl, List.forall_mem_singleton.mpr ⟨"x", rfl⟩, rfl⟩
    · exact ⟨[Text.octets ""], rfl, List.forall_mem_singleton.mpr ⟨"", rfl⟩, rfl⟩
  rcases run_laidOut regular laidOut ⟨⟨none, false⟩, .error⟩ .unbounded with
    ⟨sameSink, -, sameResult⟩
  have read : ∀ row ∈
      headerRow (Text.octets "name,entry,status,type\na,Variable,+,int\n,Header,+,\n") ::
        dataRows (Text.octets "name,entry,status,type\na,Variable,+,int\n,Header,+,\n"),
      row.texts.isOk = true := by decide
  have readable := fun row member => Delimited.Row.isOk_texts_iff.mp (read row member)
  refine ⟨regular, laidOut, rfl, ?_, ?_⟩
  · rw [sameResult readable]
    rfl
  · rw [sameSink]
    rfl

/-- Swapped columns are enough to change the failure of a cell that is no text, and a further column
with such a cell fails a run that came to its end. -/
theorem run_tells_places :
    (IsRegular
          (headerRow (Text.octets "name,entry,status,type\n" ++ 0xFF ::
            Text.octets ",Variable,+,int\n"))
          (dataRows (Text.octets "name,entry,status,type\n" ++ 0xFF ::
            Text.octets ",Variable,+,int\n")) ∧
        LaidOut (fun _ => True) [] [1, 0, 2, 3]
          (headerRow (Text.octets "name,entry,status,type\n" ++ 0xFF ::
            Text.octets ",Variable,+,int\n"))
          (dataRows (Text.octets "name,entry,status,type\n" ++ 0xFF ::
            Text.octets ",Variable,+,int\n"))
          (headerRow (Text.octets "entry,name,status,type\nVariable," ++ 0xFF ::
            Text.octets ",+,int\n"))
          (dataRows (Text.octets "entry,name,status,type\nVariable," ++ 0xFF ::
            Text.octets ",+,int\n")) ∧
        (run ⟨⟨none, false⟩, .error⟩
            (.ofOctets (Text.octets "name,entry,status,type\n" ++ 0xFF ::
              Text.octets ",Variable,+,int\n"))
            .unbounded).result = .error (.malformed (some 2) (.illFormedText 0 0)) ∧
        (run ⟨⟨none, false⟩, .error⟩
            (.ofOctets (Text.octets "entry,name,status,type\nVariable," ++ 0xFF ::
              Text.octets ",+,int\n"))
            .unbounded).result = .error (.malformed (some 2) (.illFormedText 1 0))) ∧
      IsRegular
          (headerRow (Text.octets "name,entry,status,type\na,Variable,+,int\n"))
          (dataRows (Text.octets "name,entry,status,type\na,Variable,+,int\n")) ∧
        LaidOut (fun _ => True) ["note"] [0, 1, 2, 3, 4]
          (headerRow (Text.octets "name,entry,status,type\na,Variable,+,int\n"))
          (dataRows (Text.octets "name,entry,status,type\na,Variable,+,int\n"))
          (headerRow (Text.octets "name,entry,status,type,note\na,Variable,+,int," ++
            0xFF :: Text.octets "\n"))
          (dataRows (Text.octets "name,entry,status,type,note\na,Variable,+,int," ++
            0xFF :: Text.octets "\n")) ∧
        (run ⟨⟨none, false⟩, .error⟩
            (.ofOctets (Text.octets "name,entry,status,type\na,Variable,+,int\n"))
            .unbounded).result = .ok ⟨1, 0, 0, 0, []⟩ ∧
        (run ⟨⟨none, false⟩, .error⟩
            (.ofOctets (Text.octets "name,entry,status,type,note\na,Variable,+,int," ++
              0xFF :: Text.octets "\n"))
            .unbounded).result = .error (.malformed (some 2) (.illFormedText 4 0)) := by
  have spelled : (headerRow (Text.octets "name,entry,status,type\n" ++ 0xFF ::
      Text.octets ",Variable,+,int\n")).Spells ["name", "entry", "status", "type"] := rfl
  have spelledText : (headerRow (Text.octets
      "name,entry,status,type\na,Variable,+,int\n")).Spells
      ["name", "entry", "status", "type"] := rfl
  refine ⟨⟨.of_spells (by decide) spelled (by decide), ?_, rfl, rfl⟩,
    .of_spells (by decide) spelledText (by decide), ?_, rfl, rfl⟩
  · refine ⟨by decide, by decide, rfl, .cons ?_ .nil⟩
    exact ⟨[], rfl, fun _ _ => trivial, rfl⟩
  · refine ⟨by decide, by decide, rfl, .cons ?_ .nil⟩
    exact ⟨[[0xFF]], rfl, fun _ _ => trivial, rfl⟩

end SymbolBindings.Generate
