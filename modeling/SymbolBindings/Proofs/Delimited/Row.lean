import SymbolBindings.Delimited.Row
import SymbolBindings.Proofs.Text.Blank

/-! # Rows of text

A row can be read exactly if its cells are the octets of texts, and it then reads as these texts,
trimmed. Headers and data rows are trimmed at different moments, which makes no difference to what
is read.
-/

namespace SymbolBindings.Delimited

/-- The cells of the row are the octets of these texts. -/
def Row.Spells (row : Row) (texts : List String) : Prop :=
  row.cells = texts.map Text.octets

namespace Row.Spells

theorem length_eq {row : Row} {texts : List String} (spelled : row.Spells texts) :
    row.cells.length = texts.length := by
  rw [spelled, List.length_map]

theorem unique {row : Row} {left right : List String} (leftSpelled : row.Spells left)
    (rightSpelled : row.Spells right) : left = right :=
  List.map_injective_iff.mpr Text.octets_injective (leftSpelled.symm.trans rightSpelled)

end Row.Spells

private theorem decodeCellsFrom_eq_ok_iff {prepare : List UInt8 → List UInt8}
    (cellwise : ∀ {cell text}, (Text.decode (prepare cell)).map Text.trim = .ok text ↔
      ∃ raw, cell = Text.octets raw ∧ text = Text.trim raw)
    (field : Nat) (cells : List (List UInt8)) (texts : List String) :
    (decodeCellsFrom field (cells.map prepare)).map (·.map Text.trim) = .ok texts ↔
      ∃ raw : List String, cells = raw.map Text.octets ∧ texts = raw.map Text.trim := by
  induction cells generalizing field texts with
  | nil =>
      simp only [List.map_nil, decodeCellsFrom, except_map_eq_ok_iff, Except.ok.injEq,
        List.nil_eq, List.map_eq_nil_iff, exists_eq_left]
  | cons cell rest induction =>
      rw [List.map_cons, decodeCellsFrom]
      constructor
      · intro decoded
        cases read : Text.decode (prepare cell) with
        | error offset =>
            rw [read] at decoded
            cases decoded
        | ok core =>
            simp only [read, except_map_eq_ok_iff] at decoded
            rcases decoded with ⟨_, ⟨others, readOthers, rfl⟩, rfl⟩
            rcases cellwise.mp (congrArg (Except.map Text.trim) read) with ⟨raw, spelled, trimmed⟩
            rcases (induction (field + 1) _).mp
              (congrArg (Except.map (·.map Text.trim)) readOthers) with
              ⟨raws, spelledOthers, trimmedOthers⟩
            refine ⟨raw :: raws, ?_, ?_⟩
            · rw [spelled, spelledOthers, List.map_cons]
            · rw [List.map_cons, List.map_cons, trimmed]
              exact congrArg (Text.trim raw :: ·) trimmedOthers
      · intro spelled
        rcases spelled with ⟨raws, spelled, rfl⟩
        rcases List.map_eq_cons_iff.mp spelled.symm with ⟨raw, others, rfl, rfl, rfl⟩
        rcases except_map_eq_ok_iff.mp (cellwise.mpr ⟨raw, rfl, rfl⟩) with ⟨core, read, trimmed⟩
        rcases except_map_eq_ok_iff.mp
          ((induction (field + 1) _).mpr ⟨others, rfl, rfl⟩) with ⟨cores, readOthers, trimmedOthers⟩
        simp only [read, readOthers, Except.map, List.map_cons, trimmed, trimmedOthers]

namespace Row

theorem texts_eq_ok_iff {row : Row} {texts : List String} :
    row.texts = .ok texts ↔ ∃ raw, row.Spells raw ∧ texts = raw.map Text.trim :=
  decodeCellsFrom_eq_ok_iff Text.decode_trimmed_eq_ok_iff 0 row.cells texts

theorem headerTexts_eq_ok_iff {row : Row} {names : List String} :
    row.headerTexts = .ok names ↔ ∃ raw, row.Spells raw ∧ names = raw.map Text.trim := by
  have cellwise : ∀ {cell text}, (Text.decode (id cell)).map Text.trim = .ok text ↔
      ∃ raw, cell = Text.octets raw ∧ text = Text.trim raw := by
    intro cell text
    simp only [id, except_map_eq_ok_iff, Text.decode_eq_ok_iff, @eq_comm _ text]
  have headerwise := decodeCellsFrom_eq_ok_iff cellwise 0 row.cells names
  rwa [List.map_id] at headerwise

end Row

end SymbolBindings.Delimited
