import Mathlib.Data.List.Basic

/-! # Stops

Where a text is followed by the first character of a certain kind, it can be told from whatever
comes after it.
-/

namespace SymbolBindings.Text

/-- Texts without a stop are the same if they are so up to the first stop after them. -/
theorem append_stop_inj {stops : Char → Bool} {left right rest other : List Char}
    {stop halt : Char} (leftFree : ∀ character ∈ left, stops character = false)
    (rightFree : ∀ character ∈ right, stops character = false)
    (stopStops : stops stop = true) (haltStops : stops halt = true)
    (same : left ++ stop :: rest = right ++ halt :: other) :
    left = right ∧ stop :: rest = halt :: other := by
  induction left generalizing right with
  | nil =>
      cases right with
      | nil => exact ⟨rfl, same⟩
      | cons first after =>
          have firstFree := rightFree first List.mem_cons_self
          rw [← (List.cons_eq_cons.mp same).1, stopStops] at firstFree
          cases firstFree
  | cons first after induction =>
      rcases List.forall_mem_cons.mp leftFree with ⟨firstFree, afterFree⟩
      cases right with
      | nil =>
          rw [(List.cons_eq_cons.mp same).1, haltStops] at firstFree
          cases firstFree
      | cons second others =>
          rcases List.cons_eq_cons.mp same with ⟨rfl, sameAfter⟩
          rcases induction afterFree (List.forall_mem_cons.mp rightFree).2 sameAfter with
            ⟨equal, rests⟩
          exact ⟨congrArg (first :: ·) equal, rests⟩

theorem append_cons_inj {left right rest other : List Char} {stop : Char}
    (leftFree : stop ∉ left) (rightFree : stop ∉ right)
    (same : left ++ stop :: rest = right ++ stop :: other) : left = right ∧ rest = other := by
  have free : ∀ {text : List Char}, stop ∉ text →
      ∀ character ∈ text, (character == stop) = false := by
    intro text absent character member
    exact beq_false_of_ne fun equal => absent (equal ▸ member)
  have stops : (stop == stop) = true := beq_self_eq_true stop
  rcases append_stop_inj (free leftFree) (free rightFree) stops stops same with ⟨equal, rests⟩
  exact ⟨equal, (List.cons_eq_cons.mp rests).2⟩

/-! ## Lists in parentheses -/

/-- A piece of a list is there, and holds nothing that separates pieces or ends the list. -/
structure IsPiece (piece : List Char) : Prop where
  nonempty : piece ≠ []
  noComma : ',' ∉ piece
  noParenthesis : ')' ∉ piece

private def endsPiece (character : Char) : Bool :=
  character == ',' || character == ')'

private theorem IsPiece.free {piece : List Char} (solid : IsPiece piece) :
    ∀ character ∈ piece, endsPiece character = false := by
  intro character member
  have notComma : character ≠ ',' := fun equal => solid.noComma (equal ▸ member)
  have notParenthesis : character ≠ ')' := fun equal => solid.noParenthesis (equal ▸ member)
  simp [endsPiece, notComma, notParenthesis]

/-- What follows the first piece of a list, with `rest` behind the list. -/
private def afterPiece (rest : List Char) : List (List Char) → List Char
  | [] => ')' :: rest
  | piece :: pieces => ',' :: ' ' :: (piece ++ afterPiece rest pieces)

private theorem intercalate_append (piece : List Char) (pieces : List (List Char))
    (rest : List Char) :
    [',', ' '].intercalate (piece :: pieces) ++ ')' :: rest =
      piece ++ afterPiece rest pieces := by
  induction pieces generalizing piece with
  | nil => simp [afterPiece]
  | cons second others induction =>
      rw [List.intercalate_cons_cons, afterPiece, List.append_assoc, induction]
      simp

private theorem exists_afterPiece (rest : List Char) (pieces : List (List Char)) :
    ∃ stop after, endsPiece stop = true ∧ afterPiece rest pieces = stop :: after := by
  cases pieces with
  | nil => exact ⟨')', rest, rfl, rfl⟩
  | cons piece pieces => exact ⟨',', _, rfl, rfl⟩

private theorem append_afterPiece_inj {piece second rest other : List Char}
    {pieces others : List (List Char)} (solid : IsPiece piece) (secondSolid : IsPiece second)
    (same : piece ++ afterPiece rest pieces = second ++ afterPiece other others) :
    piece = second ∧ afterPiece rest pieces = afterPiece other others := by
  rcases exists_afterPiece rest pieces with ⟨stop, after, stops, split⟩
  rcases exists_afterPiece other others with ⟨halt, behind, halts, otherSplit⟩
  rw [split, otherSplit] at same ⊢
  exact append_stop_inj solid.free secondSolid.free stops halts same

private theorem afterPiece_inj {left right : List (List Char)} {rest other : List Char}
    (leftSolid : ∀ piece ∈ left, IsPiece piece) (rightSolid : ∀ piece ∈ right, IsPiece piece)
    (same : afterPiece rest left = afterPiece other right) : left = right ∧ rest = other := by
  induction left generalizing right with
  | nil =>
      cases right with
      | nil => exact ⟨rfl, (List.cons_eq_cons.mp same).2⟩
      | cons => cases (List.cons_eq_cons.mp same).1
  | cons piece pieces induction =>
      cases right with
      | nil => cases (List.cons_eq_cons.mp same).1
      | cons second others =>
          rcases List.forall_mem_cons.mp leftSolid with ⟨solid, restSolid⟩
          rcases List.forall_mem_cons.mp rightSolid with ⟨secondSolid, othersSolid⟩
          have pieceOn := (List.cons_eq_cons.mp (List.cons_eq_cons.mp same).2).2
          rcases append_afterPiece_inj solid secondSolid pieceOn with ⟨rfl, sameAfter⟩
          rcases induction restSolid othersSolid sameAfter with ⟨rfl, rests⟩
          exact ⟨rfl, rests⟩

/-- The pieces of a list in parentheses can be told from its text. -/
theorem intercalate_append_inj {left right : List (List Char)} {rest other : List Char}
    (leftSolid : ∀ piece ∈ left, IsPiece piece) (rightSolid : ∀ piece ∈ right, IsPiece piece)
    (same : [',', ' '].intercalate left ++ ')' :: rest =
      [',', ' '].intercalate right ++ ')' :: other) :
    left = right ∧ rest = other := by
  -- An empty list is the closing parenthesis alone, with which no piece begins.
  have closesEarly : ∀ {piece pieces rest other}, IsPiece piece →
      [',', ' '].intercalate (piece :: pieces) ++ ')' :: rest ≠ ')' :: other := by
    intro piece pieces rest other solid closed
    rcases List.exists_cons_of_ne_nil solid.nonempty with ⟨first, after, rfl⟩
    rw [intercalate_append, List.cons_append] at closed
    exact solid.noParenthesis ((List.cons_eq_cons.mp closed).1 ▸ List.mem_cons_self)
  cases left with
  | nil =>
      cases right with
      | nil => exact ⟨rfl, (List.cons_eq_cons.mp same).2⟩
      | cons second others => exact absurd same.symm (closesEarly (rightSolid second (by simp)))
  | cons piece pieces =>
      cases right with
      | nil => exact absurd same (closesEarly (leftSolid piece (by simp)))
      | cons second others =>
          rcases List.forall_mem_cons.mp leftSolid with ⟨solid, restSolid⟩
          rcases List.forall_mem_cons.mp rightSolid with ⟨secondSolid, othersSolid⟩
          rw [intercalate_append, intercalate_append] at same
          rcases append_afterPiece_inj solid secondSolid same with ⟨rfl, sameAfter⟩
          rcases afterPiece_inj restSolid othersSolid sameAfter with ⟨rfl, rests⟩
          exact ⟨rfl, rests⟩

end SymbolBindings.Text
