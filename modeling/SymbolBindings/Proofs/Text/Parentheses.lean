import SymbolBindings.Proofs.Text.Blank

/-! # Parentheses

A text is read from the left with the number of parentheses that are open. Characters that are not
parentheses leave the number as it is, so what is cut off a text or put around it keeps the balance
as long as no parenthesis goes with it. A cut through a group does not: an open parenthesis is left
to one side and the closing one to the other.
-/

namespace SymbolBindings.Text

/-- How many parentheses are open after the character, unless it closes one where none is open. -/
def nest (opened : Nat) (character : Char) : Option Nat :=
  if character = '(' then some (opened + 1)
  else if character = ')' then (if opened = 0 then none else some (opened - 1))
  else some opened

/-- How many parentheses are open after the text, where `opened` were open before it. -/
def openAfter (opened : Nat) (text : List Char) : Option Nat :=
  text.foldlM nest opened

def IsBalanced (text : List Char) : Prop :=
  openAfter 0 text = some 0

instance (text : List Char) : Decidable (IsBalanced text) :=
  inferInstanceAs (Decidable (openAfter 0 text = some 0))

example : IsBalanced "int (*)(void*, char*, int)".toList := by decide

/-- As many parentheses of either kind are not enough. -/
example : ¬IsBalanced ")(".toList := by decide

/-- The number of commas that stand outside all parentheses. -/
def outerCommas (opened : Nat) : List Char → Nat
  | [] => 0
  | character :: rest =>
      (if character = ',' ∧ opened = 0 then 1 else 0) +
        (nest opened character).elim 0 fun inner => outerCommas inner rest

example : outerCommas 0 "int (*)(void*, char*), ...".toList = 1 := by decide

/-! ## Reading on -/

theorem openAfter_append (opened : Nat) (left right : List Char) :
    openAfter opened (left ++ right) = (openAfter opened left).bind (openAfter · right) :=
  List.foldlM_append

theorem openAfter_cons (opened : Nat) (character : Char) (rest : List Char) :
    openAfter opened (character :: rest) = (nest opened character).bind (openAfter · rest) :=
  List.foldlM_cons

theorem outerCommas_append {opened inner : Nat} {left : List Char}
    (before : openAfter opened left = some inner) (right : List Char) :
    outerCommas opened (left ++ right) = outerCommas opened left + outerCommas inner right := by
  induction left generalizing opened with
  | nil =>
      cases before
      simp [outerCommas]
  | cons character rest induction =>
      rw [openAfter_cons] at before
      rcases Option.bind_eq_some_iff.mp before with ⟨next, nested, behind⟩
      simp only [List.cons_append, outerCommas, nested, Option.elim_some, induction behind]
      omega

/-! ## Characters that are not parentheses -/

def IsParenthesis (character : Char) : Prop :=
  character = '(' ∨ character = ')'

instance (character : Char) : Decidable (IsParenthesis character) :=
  inferInstanceAs (Decidable (character = '(' ∨ character = ')'))

theorem nest_of_not_isParenthesis {character : Char} (plain : ¬IsParenthesis character)
    (opened : Nat) : nest opened character = some opened := by
  rcases not_or.mp plain with ⟨notOpening, notClosing⟩
  rw [nest, if_neg notOpening, if_neg notClosing]

theorem openAfter_of_plain {text : List Char}
    (plain : ∀ character ∈ text, ¬IsParenthesis character) (opened : Nat) :
    openAfter opened text = some opened := by
  induction text with
  | nil => rfl
  | cons character rest induction =>
      rcases List.forall_mem_cons.mp plain with ⟨first, others⟩
      rw [openAfter_cons, nest_of_not_isParenthesis first, Option.bind_some, induction others]

theorem outerCommas_of_notMem {text : List Char} (whole : ',' ∉ text) (opened : Nat) :
    outerCommas opened text = 0 := by
  induction text generalizing opened with
  | nil => rfl
  | cons character rest induction =>
      rcases not_or.mp (List.mem_cons.not.mp whole) with ⟨notComma, others⟩
      rw [outerCommas, if_neg fun comma => notComma comma.1.symm]
      cases nest opened character with
      | none => rfl
      | some inner => rw [Option.elim_some, induction others, Nat.zero_add]

theorem not_isParenthesis_of_isBlank {character : Char} (blank : isBlank character = true) :
    ¬IsParenthesis character := by
  rintro (rfl | rfl) <;> exact absurd blank (by decide)

theorem plain_of_blank {blanks : List Char}
    (blank : ∀ character ∈ blanks, isBlank character = true) :
    ∀ character ∈ blanks, ¬IsParenthesis character := fun character member =>
  not_isParenthesis_of_isBlank (blank character member)

theorem isBalanced_append_plain {before after : List Char}
    (plainBefore : ∀ character ∈ before, ¬IsParenthesis character)
    (plainAfter : ∀ character ∈ after, ¬IsParenthesis character) (text : List Char) :
    IsBalanced (before ++ text ++ after) ↔ IsBalanced text := by
  rw [IsBalanced, openAfter_append, openAfter_append, openAfter_of_plain plainBefore,
    Option.bind_some]
  cases found : openAfter 0 text with
  | none => simp [IsBalanced, found]
  | some inner => rw [Option.bind_some, openAfter_of_plain plainAfter, IsBalanced, found]

theorem isBalanced_trimBy_iff {text : List Char} :
    IsBalanced (trimBy isBlank text) ↔ IsBalanced text := by
  rcases exists_trimBy isBlank text with ⟨before, after, split, blankBefore, blankAfter⟩
  conv_rhs => rw [split]
  exact (isBalanced_append_plain (plain_of_blank blankBefore) (plain_of_blank blankAfter) _).symm

/-! ## Cuts through groups -/

/-- Without a closing parenthesis nothing is closed. -/
theorem le_of_openAfter {text : List Char} (unclosed : ')' ∉ text) {opened inner : Nat}
    (found : openAfter opened text = some inner) : opened ≤ inner := by
  induction text generalizing opened with
  | nil =>
      cases found
      exact Nat.le_refl _
  | cons character rest induction =>
      rcases not_or.mp (List.mem_cons.not.mp unclosed) with ⟨notClosing, others⟩
      rw [openAfter_cons, nest, if_neg (Ne.symm notClosing)] at found
      split at found
      case isTrue =>
        have deeper := induction others found
        omega
      case isFalse => exact induction others found

theorem closing_mem_of_openAfter {opened : Nat} {text : List Char}
    (closed : openAfter (opened + 1) text = some 0) : ')' ∈ text := by
  by_contra unclosed
  have kept := le_of_openAfter unclosed closed
  omega

/-- Where all commas stand inside parentheses, each has an open one before it, which is closed
behind it. -/
theorem exists_opened_at_comma {opened : Nat} {left right : List Char}
    (closed : openAfter opened (left ++ ',' :: right) = some 0)
    (inner : outerCommas opened (left ++ ',' :: right) = 0) :
    ∃ outer, openAfter opened left = some (outer + 1) ∧
      openAfter (outer + 1) right = some 0 ∧ outerCommas (outer + 1) right = 0 := by
  rw [openAfter_append] at closed
  rcases Option.bind_eq_some_iff.mp closed with ⟨reached, before, behind⟩
  rw [outerCommas_append before] at inner
  have comma : nest reached ',' = some reached :=
    nest_of_not_isParenthesis (by decide) reached
  rw [openAfter_cons, comma, Option.bind_some] at behind
  rw [outerCommas, comma, Option.elim_some] at inner
  cases reached with
  | zero => simp at inner
  | succ outer => exact ⟨outer, before, behind, by omega⟩

end SymbolBindings.Text
