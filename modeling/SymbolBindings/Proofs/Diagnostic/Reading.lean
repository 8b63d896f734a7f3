import Mathlib.Tactic
import SymbolBindings.Diagnostic

/-! # Reading a diagnostic back

Without colours a diagnostic is a list of lines, and how a line begins tells which part it shows. So
the parts are read back from the text, unless one of them breaks its line. Nothing but the parts
shows: neither in which order parts of different sorts were added, nor an earlier location.
-/

namespace SymbolBindings.Diagnostic

/-! ## Adding parts -/

/-- What can be added to a diagnostic. -/
inductive Addition
  | context (line : String)
  | suggestion (text : String)
  | location (path : String)

namespace Addition

@[simp]
def context? : Addition → Option String
  | context line => some line
  | suggestion _ | location _ => none

@[simp]
def suggestion? : Addition → Option String
  | suggestion text => some text
  | context _ | location _ => none

@[simp]
def location? : Addition → Option String
  | location path => some path
  | context _ | suggestion _ => none

end Addition

def add (diagnostic : Diagnostic) : Addition → Diagnostic
  | .context line => diagnostic.withContext line
  | .suggestion text => diagnostic.withSuggestion text
  | .location path => diagnostic.withLocation path

def addAll (diagnostic : Diagnostic) (additions : List Addition) : Diagnostic :=
  additions.foldl add diagnostic

theorem addAll_eq (diagnostic : Diagnostic) (additions : List Addition) :
    diagnostic.addAll additions =
      { message := diagnostic.message
        location := (additions.filterMap Addition.location?).getLast?.or diagnostic.location
        context := diagnostic.context ++ additions.filterMap Addition.context?
        suggestions := diagnostic.suggestions ++ additions.filterMap Addition.suggestion? } := by
  induction additions generalizing diagnostic with
  | nil => simp [addAll]
  | cons addition rest induction =>
      change (diagnostic.add addition).addAll rest = _
      rw [induction]
      cases addition with
      | context line => simp [add, withContext, List.filterMap_cons]
      | suggestion text => simp [add, withSuggestion, List.filterMap_cons]
      | location path =>
          -- This location shows only if there is no later one.
          cases later : (rest.filterMap Addition.location?).getLast? <;>
            simp [add, withLocation, List.filterMap_cons, List.getLast?_cons, later]

/-! ## Lines -/

def suggestionLine (number : Nat) (suggestion : String) : String :=
  "  " ++ toString number ++ ". " ++ suggestion

/-- The suggestions, numbered from one, below a line for their heading. -/
def suggestionLines : List String → List String
  | [] => []
  | first :: rest =>
    "" :: "help: consider:" ::
      (first :: rest).mapIdx fun index suggestion => suggestionLine (index + 1) suggestion

/-- The lines by which the parts of a diagnostic are shown. -/
def layout (message : String) (location : Option String) (context suggestions : List String) :
    List String :=
  ("error: " ++ message) ::
    (location.toList.map ("  --> " ++ ·) ++ context.map ("  = " ++ ·) ++
      suggestionLines suggestions)

def lines (diagnostic : Diagnostic) : List String :=
  layout diagnostic.message diagnostic.location diagnostic.context diagnostic.suggestions

theorem numbered_eq (number : Nat) (suggestions : List String) :
    numbered number suggestions =
      String.join ((suggestions.mapIdx fun index suggestion =>
        suggestionLine (index + number) suggestion).map (· ++ "\n")) := by
  induction suggestions generalizing number with
  | nil => rfl
  | cons suggestion rest induction =>
      rw [numbered, induction, List.mapIdx_cons, List.map_cons, String.join_cons, Nat.zero_add]
      simp only [suggestionLine, String.append_assoc, Nat.add_assoc, Nat.add_comm 1]

theorem suggestionBlock_eq (suggestions : List String) :
    suggestionBlock false suggestions =
      String.join ((suggestionLines suggestions).map (· ++ "\n")) := by
  cases suggestions with
  | nil => rfl
  | cons suggestion rest =>
      have block : suggestionBlock false (suggestion :: rest) =
          "" ++ "\n" ++ ("help: consider:" ++ "\n" ++ numbered 1 (suggestion :: rest)) := rfl
      rw [block, suggestionLines, numbered_eq, List.map_cons, List.map_cons, String.join_cons,
        String.join_cons]

theorem locationLine_eq (location : Option String) :
    locationLine location =
      String.join ((location.toList.map ("  --> " ++ ·)).map (· ++ "\n")) := by
  cases location with
  | none => rfl
  | some path => simp [locationLine, String.append_assoc]

/-- A diagnostic without colours is its lines. -/
theorem render_eq (diagnostic : Diagnostic) :
    diagnostic.render false = String.join (diagnostic.lines.map (· ++ "\n")) := by
  rw [render, locationLine_eq, suggestionBlock_eq]
  simp [heading, contextLines, lines, layout, String.append_assoc, Function.comp_def]

/-! ## Reading lines -/

/-- What a line shows that begins with this mark. -/
def partAfter (mark : String) (line : List Char) : Option String :=
  (line.dropPrefix? mark.toList).map String.ofList

/-- What a line shows that begins with a number. -/
def numberedPart (line : List Char) : Option String :=
  (line.dropPrefix? "  ".toList).bind fun rest => partAfter ". " (rest.dropWhile Char.isDigit)

/-- What a line below the first one adds to the diagnostic. -/
def additionOf (line : List Char) : Option Addition :=
  ((partAfter "  --> " line).map .location).or
    (((partAfter "  = " line).map .context).or ((numberedPart line).map .suggestion))

/-- Puts a diagnostic together from the lines of its text. -/
def ofText (text : String) : Diagnostic :=
  let lines := text.toList.splitOn '\n'
  (ofMessage ((lines.head?.bind (partAfter "error: ")).getD "")).addAll
    (lines.tail.filterMap additionOf)

example :
    ofText "error: bad row\n  = at line 2\n\nhelp: consider:\n  1. mend it\n" =
      ⟨"bad row", none, ["at line 2"], ["mend it"]⟩ := by decide

theorem partAfter_append (mark part : String) :
    partAfter mark (mark ++ part).toList = some part := by
  rw [partAfter, String.toList_append, List.dropPrefix?_append_of_beq _ (beq_self_eq_true _),
    Option.map_some, String.ofList_toList]

theorem partAfter_eq_none {mark : String} {line : List Char} (other : ¬mark.toList <+: line) :
    partAfter mark line = none := by
  rw [partAfter, Option.map_eq_none_iff, Option.eq_none_iff_forall_ne_some]
  intro rest found
  rcases List.dropPrefix?_eq_some_iff.mp found with ⟨start, rfl, same⟩
  apply other
  rw [← eq_of_beq same]
  exact List.prefix_append start rest

theorem additionOf_location (path : String) :
    additionOf ("  --> " ++ path).toList = some (.location path) := by
  rw [additionOf, partAfter_append]
  rfl

theorem additionOf_context (line : String) :
    additionOf ("  = " ++ line).toList = some (.context line) := by
  have noLocation : ¬"  --> ".toList <+: ("  = " ++ line).toList := by simp
  rw [additionOf, partAfter_eq_none noLocation, partAfter_append]
  rfl

theorem exists_digits (number : Nat) :
    ∃ digit rest, (toString number).toList = digit :: rest ∧
      ∀ character ∈ digit :: rest, character.isDigit = true := by
  rw [Nat.toString_eq_repr, Nat.toList_repr]
  rcases List.exists_cons_of_ne_nil (Nat.toDigits_ne_nil (n := number) (b := 10)) with
    ⟨digit, rest, digits⟩
  refine ⟨digit, rest, digits, ?_⟩
  intro character member
  rw [← digits] at member
  exact Nat.isDigit_of_mem_toDigits (by decide) (by decide) member

theorem additionOf_suggestionLine (number : Nat) (suggestion : String) :
    additionOf (suggestionLine number suggestion).toList = some (.suggestion suggestion) := by
  rcases exists_digits number with ⟨digit, rest, digits, each⟩
  have shown : (suggestionLine number suggestion).toList =
      "  ".toList ++ (digit :: rest ++ (". " ++ suggestion).toList) := by
    simp only [suggestionLine, String.toList_append, digits, List.append_assoc]
  have numbered : numberedPart (suggestionLine number suggestion).toList = some suggestion := by
    have stops : (". " ++ suggestion).toList.dropWhile Char.isDigit =
        (". " ++ suggestion).toList := by
      simp
    rw [shown, numberedPart, List.dropPrefix?_append_of_beq _ (beq_self_eq_true _),
      Option.bind_some, List.dropWhile_append_of_pos each, stops, partAfter_append]
  -- A digit begins neither of the other marks.
  have first := each digit List.mem_cons_self
  have noLocation : ¬"  --> ".toList <+: (suggestionLine number suggestion).toList := by
    rw [shown]
    rintro ⟨_, same⟩
    simp at same
    rw [← same.1] at first
    cases first
  have noContext : ¬"  = ".toList <+: (suggestionLine number suggestion).toList := by
    rw [shown]
    rintro ⟨_, same⟩
    simp at same
    rw [← same.1] at first
    cases first
  rw [additionOf, partAfter_eq_none noLocation, partAfter_eq_none noContext, numbered]
  rfl

theorem splitOn_flatMap {lines : List (List Char)} (single : ∀ line ∈ lines, '\n' ∉ line) :
    (lines.flatMap (· ++ ['\n'])).splitOn '\n' = lines ++ [[]] := by
  induction lines with
  | nil => rfl
  | cons line rest induction =>
      rcases List.forall_mem_cons.mp single with ⟨first, others⟩
      rw [List.flatMap_cons, List.append_assoc, List.singleton_append,
        List.splitOn_append_cons_self, List.splitOn_eq_singleton first, induction others]
      rfl

theorem filterMap_mapIdx {α β γ : Type} {write : Nat → α → β} {read : β → Option γ} {shown : α → γ}
    (reads : ∀ index item, read (write index item) = some (shown item)) (items : List α) :
    (items.mapIdx write).filterMap read = items.map shown := by
  induction items generalizing write with
  | nil => rfl
  | cons item rest induction =>
      rw [List.mapIdx_cons, List.filterMap_cons_some (reads 0 item),
        induction fun index => reads (index + 1), List.map_cons]

/-! ## Reading back -/

/-- The texts of a diagnostic. -/
def parts (diagnostic : Diagnostic) : List String :=
  diagnostic.message :: diagnostic.location.toList ++ diagnostic.context ++ diagnostic.suggestions

def IsSingleLined (diagnostic : Diagnostic) : Prop :=
  ∀ part ∈ diagnostic.parts, '\n' ∉ part.toList

instance (diagnostic : Diagnostic) : Decidable diagnostic.IsSingleLined :=
  inferInstanceAs (Decidable (∀ part ∈ diagnostic.parts, '\n' ∉ part.toList))

theorem lineFeed_notMem_suggestionLine {number : Nat} {suggestion : String}
    (single : '\n' ∉ suggestion.toList) : '\n' ∉ (suggestionLine number suggestion).toList := by
  rcases exists_digits number with ⟨digit, rest, digits, each⟩
  have notDigit : '\n' ∉ digit :: rest := fun member => absurd (each '\n' member) (by decide)
  simp only [suggestionLine, String.toList_append, digits, List.mem_append, notDigit, single]
  decide

/-- Texts of one line are shown in one line each. -/
theorem lineFeed_notMem_lines {diagnostic : Diagnostic} (single : diagnostic.IsSingleLined) :
    ∀ line ∈ diagnostic.lines, '\n' ∉ line.toList := by
  have marked {mark part : String} (plain : '\n' ∉ mark.toList) (member : part ∈ diagnostic.parts) :
      '\n' ∉ (mark ++ part).toList := by
    rw [String.toList_append, List.mem_append]
    rintro (inMark | inPart)
    · exact plain inMark
    · exact single part member inPart
  intro line member
  rw [lines, layout, List.mem_cons, List.mem_append, List.mem_append] at member
  rcases member with rfl | (location | context) | suggestion
  · exact marked (by decide) (by simp [parts])
  · rcases List.mem_map.mp location with ⟨path, isLocation, rfl⟩
    exact marked (by decide) (by simp [parts, isLocation])
  · rcases List.mem_map.mp context with ⟨line, isContext, rfl⟩
    exact marked (by decide) (by simp [parts, isContext])
  · cases suggested : diagnostic.suggestions with
    | nil =>
        rw [suggested] at suggestion
        cases suggestion
    | cons first rest =>
        rw [suggested, suggestionLines, List.mem_cons, List.mem_cons, List.mem_mapIdx] at suggestion
        rcases suggestion with rfl | rfl | ⟨index, bound, rfl⟩
        · decide
        · decide
        · apply lineFeed_notMem_suggestionLine
          apply single
          rw [parts, suggested]
          exact List.mem_append_right _ (List.getElem_mem bound)

/-- The lines below the first one show the location, the context lines and the suggestions. -/
theorem filterMap_additionOf_lines (diagnostic : Diagnostic) :
    (diagnostic.lines.tail.map String.toList).filterMap additionOf =
      diagnostic.location.toList.map .location ++ diagnostic.context.map .context ++
        diagnostic.suggestions.map .suggestion := by
  have suggestions : (suggestionLines diagnostic.suggestions).filterMap (additionOf ·.toList) =
      diagnostic.suggestions.map .suggestion := by
    cases diagnostic.suggestions with
    | nil => rfl
    | cons first rest =>
        have blank : additionOf "".toList = none := by decide
        have heading : additionOf "help: consider:".toList = none := by decide
        simp only [suggestionLines, List.filterMap_cons, blank, heading]
        apply filterMap_mapIdx
        intro index suggestion
        exact additionOf_suggestionLine (index + 1) suggestion
  simp only [lines, layout, List.tail_cons, List.filterMap_map, List.filterMap_append,
    Function.comp_def, additionOf_location, additionOf_context, suggestions]
  simp

/-- A diagnostic of single lines is read back. -/
theorem ofText_render {diagnostic : Diagnostic} (single : diagnostic.IsSingleLined) :
    ofText (diagnostic.render false) = diagnostic := by
  have text : (diagnostic.render false).toList =
      (diagnostic.lines.map String.toList).flatMap (· ++ ['\n']) := by
    rw [render_eq, String.toList_join, List.flatMap_map, List.flatMap_map]
    simp
  have cut : (diagnostic.render false).toList.splitOn '\n' =
      diagnostic.lines.map String.toList ++ [[]] := by
    rw [text]
    apply splitOn_flatMap
    simpa using lineFeed_notMem_lines single
  have first : partAfter "error: " ("error: " ++ diagnostic.message).toList =
      some diagnostic.message := partAfter_append _ _
  have below : (diagnostic.lines.tail.map String.toList ++ [[]]).filterMap additionOf =
      diagnostic.location.toList.map .location ++ diagnostic.context.map .context ++
        diagnostic.suggestions.map .suggestion := by
    rw [List.filterMap_append, filterMap_additionOf_lines]
    exact List.append_nil _
  have headed : diagnostic.lines.map String.toList ++ [[]] =
      ("error: " ++ diagnostic.message).toList ::
        (diagnostic.lines.tail.map String.toList ++ [[]]) := rfl
  rw [ofText, cut, headed]
  simp only [List.head?_cons, Option.bind_some, first, Option.getD_some, List.tail_cons, below]
  have only : diagnostic.location.toList.getLast? = diagnostic.location := by
    cases diagnostic.location <;> rfl
  rw [addAll_eq]
  simp [ofMessage, List.filterMap_append, List.filterMap_map, Function.comp_def, only]

end SymbolBindings.Diagnostic
