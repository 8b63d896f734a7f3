import SymbolBindings.Proofs.Delimited.Continuing

/-! # Where rows start

A row knows the line on which the row before it ended. Between that end and the row's first octet
stand the line ends of blank lines and, where a line end is written as two octets, the second of
them.
-/

namespace SymbolBindings.Delimited

/-! ## Lines -/

/-- How many carriage returns have no line feed right after them. -/
def loneReturns : List UInt8 → Nat
  | [] => 0
  | octet :: rest =>
    loneReturns rest + if octet = carriageReturn ∧ rest.head? ≠ some lineFeed then 1 else 0

/-- How many lines end in the octets: with a line feed, with a carriage return, or with both in
this order, which end one line. -/
def lineEnds (octets : List UInt8) : Nat :=
  octets.count lineFeed + loneReturns octets

example : lineEnds (Text.octets "a\r\n\n\"b\rc\"\r") = 4 := by decide

/-- Lone returns add up, unless what follows starts with a line feed for the last of them. -/
theorem loneReturns_append_of_head {front rest : List UInt8} (apart : rest.head? ≠ some lineFeed) :
    loneReturns (front ++ rest) = loneReturns front + loneReturns rest := by
  induction front with
  | nil => simp [loneReturns]
  | cons octet others induction =>
      rw [List.cons_append, loneReturns, loneReturns, induction]
      have same : (others ++ rest).head? ≠ some lineFeed ↔ others.head? ≠ some lineFeed := by
        cases others with
        | nil => simpa using apart
        | cons => rfl
      simp only [same]
      omega

/-- A gap of line ends adds no line only if there is no gap. -/
theorem lineEnds_append_eq_count_iff {above gap : List UInt8}
    (blank : ∀ octet ∈ gap, isLineEnd octet = true) :
    lineEnds (above ++ gap) = above.count lineFeed ↔ gap = [] ∧ loneReturns above = 0 := by
  rw [lineEnds, List.count_append]
  constructor
  · intro same
    have noFeed : lineFeed ∉ gap := List.count_eq_zero.mp (by omega)
    have apart : gap.head? ≠ some lineFeed := fun first => noFeed (List.mem_of_mem_head? first)
    rw [loneReturns_append_of_head apart] at same
    refine ⟨?_, by omega⟩
    -- Without line feeds a gap is made of carriage returns, each of which is alone.
    cases gap with
    | nil => rfl
    | cons octet rest =>
        have isReturn : octet = carriageReturn := by
          have ends := blank octet List.mem_cons_self
          rw [isLineEnd, Bool.or_eq_true, beq_iff_eq, beq_iff_eq] at ends
          exact ends.resolve_left fun isFeed => noFeed (isFeed ▸ List.mem_cons_self)
        have restApart : rest.head? ≠ some lineFeed := fun first =>
          noFeed (List.mem_cons_of_mem _ (List.mem_of_mem_head? first))
        rw [loneReturns, if_pos ⟨isReturn, restApart⟩] at same
        omega
  · rintro ⟨rfl, none⟩
    simp [none]

/-! ## Steps of the scanner -/

namespace Scanner

/-- The scanner after some octets. -/
def advance (scanner : Scanner) (front : List UInt8) : Scanner :=
  front.foldl (fun scanner octet => (scanner.step octet).1) scanner

/-- All a step can do: pass a line end between rows, end a row, or go on within a row. -/
inductive Stepped (scanner : Scanner) (octet : UInt8) : Scanner × Option Row → Prop
  | passes (between : scanner.mode = .betweenRows) (ends : isLineEnd octet = true) :
      Stepped scanner octet (scanner.count octet, none)
  | ends (within : scanner.mode ≠ .betweenRows) (ends : isLineEnd octet = true) :
      Stepped scanner octet ((scanner.count octet).afterRow, some (scanner.count octet).row)
  | goesOn {next : Scanner} (within : next.mode ≠ .betweenRows)
      (line : next.line = (scanner.count octet).line) (begun : next.begun = scanner.begun)
      (opens : scanner.mode = .betweenRows → isLineEnd octet = false) :
      Stepped scanner octet (next, none)

theorem mode_count (scanner : Scanner) (octet : UInt8) :
    (scanner.count octet).mode = scanner.mode := by
  unfold count
  split <;> rfl

theorem begun_count (scanner : Scanner) (octet : UInt8) :
    (scanner.count octet).begun = scanner.begun := by
  unfold count
  split <;> rfl

theorem line_count (scanner : Scanner) (octet : UInt8) :
    (scanner.count octet).line = scanner.line + [octet].count lineFeed := by
  unfold count
  split
  case isTrue isFeed => simp [isFeed]
  case isFalse notFeed => simp [notFeed]

theorem stepped_unprotected {scanner : Scanner} {octet : UInt8}
    (opens : scanner.mode = .betweenRows → isLineEnd octet = false) :
    Stepped scanner octet ((scanner.count octet).unprotected octet) := by
  have begun := begun_count scanner octet
  unfold unprotected
  split
  case isTrue => exact .goesOn (fun between => by cases between) rfl begun opens
  case isFalse =>
    split
    case isTrue ends =>
      refine .ends (fun between => ?_) ends
      rw [opens between] at ends
      cases ends
    case isFalse => exact .goesOn (fun between => by cases between) rfl begun opens

theorem stepped_opening {scanner : Scanner} {octet : UInt8}
    (opens : scanner.mode = .betweenRows → isLineEnd octet = false) :
    Stepped scanner octet ((scanner.count octet).opening octet) := by
  unfold opening
  split
  case isTrue =>
    exact .goesOn (fun between => by cases between) rfl (begun_count scanner octet) opens
  case isFalse => exact stepped_unprotected opens

theorem stepped_step (scanner : Scanner) (octet : UInt8) :
    Stepped scanner octet (scanner.step octet) := by
  have begun := begun_count scanner octet
  -- Everything but a line end between rows belongs to a row or ends one.
  by_cases opens : scanner.mode = .betweenRows → isLineEnd octet = false
  · unfold step
    simp only [mode_count]
    split
    case h_1 between =>
      rw [if_neg (Bool.eq_false_iff.mp (opens between))]
      exact stepped_opening opens
    case h_2 => exact stepped_opening opens
    case h_3 => exact stepped_unprotected opens
    case h_4 =>
      split
      case isTrue => exact .goesOn (fun between => by cases between) rfl begun opens
      case isFalse => exact .goesOn (fun between => by cases between) rfl begun opens
    case h_5 =>
      split
      case isTrue => exact .goesOn (fun between => by cases between) rfl begun opens
      case isFalse => exact stepped_unprotected opens
  · rw [Classical.not_imp, Bool.not_eq_false] at opens
    have passed : scanner.step octet = (scanner.count octet, none) := by
      simp only [step, mode_count, opens.1, opens.2, if_true]
    rw [passed]
    exact .passes opens.1 opens.2

/-! ## Runs of the scanner -/

theorem scan_append (complete : Bool) (scanner : Scanner) (front rest : List UInt8) :
    scan complete scanner (front ++ rest) =
      scan false scanner front ++ scan complete (scanner.advance front) rest := by
  induction front generalizing scanner with
  | nil => rfl
  | cons octet others induction =>
      rw [List.cons_append, scan, scan, advance, List.foldl_cons]
      rcases scanner.step octet with ⟨next, _ | row⟩
      · exact induction next
      · exact congrArg (row :: ·) (induction next)

theorem advance_append_singleton (scanner : Scanner) (front : List UInt8) (octet : UInt8) :
    scanner.advance (front ++ [octet]) = ((scanner.advance front).step octet).1 := by
  rw [advance, List.foldl_append]
  rfl

theorem scan_append_singleton (scanner : Scanner) (front : List UInt8) (octet : UInt8) :
    scan false scanner (front ++ [octet]) =
      scan false scanner front ++ ((scanner.advance front).step octet).2.toList := by
  rw [scan_append, scan]
  rcases (scanner.advance front).step octet with ⟨next, _ | row⟩ <;> rfl

/-- The end of the text ends one row more, unless the scanner is between rows. -/
theorem length_scan_true (scanner : Scanner) (front : List UInt8) :
    (scan true scanner front).length = (scan false scanner front).length +
      if (scanner.advance front).mode = .betweenRows then 0 else 1 := by
  have whole := scan_append true scanner front []
  rw [List.append_nil] at whole
  rw [whole, List.length_append, scan, if_pos rfl, finish]
  split
  case h_1 between => rw [if_pos between]; rfl
  case h_2 within => rw [if_neg within]; rfl

theorem line_advance (scanner : Scanner) (front : List UInt8) :
    (scanner.advance front).line = scanner.line + front.count lineFeed := by
  induction front using List.reverseRecOn with
  | nil => rfl
  | append_singleton others octet induction =>
      rw [advance_append_singleton, List.count_append, ← Nat.add_assoc, ← induction,
        ← line_count]
      have stepped := stepped_step (scanner.advance others) octet
      generalize (scanner.advance others).step octet = result at stepped ⊢
      cases stepped with
      | passes => rfl
      | ends => rfl
      | goesOn _ line => exact line

/-- A scanner that has ended a row remembers the line on which the last one ended, and all it has
passed since, if it is between rows, are line ends. -/
theorem exists_last_end {scanner : Scanner} {front : List UInt8}
    (ended : scan false scanner front ≠ []) :
    ∃ before last gap, front = before ++ [last] ++ gap ∧
      (scan false scanner before).length + 1 = (scan false scanner front).length ∧
      (scan false scanner (before ++ [last])).length = (scan false scanner front).length ∧
      (scanner.advance front).begun = scanner.line + (before ++ [last]).count lineFeed ∧
      ((scanner.advance front).mode = .betweenRows → ∀ octet ∈ gap, isLineEnd octet = true) := by
  induction front using List.reverseRecOn with
  | nil => exact absurd rfl ended
  | append_singleton others octet induction =>
      have stepped := stepped_step (scanner.advance others) octet
      have line := line_advance scanner (others ++ [octet])
      rw [advance_append_singleton] at line ⊢
      rw [scan_append_singleton] at ended ⊢
      generalize taken : (scanner.advance others).step octet = result at stepped line ended ⊢
      cases stepped with
      | passes between ends =>
          simp only [Option.toList_none, List.append_nil] at ended ⊢
          rcases induction ended with ⟨before, last, gap, rfl, fewer, same, begun, blank⟩
          refine ⟨before, last, gap ++ [octet], by simp, fewer, same, ?_, fun _ => ?_⟩
          · rw [begun_count, begun]
          · rw [List.forall_mem_append, List.forall_mem_singleton]
            exact ⟨blank between, ends⟩
      | ends within ends =>
          refine ⟨others, octet, [], by simp, by simp, ?_, line, by simp⟩
          rw [scan_append_singleton, taken]
      | goesOn within _ begunSame =>
          simp only [Option.toList_none, List.append_nil] at ended ⊢
          rcases induction ended with ⟨before, last, gap, rfl, fewer, same, begun, -⟩
          exact ⟨before, last, gap ++ [octet], by simp, fewer, same, begunSame.trans begun,
            fun between => absurd between within⟩

/-- After these octets the scanner is between rows and has ended `index` of them, and the next octet
opens another. -/
structure Opens (scanner : Scanner) (index : Nat) (front : List UInt8) (first : UInt8) : Prop where
  between : (scanner.advance front).mode = .betweenRows
  opens : isLineEnd first = false
  count : (scan false scanner front).length = index

theorem Opens.cons {scanner next : Scanner} {index : Nat} {octet first : UInt8} {row : Option Row}
    {front : List UInt8} (opening : next.Opens index front first)
    (stepped : scanner.step octet = (next, row)) :
    scanner.Opens (index + row.toList.length) (octet :: front) first where
  between := by
    rw [advance, List.foldl_cons, stepped]
    exact opening.between
  opens := opening.opens
  count := by
    rw [scan, stepped, ← opening.count]
    cases row <;> rfl

/-- An octet opens a row exactly if with it the text has one more. -/
theorem opens_iff {scanner : Scanner} {index : Nat} {front : List UInt8} {first : UInt8} :
    scanner.Opens index front first ↔
      (scan true scanner front).length = index ∧
        (scan true scanner (front ++ [first])).length = index + 1 := by
  have stepped := stepped_step (scanner.advance front) first
  rw [length_scan_true, length_scan_true, advance_append_singleton, scan_append_singleton,
    List.length_append]
  generalize (scanner.advance front).step first = result at stepped ⊢
  constructor
  · rintro ⟨between, opens, rfl⟩
    cases stepped with
    | passes _ ends => simp [opens] at ends
    | ends within => exact absurd between within
    | goesOn within => simp [between, within]
  · rintro ⟨counted, more⟩
    cases stepped with
    | passes between ends =>
        rw [if_pos between] at counted
        simp [mode_count, between, counted] at more
    | ends within ends =>
        rw [if_neg within] at counted
        simp [afterRow, counted] at more
    | goesOn within line begun opens =>
        simp only [Option.toList_none, List.length_nil, if_neg within] at more
        have between : (scanner.advance front).mode = .betweenRows := by
          by_contra inside
          rw [if_neg inside] at counted
          omega
        exact ⟨between, opens between, by omega⟩

/-- Every row but the one the scanner is in is opened by one of the octets. -/
theorem exists_opens {scanner : Scanner} {octets : List UInt8} {index : Nat}
    (later : scanner.mode ≠ .betweenRows → index ≠ 0)
    (found : index < (scan true scanner octets).length) :
    ∃ front first rest, octets = front ++ first :: rest ∧ scanner.Opens index front first := by
  induction octets generalizing scanner index with
  | nil =>
      rw [length_scan_true] at found
      split at found
      case isTrue => exact absurd found (Nat.not_lt_zero _)
      case isFalse within => exact absurd (Nat.lt_one_iff.mp found) (later within)
  | cons octet others induction =>
      have stepped := stepped_step scanner octet
      rw [scan] at found
      generalize taken : scanner.step octet = result at stepped found
      cases stepped with
      | passes between ends =>
          have still := (mode_count scanner octet).trans between
          rcases induction (fun within => absurd still within) found with
            ⟨front, first, rest, rfl, opening⟩
          exact ⟨_, first, rest, rfl, opening.cons taken⟩
      | ends within ends =>
          rcases Nat.exists_eq_succ_of_ne_zero (later within) with ⟨before, rfl⟩
          rcases induction (fun elsewhere => absurd rfl elsewhere)
            (Nat.lt_of_succ_lt_succ found) with ⟨front, first, rest, rfl, opening⟩
          exact ⟨_, first, rest, rfl, opening.cons taken⟩
      | goesOn within line begun opens =>
          -- The octet opens the row asked for, or belongs to a row above it.
          by_cases here : scanner.mode = .betweenRows ∧ index = 0
          · exact ⟨[], octet, others, rfl, here.1, opens here.1, here.2.symm⟩
          · have inside : index ≠ 0 := fun first =>
              here ⟨by_contra fun elsewhere => later elsewhere first, first⟩
            rcases induction (fun _ => inside) found with ⟨front, first, rest, rfl, opening⟩
            exact ⟨_, first, rest, rfl, opening.cons taken⟩

theorem line_of_within {scanner : Scanner} {octets : List UInt8} {row : Row}
    (within : scanner.mode ≠ .betweenRows) (found : row ∈ (scan true scanner octets).head?) :
    row.line = scanner.begun := by
  induction octets generalizing scanner with
  | nil =>
      rw [scan, if_pos rfl, finish] at found
      split at found
      case h_1 between => exact absurd between within
      case h_2 =>
        cases found
        rfl
  | cons octet others induction =>
      have stepped := stepped_step scanner octet
      rw [scan] at found
      generalize scanner.step octet = result at stepped found
      cases stepped with
      | passes between => exact absurd between within
      | ends =>
          cases found
          exact begun_count scanner octet
      | goesOn within line begun => exact (induction within found).trans begun

/-- The row that an octet opens has the line that the scanner remembers then. -/
theorem Opens.line_eq {scanner : Scanner} {index : Nat} {front rest : List UInt8} {first : UInt8}
    (opening : scanner.Opens index front first) {row : Row}
    (found : (scan true scanner (front ++ first :: rest))[index]? = some row) :
    row.line = (scanner.advance front).begun := by
  rw [scan_append, List.getElem?_append_right (Nat.le_of_eq opening.count), opening.count,
    Nat.sub_self, scan] at found
  have stepped := stepped_step (scanner.advance front) first
  generalize (scanner.advance front).step first = result at stepped found
  cases stepped with
  | passes _ ends => simp [opening.opens] at ends
  | ends within => exact absurd opening.between within
  | goesOn within line begun =>
      rw [← List.head?_eq_getElem?] at found
      exact (line_of_within within found).trans begun

end Scanner

/-! ## Rows of a text -/

/-- The row at `index` starts right after `front`, because with one octet more there is one row
more. -/
def RowStarts (octets : List UInt8) (index : Nat) (front : List UInt8) : Prop :=
  ∃ first rest, octets = front ++ first :: rest ∧
    (rows true front).length = index ∧ (rows true (front ++ [first])).length = index + 1

/-- The row at `index` ends with the last octet of `above`, whatever follows. -/
def RowEnds (index : Nat) (above : List UInt8) : Prop :=
  ∃ before last, above = before ++ [last] ∧
    (rows false before).length = index ∧ (rows false above).length = index + 1

/-- A text may start with a byte order mark, and then its rows are those after the mark. -/
structure Leads (lead text : List UInt8) : Prop where
  lead_eq : lead = [] ∨ lead = mark
  rows_eq : ∀ front, front <+: text → ∀ complete,
    rows complete (lead ++ front) = Scanner.start.scan complete front

theorem exists_leads (octets : List UInt8) :
    ∃ lead, octets = lead ++ withoutMark octets ∧ Leads lead (withoutMark octets) := by
  by_cases marked : mark <+: octets
  · rcases marked with ⟨text, rfl⟩
    exact ⟨mark, rfl, .inr rfl, fun front _ complete => rfl⟩
  · have whole := withoutMark_of_not_prefix marked
    rw [whole]
    refine ⟨[], rfl, .inl rfl, fun front start complete => ?_⟩
    rw [List.nil_append, rows,
      withoutMark_of_not_prefix fun markedFront => marked (markedFront.trans start)]

theorem length_rows_of_prefix_mark {front : List UInt8} (start : front <+: mark) :
    (rows true front).length ≤ 1 := by
  rw [List.prefix_iff_eq_take.mp start]
  have short : front.length ≤ 3 := start.length_le
  interval_cases front.length <;> decide

/-- A row that is not the first starts after the mark. -/
theorem RowStarts.exists_opens {octets front : List UInt8} {index : Nat}
    (starts : RowStarts octets (index + 1) front) :
    ∃ lead text first rest, front = lead ++ text ∧
      withoutMark octets = text ++ first :: rest ∧ Leads lead (withoutMark octets) ∧
      Scanner.start.Opens (index + 1) text first := by
  rcases starts with ⟨first, rest, whole, fewer, more⟩
  rcases exists_leads octets with ⟨lead, split, leads⟩
  have startsSo : lead <+: front := by
    rcases leads.lead_eq with rfl | rfl
    · exact List.nil_prefix
    · -- Within the mark there is one row at most, and here are two.
      have oneMore : front ++ [first] <+: octets := ⟨rest, by simp [whole]⟩
      have long : ¬front ++ [first] <+: mark := fun short => by
        have few := length_rows_of_prefix_mark short
        omega
      rcases List.prefix_or_prefix_of_prefix ⟨_, split.symm⟩ oneMore with marked | short
      · rcases List.prefix_concat_iff.mp marked with same | marked
        · exact absurd (same ▸ List.prefix_rfl) long
        · exact marked
      · exact absurd short long
  rcases startsSo with ⟨text, rfl⟩
  rw [List.append_assoc] at whole more
  have textSplit := List.append_cancel_left (split.symm.trans whole)
  refine ⟨lead, text, first, rest, rfl, textSplit, leads, ?_⟩
  rw [leads.rows_eq _ ⟨_, textSplit.symm⟩] at fewer
  rw [leads.rows_eq _ ⟨rest, by simp [textSplit]⟩] at more
  exact Scanner.opens_iff.mpr ⟨fewer, more⟩

theorem exists_rowStarts {octets : List UInt8} {index : Nat}
    (found : index < (rows true octets).length) : ∃ front, RowStarts octets index front := by
  rcases exists_leads octets with ⟨lead, split, leads⟩
  have fresh : Scanner.start.mode ≠ .betweenRows → index ≠ 0 := fun within => absurd rfl within
  rcases Scanner.exists_opens fresh found with ⟨text, first, rest, textSplit, opening⟩
  rcases Scanner.opens_iff.mp opening with ⟨fewer, more⟩
  refine ⟨lead ++ text, first, rest, by rw [List.append_assoc, ← textSplit, ← split], ?_, ?_⟩
  · rw [leads.rows_eq _ ⟨_, textSplit.symm⟩, fewer]
  · rw [List.append_assoc, leads.rows_eq _ ⟨rest, by simp [textSplit]⟩, more]

/-- A row has the line on which the row before it ended, and only line ends stand between the two
rows. -/
theorem RowStarts.exists_gap {octets front : List UInt8} {index : Nat}
    (starts : RowStarts octets (index + 1) front) {row : Row}
    (found : (rows true octets)[index + 1]? = some row) :
    ∃ above gap, front = above ++ gap ∧ RowEnds index above ∧
      (∀ octet ∈ gap, isLineEnd octet = true) ∧ row.line = 1 + above.count lineFeed := by
  rcases starts.exists_opens with ⟨lead, text, first, rest, rfl, split, leads, opening⟩
  have nonempty : Scanner.scan false .start text ≠ [] := by
    apply List.ne_nil_of_length_pos
    rw [opening.count]
    exact Nat.succ_pos index
  rcases Scanner.exists_last_end nonempty with ⟨before, last, gap, rfl, fewer, same, begun, blank⟩
  rw [opening.count] at fewer same
  rw [rows, split] at found
  have unmarked : (lead ++ (before ++ [last])).count lineFeed =
      (before ++ [last]).count lineFeed := by
    rcases leads.lead_eq with rfl | rfl <;> rfl
  refine ⟨lead ++ (before ++ [last]), gap, by simp, ⟨lead ++ before, last, by simp, ?_, ?_⟩,
    blank opening.between, ?_⟩
  · rw [leads.rows_eq before ⟨_, by rw [split, List.append_assoc, List.append_assoc]⟩]
    exact Nat.succ.inj fewer
  · rw [leads.rows_eq _ ⟨_, by rw [split, List.append_assoc _ gap]⟩, same]
  · rw [opening.line_eq found, begun, unmarked]
    rfl

end SymbolBindings.Delimited
