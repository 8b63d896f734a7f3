import SymbolBindings.Proofs.Generate.Counting

/-! # Omission

Symbols that are passed over leave nothing behind but a count. A run over the items without them
writes the same and ends in the same way, although it takes fewer steps, and of a hidden symbol not
even the count tells more than that it was there.
-/

namespace SymbolBindings.Generate

/-- Nothing is declared of the symbol, and the run goes on. -/
inductive PassedOver (options : Options) (symbol : Symbol) : Prop
  | hidden (kept : symbol.exported = false)
  | unmatched (exported : symbol.exported = true)
      (rejected : options.matcher.accepts symbol.name = false)
  | unsupported (lenient : options.policy = .skip) (exported : symbol.exported = true)
      (accepted : options.matcher.accepts symbol.name = true)
      (foreign : symbol.kind.isDeclarable = false)

/-- `remaining` are the items without some symbols that are passed over. -/
inductive Omits (options : Options) : List Item → List Symbol → List Item → Prop
  | nil : Omits options [] [] []
  | keep {items remaining : List Item} {omitted : List Symbol} (item : Item) :
      Omits options items omitted remaining →
      Omits options (item :: items) omitted (item :: remaining)
  | drop {items remaining : List Item} {omitted : List Symbol} {symbol : Symbol} :
      PassedOver options symbol → Omits options items omitted remaining →
      Omits options (.ok symbol :: items) (symbol :: omitted) remaining

/-- The summary with symbols counted besides, each under the reason to pass it over. -/
def Summary.counting (summary : Summary) (matcher : Matcher) (omitted : List Symbol) : Summary :=
  { summary with
    hidden := summary.hidden + omitted.countP fun symbol => !symbol.exported
    unmatched := summary.unmatched + omitted.countP fun symbol =>
      symbol.exported && !matcher.accepts symbol.name
    unsupported := summary.unsupported + omitted.countP fun symbol =>
      symbol.exported && matcher.accepts symbol.name && !symbol.kind.isDeclarable }

def Summary.skipped (summary : Summary) : Nat :=
  summary.hidden + summary.unmatched + summary.unsupported

/-- Two items of which nothing but being hidden may differ. -/
inductive SameButHidden : Item → Item → Prop
  | same (item : Item) : SameButHidden item item
  | hidden {left right : Symbol} (leftKept : left.exported = false)
      (rightKept : right.exported = false) : SameButHidden (.ok left) (.ok right)

/-! ## Two runs side by side -/

/-- The run that stands at `whole` has met the symbols `met` besides what led the other run to
`less`. -/
structure Surplus (matcher : Matcher) (met : List Symbol) (whole less : Progress) : Prop where
  seen : whole.seen = less.seen + met.length
  exported : whole.exported = less.exported + met.countP fun symbol => symbol.exported
  unmatched : whole.unmatched = less.unmatched + met.countP fun symbol =>
    symbol.exported && !matcher.accepts symbol.name
  unsupported : whole.unsupported = less.unsupported + met.countP fun symbol =>
    symbol.exported && matcher.accepts symbol.name && !symbol.kind.isDeclarable
  emitted : whole.emitted = less.emitted
  unresolved : whole.unresolved = less.unresolved
  sink : whole.sink = less.sink

namespace Surplus

variable {matcher : Matcher} {met : List Symbol} {whole less : Progress}

theorem refl (matcher : Matcher) (progress : Progress) : Surplus matcher [] progress progress :=
  ⟨rfl, rfl, rfl, rfl, rfl, rfl, rfl⟩

theorem meet (surplus : Surplus matcher met whole less) (exported : Bool) :
    Surplus matcher met (whole.meet exported) (less.meet exported) := by
  have seen := surplus.seen
  have exportedSurplus := surplus.exported
  constructor
  · simp only [Progress.meet]
    omega
  · simp only [Progress.meet]
    omega
  · exact surplus.unmatched
  · exact surplus.unsupported
  · exact surplus.emitted
  · exact surplus.unresolved
  · exact surplus.sink

theorem declared (surplus : Surplus matcher met whole less) (declaration : Declaration) :
    (declare declaration whole).1 = (declare declaration less).1 ∧
      Surplus matcher met (declare declaration whole).2
        (declare declaration less).2 := by
  simp only [declare, surplus.sink, surplus.unresolved]
  split
  case h_1 =>
    exact ⟨rfl, ⟨surplus.seen, surplus.exported, surplus.unmatched, surplus.unsupported,
      surplus.emitted, rfl, rfl⟩⟩
  case h_2 =>
    exact ⟨rfl, ⟨surplus.seen, surplus.exported, surplus.unmatched, surplus.unsupported,
      congrArg (· + 1) surplus.emitted, rfl, rfl⟩⟩

theorem add_unmatched (surplus : Surplus matcher met whole less) :
    Surplus matcher met (whole.add .unmatched) (less.add .unmatched) := by
  have counted := surplus.unmatched
  have raised : (whole.add .unmatched).unmatched = (less.add .unmatched).unmatched +
      met.countP fun symbol => symbol.exported && !matcher.accepts symbol.name := by
    simp only [Progress.add]
    omega
  exact { surplus.meet true with unmatched := raised }

theorem add_unsupported (surplus : Surplus matcher met whole less) (name entry : String)
    (line : Option Nat) :
    Surplus matcher met (whole.add (.unsupported name entry line))
      (less.add (.unsupported name entry line)) := by
  have counted := surplus.unsupported
  have raised : (whole.add (.unsupported name entry line)).unsupported =
      (less.add (.unsupported name entry line)).unsupported + met.countP fun symbol =>
        symbol.exported && matcher.accepts symbol.name && !symbol.kind.isDeclarable := by
    simp only [Progress.add]
    omega
  exact { surplus.meet true with unsupported := raised }

/-- An item that both runs take does the same to both. -/
theorem taken (surplus : Surplus matcher met whole less) (options : Options) (item : Item) :
    (takeItem options item whole).1 = (takeItem options item less).1 ∧
      Surplus matcher met (takeItem options item whole).2
        (takeItem options item less).2 := by
  have judged := Verdict.judged_ofItem options.matcher item
  rw [takeItem_eq_settle judged, takeItem_eq_settle judged]
  generalize Verdict.ofItem options.matcher item = verdict
  unfold settle
  cases verdict with
  | failed failure => exact ⟨rfl, surplus.meet false⟩
  | hidden => exact ⟨rfl, surplus.meet false⟩
  | unmatched => exact ⟨rfl, surplus.add_unmatched⟩
  | unsupported name entry line =>
      cases options.policy with
      | skip => exact ⟨rfl, surplus.add_unsupported name entry line⟩
      | error => exact ⟨rfl, surplus.meet true⟩
  | declared declaration => exact (surplus.meet true).declared declaration

/-- A symbol of which nothing is declared is met by one run alone. -/
theorem add_undeclared (surplus : Surplus matcher met whole less) {symbol : Symbol}
    {verdict : Verdict} (judged : Verdict.Judged matcher (.ok symbol) verdict)
    (undeclared : verdict.declaration? = none) :
    Surplus matcher (symbol :: met) (whole.add verdict) less := by
  constructor
  · rw [List.length_cons, ← Nat.add_assoc, ← surplus.seen]
    cases verdict <;> rfl
  · rw [List.countP_cons, ← judged.isExported_eq, ← Nat.add_assoc, ← surplus.exported]
    cases verdict <;> rfl
  · rw [List.countP_cons, ← judged.isUnmatched_eq, ← Nat.add_assoc, ← surplus.unmatched]
    cases verdict <;> rfl
  · rw [List.countP_cons, ← judged.isUnsupported_eq, ← Nat.add_assoc, ← surplus.unsupported]
    cases verdict <;> rfl
  · rw [← surplus.emitted]
    cases verdict with
    | declared => cases undeclared
    | _ => rfl
  · rw [← surplus.unresolved]
    cases verdict with
    | declared => cases undeclared
    | _ => rfl
  · rw [← surplus.sink]
    cases verdict with
    | declared => cases undeclared
    | _ => rfl

end Surplus

/-! ## Symbols that are passed over -/

theorem PassedOver.judged {options : Options} {symbol : Symbol} {verdict : Verdict}
    (passedOver : PassedOver options symbol)
    (judged : Verdict.Judged options.matcher (.ok symbol) verdict) :
    verdict.ending options.policy = none ∧ verdict.declaration? = none := by
  cases judged with
  | hidden => exact ⟨rfl, rfl⟩
  | unmatched => exact ⟨rfl, rfl⟩
  | unsupported exported selected kind =>
      refine ⟨?_, rfl⟩
      cases passedOver with
      | hidden kept => exact absurd exported (by simp [kept])
      | unmatched _ rejected =>
          exact absurd (Matcher.accepts_of_declaredName selected) (by simp [rejected])
      | unsupported lenient =>
          rw [lenient]
          rfl
  | declared exported selected made =>
      cases passedOver with
      | hidden kept => exact absurd exported (by simp [kept])
      | unmatched _ rejected =>
          exact absurd (Matcher.accepts_of_declaredName selected) (by simp [rejected])
      | unsupported _ _ _ foreign =>
          exact absurd (Declaration.exists_ofSymbol_iff.mp ⟨_, made⟩) (by simp [foreign])

theorem Surplus.passedOver {options : Options} {met : List Symbol}
    {whole less : Progress} {symbol : Symbol} (surplus : Surplus options.matcher met whole less)
    (passedOver : PassedOver options symbol) :
    ∃ after, takeItem options (.ok symbol) whole = (.ok (), after) ∧
      Surplus options.matcher (symbol :: met) after less := by
  have judged := Verdict.judged_ofItem options.matcher (.ok symbol)
  rcases passedOver.judged judged with ⟨goesOn, undeclared⟩
  have fits : whole.sink.Fits (Verdict.ofItem options.matcher (.ok symbol)).offered := by
    rw [Verdict.offered, undeclared]
    exact whole.sink.fits_nil
  exact ⟨_, takeItem_of_fits judged goesOn fits, surplus.add_undeclared judged undeclared⟩

/-! ## Runs without them -/

theorem takeItems_of_omits {options : Options} {items remaining : List Item}
    {omitted met : List Symbol} {whole less : Progress} (omits : Omits options items omitted remaining)
    (surplus : Surplus options.matcher met whole less) :
    (takeItems options items whole).1 = (takeItems options remaining less).1 ∧
      ∃ after, Surplus options.matcher after (takeItems options items whole).2
          (takeItems options remaining less).2 ∧
        ((takeItems options remaining less).1 = .ok () →
          after = omitted.reverse ++ met) := by
  induction omits generalizing met whole less with
  | nil => exact ⟨rfl, met, surplus, fun _ => rfl⟩
  | keep item rest induction =>
      rcases surplus.taken options item with ⟨sameResult, surplusAfter⟩
      rw [takeItems, takeItems]
      rcases taken : takeItem options item whole with ⟨result, wholeAfter⟩
      rcases lessTaken : takeItem options item less with ⟨lessResult, lessAfter⟩
      rw [taken, lessTaken] at sameResult surplusAfter
      simp only at sameResult
      subst sameResult
      cases result with
      | error failure => exact ⟨rfl, met, surplusAfter, fun passed => by cases passed⟩
      | ok => exact induction surplusAfter
  | drop passedOver rest induction =>
      rcases surplus.passedOver passedOver with ⟨after, taken, surplusAfter⟩
      rw [takeItems, taken, List.reverse_cons, List.append_assoc]
      exact induction surplusAfter

theorem Surplus.summary_eq {matcher : Matcher} {met : List Symbol} {whole less : Progress}
    (surplus : Surplus matcher met whole less) (bounded : less.exported ≤ less.seen) :
    whole.summary = less.summary.counting matcher met := by
  have split := List.length_eq_countP_add_countP (l := met) fun symbol => symbol.exported
  have seen := surplus.seen
  have exported := surplus.exported
  have hidden : whole.seen - whole.exported =
      less.seen - less.exported + met.countP fun symbol => !symbol.exported := by
    simp only [Bool.not_eq_true, Bool.decide_eq_false] at split
    omega
  simp only [Progress.summary, Summary.counting, hidden, surplus.emitted, surplus.unmatched,
    surplus.unsupported, surplus.unresolved]

theorem Summary.counting_reverse (summary : Summary) (matcher : Matcher) (omitted : List Symbol) :
    summary.counting matcher omitted.reverse = summary.counting matcher omitted := by
  simp only [counting, List.countP_reverse]

/-- Every omitted symbol is counted under one reason. -/
theorem Omits.skipped_counting {options : Options} {items remaining : List Item}
    {omitted : List Symbol} (omits : Omits options items omitted remaining) (summary : Summary) :
    (summary.counting options.matcher omitted).skipped = summary.skipped + omitted.length := by
  induction omits with
  | nil => rfl
  | keep item rest induction => exact induction
  | @drop items remaining omitted symbol passedOver rest induction =>
      simp only [Summary.skipped, Summary.counting, List.countP_cons, List.length_cons]
        at induction ⊢
      have once : (if (!symbol.exported) = true then 1 else 0) +
          (if (symbol.exported && !options.matcher.accepts symbol.name) = true then 1 else 0) +
          (if (symbol.exported && options.matcher.accepts symbol.name &&
            !symbol.kind.isDeclarable) = true then 1 else 0) = 1 := by
        cases passedOver with
        | hidden kept => simp [kept]
        | unmatched exported rejected => simp [exported, rejected]
        | unsupported _ exported accepted foreign => simp [exported, accepted, foreign]
      omega

theorem runItems_of_omits {options : Options} {items remaining : List Item} {omitted : List Symbol}
    (omits : Omits options items omitted remaining) (sink : Sink) :
    (runItems options items sink).sink = (runItems options remaining sink).sink ∧
      (runItems options items sink).result =
        (runItems options remaining sink).result.map
          (·.counting options.matcher omitted) := by
  rcases takeItems_of_omits omits (.refl options.matcher (.start sink)) with
    ⟨sameResult, met, surplus, metAll⟩
  have bounded := exported_le_seen options remaining (Nat.le_refl (Progress.start sink).exported)
  unfold runItems
  rcases taken : takeItems options items (.start sink) with ⟨result, after⟩
  rcases lessTaken : takeItems options remaining (.start sink) with ⟨lessResult, lessAfter⟩
  rw [taken, lessTaken] at sameResult surplus
  rw [lessTaken] at metAll bounded
  simp only at sameResult surplus metAll bounded ⊢
  subst sameResult
  cases result with
  | error failure => exact ⟨surplus.sink, rfl⟩
  | ok =>
      simp only [surplus.sink]
      cases lessAfter.sink.flush with
      | error fault => exact ⟨rfl, rfl⟩
      | ok =>
          refine ⟨rfl, congrArg Except.ok ?_⟩
          rw [surplus.summary_eq bounded, metAll rfl, List.append_nil, Summary.counting_reverse]

/-! ## Hidden symbols -/

theorem SameButHidden.taken {left right : Item} (same : SameButHidden left right)
    (options : Options) (progress : Progress) :
    takeItem options left progress = takeItem options right progress := by
  cases same with
  | same => rfl
  | hidden leftKept rightKept =>
      rw [takeItem_eq_settle (.hidden leftKept), takeItem_eq_settle (.hidden rightKept)]

theorem takeItems_sameButHidden {left right : List Item}
    (same : List.Forall₂ SameButHidden left right) (options : Options) (progress : Progress) :
    takeItems options left progress = takeItems options right progress := by
  induction same generalizing progress with
  | nil => rfl
  | cons sameItem _ induction =>
      rw [takeItems, takeItems, sameItem.taken]
      split
      case h_1 => rfl
      case h_2 => exact induction _

/-- Leaving out symbols that are passed over changes nothing about a run but the counts of such
symbols, and a hidden symbol can be exchanged for any other without changing anything. -/
theorem runItems_passes_over (options : Options) (sink : Sink) :
    (∀ items omitted remaining, Omits options items omitted remaining →
      (runItems options items sink).sink = (runItems options remaining sink).sink ∧
      (runItems options items sink).result =
        (runItems options remaining sink).result.map (·.counting options.matcher omitted) ∧
      ∀ summary : Summary, (summary.counting options.matcher omitted).skipped =
        summary.skipped + omitted.length) ∧
    ∀ left right, List.Forall₂ SameButHidden left right →
      runItems options left sink = runItems options right sink := by
  constructor
  · intro items omitted remaining omits
    rcases runItems_of_omits omits sink with ⟨sameSink, sameResult⟩
    exact ⟨sameSink, sameResult, omits.skipped_counting⟩
  · intro left right same
    unfold runItems
    rw [takeItems_sameButHidden same]

/-- Around a declared symbol others are left out for each of the three reasons, and a hidden symbol
is exchanged for another. -/
theorem runItems_passes_over_each_reason :
    Omits ⟨⟨some "f_", true⟩, .skip⟩
        [.ok ⟨"f_x", .function, false, "Lost*", "", some 2⟩,
          .ok ⟨"f_a", .object, true, "Kept", "", some 3⟩,
          .ok ⟨"g", .other "Header", true, "", "", some 4⟩,
          .ok ⟨"f_h", .other "Header", true, "Lost", "", some 5⟩]
        [⟨"f_x", .function, false, "Lost*", "", some 2⟩,
          ⟨"g", .other "Header", true, "", "", some 4⟩,
          ⟨"f_h", .other "Header", true, "Lost", "", some 5⟩]
        [.ok ⟨"f_a", .object, true, "Kept", "", some 3⟩] ∧
      (runItems ⟨⟨some "f_", true⟩, .skip⟩
        [.ok ⟨"f_x", .function, false, "Lost*", "", some 2⟩,
          .ok ⟨"f_a", .object, true, "Kept", "", some 3⟩,
          .ok ⟨"g", .other "Header", true, "", "", some 4⟩,
          .ok ⟨"f_h", .other "Header", true, "Lost", "", some 5⟩] .unbounded).result =
        .ok ⟨1, 1, 1, 1, ["Kept"]⟩ ∧
      SameButHidden (.ok ⟨"x", .function, false, "Lost*", "", some 2⟩)
        (.ok ⟨"y", .other "Header", false, "", "", none⟩) ∧
      runItems ⟨⟨none, false⟩, .error⟩
          [.ok ⟨"x", .function, false, "Lost*", "", some 2⟩] .unbounded =
        runItems ⟨⟨none, false⟩, .error⟩
          [.ok ⟨"y", .other "Header", false, "", "", none⟩] .unbounded := by
  have hidden : PassedOver ⟨⟨some "f_", true⟩, .skip⟩
      ⟨"f_x", .function, false, "Lost*", "", some 2⟩ := .hidden rfl
  have unmatched : PassedOver ⟨⟨some "f_", true⟩, .skip⟩
      ⟨"g", .other "Header", true, "", "", some 4⟩ := .unmatched rfl rfl
  have unsupported : PassedOver ⟨⟨some "f_", true⟩, .skip⟩
      ⟨"f_h", .other "Header", true, "Lost", "", some 5⟩ := .unsupported rfl rfl rfl rfl
  have omits := Omits.drop hidden
    (.keep (.ok ⟨"f_a", .object, true, "Kept", "", some 3⟩)
      (.drop unmatched (.drop unsupported .nil)))
  have exchanged : SameButHidden (.ok ⟨"x", .function, false, "Lost*", "", some 2⟩)
      (.ok ⟨"y", .other "Header", false, "", "", none⟩) := .hidden rfl rfl
  refine ⟨omits, ?_, exchanged,
    (runItems_passes_over _ _).2 _ _ (.cons exchanged .nil)⟩
  rw [((runItems_passes_over _ _).1 _ _ _ omits).2.1]
  rfl

end SymbolBindings.Generate
