import SymbolBindings.Generate.Run
import SymbolBindings.Proofs.Declaration.Block

/-! # Verdicts

What an item comes to is decided by the item and the options alone, wherever the run stands. A run
only adds its verdicts up, so what holds of a whole run follows from what one verdict adds.
-/

namespace SymbolBindings

/-! ## Names -/

namespace Matcher

theorem isSome_declaredName (matcher : Matcher) (name : String) :
    (matcher.declaredName name).isSome = matcher.accepts name := by
  unfold declaredName accepts
  cases matcher.leading with
  | none => rfl
  | some leading =>
      unfold remainder
      by_cases led : leading.toList.isPrefixOf name.toList
      · simp only [led, if_true]
        split <;> rfl
      · simp [led]

theorem accepts_of_declaredName {matcher : Matcher} {name declared : String}
    (selected : matcher.declaredName name = some declared) : matcher.accepts name = true := by
  rw [← isSome_declaredName, selected]
  rfl

theorem accepts_eq_false_of_declaredName {matcher : Matcher} {name : String}
    (rejected : matcher.declaredName name = none) : matcher.accepts name = false := by
  rw [← isSome_declaredName, rejected]
  rfl

end Matcher

namespace Generate

/-! ## Verdicts -/

/-- What an item comes to. -/
inductive Verdict
  | failed (failure : Failure)
  | hidden
  | unmatched
  | unsupported (name entry : String) (line : Option Nat)
  | declared (declaration : Declaration)

namespace Verdict

def ofItem (matcher : Matcher) : Item → Verdict
  | .error failure => .failed failure
  | .ok symbol =>
    if symbol.exported then
      match matcher.declaredName symbol.name with
      | none => .unmatched
      | some name =>
        match Declaration.ofSymbol symbol name with
        | .ok declaration => .declared declaration
        | .error _ => .unsupported symbol.name symbol.kind.text symbol.line
    else .hidden

/-- When an item has which verdict. -/
inductive Judged (matcher : Matcher) : Item → Verdict → Prop
  | failed (failure : Failure) : Judged matcher (.error failure) (.failed failure)
  | hidden {symbol : Symbol} (kept : symbol.exported = false) : Judged matcher (.ok symbol) .hidden
  | unmatched {symbol : Symbol} (exported : symbol.exported = true)
      (rejected : matcher.declaredName symbol.name = none) : Judged matcher (.ok symbol) .unmatched
  | unsupported {symbol : Symbol} {name entry : String} (exported : symbol.exported = true)
      (selected : matcher.declaredName symbol.name = some name)
      (kind : symbol.kind = .other entry) :
      Judged matcher (.ok symbol) (.unsupported symbol.name entry symbol.line)
  | declared {symbol : Symbol} {name : String} {declaration : Declaration}
      (exported : symbol.exported = true)
      (selected : matcher.declaredName symbol.name = some name)
      (made : Declaration.ofSymbol symbol name = .ok declaration) :
      Judged matcher (.ok symbol) (.declared declaration)

theorem judged_ofItem (matcher : Matcher) (item : Item) :
    Judged matcher item (ofItem matcher item) := by
  cases item with
  | error failure => exact .failed failure
  | ok symbol =>
      rw [ofItem]
      split
      case isFalse kept => exact .hidden (by simpa using kept)
      case isTrue exported =>
        split
        case h_1 rejected => exact .unmatched exported rejected
        case h_2 name selected =>
          split
          case h_1 declaration made => exact .declared exported selected made
          case h_2 failure refused =>
            rcases Declaration.ofSymbol_eq_error_iff.mp refused with ⟨entry, kind, -⟩
            rw [kind]
            exact .unsupported exported selected kind

theorem Judged.unique {matcher : Matcher} {item : Item} {verdict : Verdict}
    (judged : Judged matcher item verdict) : ofItem matcher item = verdict := by
  cases judged with
  | failed failure => rfl
  | hidden kept => simp [ofItem, kept]
  | unmatched exported rejected => simp [ofItem, exported, rejected]
  | unsupported exported selected kind =>
      simp [ofItem, exported, selected, Declaration.ofSymbol, kind, Kind.text]
  | declared exported selected made => simp [ofItem, exported, selected, made]

/-- The failure that ends the run at an item of this verdict. -/
def ending (policy : Policy) : Verdict → Option Failure
  | failed failure => some failure
  | unsupported name entry line =>
    match policy with
    | .skip => none
    | .error => some (.unsupportedKind name entry line)
  | _ => none

def isExported : Verdict → Bool
  | failed _ | hidden => false
  | unmatched | unsupported _ _ _ | declared _ => true

def isUnmatched : Verdict → Bool
  | unmatched => true
  | _ => false

def isUnsupported : Verdict → Bool
  | unsupported _ _ _ => true
  | _ => false

def declaration? : Verdict → Option Declaration
  | declared declaration => some declaration
  | _ => none

/-- What the sink is offered on account of the item. -/
def offered (verdict : Verdict) : List UInt8 :=
  (verdict.declaration?.map Declaration.octets).getD []

end Verdict

namespace Progress

/-- The item is counted before anything else comes of it. -/
def meet (progress : Progress) (exported : Bool) : Progress :=
  { progress with
    seen := progress.seen + 1
    exported := progress.exported + exported.toNat }

/-- What a verdict adds where it does not end the run. -/
def add (progress : Progress) (verdict : Verdict) : Progress :=
  match verdict with
  | .failed _ | .hidden => progress.meet verdict.isExported
  | .unmatched =>
    { progress.meet verdict.isExported with unmatched := progress.unmatched + 1 }
  | .unsupported name entry line =>
    { progress.meet verdict.isExported with
      unsupported := progress.unsupported + 1
      events := .noted (skipNote name entry line) :: progress.events }
  | .declared declaration =>
    { progress.meet verdict.isExported with
      emitted := progress.emitted + 1
      unresolved := insertNames declaration.unresolved progress.unresolved
      sink := progress.sink.take declaration.octets
      events := offers declaration ++ progress.events }

end Progress

/-! ## One item -/

/-- Everything that taking an item of this verdict can do. -/
def settle (policy : Policy) (verdict : Verdict) (progress : Progress) :
    Except Failure Unit × Progress :=
  match verdict.ending policy, verdict with
  | some failure, _ => (.error failure, progress.meet verdict.isExported)
  | none, .declared declaration => declare declaration (progress.meet true)
  | none, _ => (.ok (), progress.add verdict)

theorem takeItem_eq_settle {options : Options} {item : Item} {verdict : Verdict}
    (judged : Verdict.Judged options.matcher item verdict) (progress : Progress) :
    takeItem options item progress = settle options.policy verdict progress := by
  cases judged with
  | failed failure => rfl
  | hidden kept =>
      simp only [takeItem, kept]
      rfl
  | unmatched exported rejected =>
      simp only [takeItem, exportedSymbol, exported, rejected]
      rfl
  | unsupported exported selected kind =>
      simp only [takeItem, exportedSymbol, exported, selected, Declaration.ofSymbol, kind]
      cases options.policy <;> rfl
  | declared exported selected made =>
      simp only [takeItem, exportedSymbol, exported, selected, made]
      rfl

theorem declare_of_fits {declaration : Declaration} {block : String} {progress : Progress}
    (found : declaration.block = .ok block) (fits : progress.sink.Fits declaration.octets) :
    declare declaration (progress.meet true) =
      (.ok (), progress.add (.declared declaration)) := by
  have performed : (progress.meet true).sink.perform (.declaration declaration) =
      (.ok (), progress.sink.take declaration.octets) := by
    rw [Progress.meet, Sink.perform_declaration found, Sink.writeAll_of_fits fits]
    rfl
  unfold declare
  simp only [performed]
  rfl

theorem declare_of_not_fits {declaration : Declaration} {block : String} {progress : Progress}
    (found : declaration.block = .ok block) (tight : ¬progress.sink.Fits declaration.octets) :
    (declare declaration progress).1 = .error (.system progress.sink.overflowFault) := by
  unfold declare
  simp only [Sink.perform_declaration found, Sink.writeAll_of_not_fits tight]
  rfl

theorem takeItem_of_ending {options : Options} {item : Item} {verdict : Verdict}
    {failure : Failure} (judged : Verdict.Judged options.matcher item verdict)
    (ends : verdict.ending options.policy = some failure) (progress : Progress) :
    takeItem options item progress = (.error failure, progress.meet verdict.isExported) := by
  rw [takeItem_eq_settle judged]
  simp only [settle, ends]

theorem takeItem_of_fits {options : Options} {item : Item} {verdict : Verdict}
    {progress : Progress} (judged : Verdict.Judged options.matcher item verdict)
    (goesOn : verdict.ending options.policy = none)
    (fits : progress.sink.Fits verdict.offered) :
    takeItem options item progress = (.ok (), progress.add verdict) := by
  rw [takeItem_eq_settle judged]
  unfold settle
  rw [goesOn]
  cases judged with
  | failed => cases goesOn
  | hidden => rfl
  | unmatched => rfl
  | unsupported => rfl
  | declared exported selected made =>
      rcases Declaration.exists_block made with ⟨block, found⟩
      exact declare_of_fits found fits

theorem takeItem_of_not_fits {options : Options} {item : Item} {verdict : Verdict}
    {progress : Progress} (judged : Verdict.Judged options.matcher item verdict)
    (goesOn : verdict.ending options.policy = none)
    (tight : ¬progress.sink.Fits verdict.offered) :
    (takeItem options item progress).1 = .error (.system progress.sink.overflowFault) := by
  rw [takeItem_eq_settle judged]
  unfold settle
  rw [goesOn]
  cases judged with
  | failed => cases goesOn
  | hidden => exact absurd progress.sink.fits_nil tight
  | unmatched => exact absurd progress.sink.fits_nil tight
  | unsupported => exact absurd progress.sink.fits_nil tight
  | declared exported selected made =>
      rcases Declaration.exists_block made with ⟨block, found⟩
      exact declare_of_not_fits found tight

/-- An item is passed exactly if neither its verdict nor the sink ends the run. -/
theorem takeItem_eq_ok_iff {options : Options} {item : Item} {progress after : Progress}
    {verdict : Verdict} (judged : Verdict.Judged options.matcher item verdict) :
    takeItem options item progress = (.ok (), after) ↔
      verdict.ending options.policy = none ∧ progress.sink.Fits verdict.offered ∧
        progress.add verdict = after := by
  cases ends : verdict.ending options.policy with
  | some failure => simp [takeItem_of_ending judged ends]
  | none =>
      by_cases fits : progress.sink.Fits verdict.offered
      · simp [takeItem_of_fits judged ends fits, fits]
      · have refused := takeItem_of_not_fits judged ends fits
        simp only [fits, false_and, and_false, iff_false]
        intro passed
        rw [passed] at refused
        cases refused

end Generate

end SymbolBindings
