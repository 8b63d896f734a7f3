import SymbolBindings.Proofs.Declaration.Block
import SymbolBindings.Proofs.Text.Utf8

/-! # Emission

An emitter may be used again whatever came of it before. A declaration that does not fit is refused
without a trace, and of all others together the sink holds the first octets, as many as it has room
for.
-/

namespace SymbolBindings

/-! ## Refusals -/

/-- The failures of declarations that do not fit the way they are to be written. -/
def Failure.isRefusal : Failure → Bool
  | kindMismatch _ _ _ | missingType _ => true
  | _ => false

namespace Declaration

theorem objectBlock_eq_error_iff {declaration : Declaration} {failure : Failure} :
    declaration.objectBlock = .error failure ↔
      (declaration.kind ≠ .object ∧
          failure = .kindMismatch declaration.name .object declaration.kind) ∨
        declaration.kind = .object ∧ declaration.type = none ∧
          failure = .missingType declaration.name := by
  by_cases kind : declaration.kind = .object
  · cases typed : declaration.type <;> simp [objectBlock, kind, typed, eq_comm]
  · simp [objectBlock, kind, eq_comm]

theorem functionBlock_eq_error_iff {declaration : Declaration} {failure : Failure} :
    declaration.functionBlock = .error failure ↔
      declaration.kind ≠ .function ∧
        failure = .kindMismatch declaration.name .function declaration.kind := by
  by_cases kind : declaration.kind = .function <;> simp [functionBlock, kind, eq_comm]

end Declaration

namespace Emission

/-- The declaration to write, and what it is written as. -/
def subject? : Emission → Option (Declaration × Kind)
  | declaration subject =>
    some (subject, if subject.kind = .function then .function else .object)
  | object subject => some (subject, .object)
  | function subject => some (subject, .function)
  | flush => none

/-- The declaration is not what it is to be written as, or it is a variable without a type. -/
inductive Refused (emission : Emission) : Failure → Prop
  | mismatch {declaration : Declaration} {kind : Kind}
      (asked : emission.subject? = some (declaration, kind)) (other : declaration.kind ≠ kind) :
      Refused emission (.kindMismatch declaration.name kind declaration.kind)
  | untyped {declaration : Declaration} (asked : emission.subject? = some (declaration, .object))
      (same : declaration.kind = .object) (missing : declaration.type = none) :
      Refused emission (.missingType declaration.name)

def Misfits (emission : Emission) : Prop :=
  ∃ failure, emission.Refused failure

theorem subject?_eq_none_iff {emission : Emission} :
    emission.subject? = none ↔ emission = .flush := by
  cases emission <;> simp [subject?]

theorem refused_iff {emission : Emission} {declaration : Declaration} {kind : Kind}
    (asked : emission.subject? = some (declaration, kind)) {failure : Failure} :
    emission.Refused failure ↔
      (declaration.kind ≠ kind ∧ failure = .kindMismatch declaration.name kind declaration.kind) ∨
        kind = .object ∧ declaration.kind = .object ∧ declaration.type = none ∧
          failure = .missingType declaration.name := by
  constructor
  · intro refused
    cases refused with
    | mismatch found other =>
        cases asked.symm.trans found
        exact .inl ⟨other, rfl⟩
    | untyped found same missing =>
        cases asked.symm.trans found
        exact .inr ⟨rfl, same, missing, rfl⟩
  · rintro (⟨other, rfl⟩ | ⟨rfl, same, missing, rfl⟩)
    · exact .mismatch asked other
    · exact .untyped asked same missing

theorem Refused.isRefusal {emission : Emission} {failure : Failure}
    (refused : emission.Refused failure) : failure.isRefusal = true := by
  cases refused <;> rfl

theorem block_of_subject {emission : Emission} {declaration : Declaration} {kind : Kind}
    (asked : emission.subject? = some (declaration, kind)) :
    (kind = .function ∧ emission.block = declaration.functionBlock) ∨
      kind = .object ∧ emission.block = declaration.objectBlock := by
  cases emission with
  | declaration subject =>
      simp only [subject?, Option.some.injEq, Prod.mk.injEq] at asked
      rcases asked with ⟨rfl, rfl⟩
      cases kind : subject.kind with
      | function => exact .inl ⟨by simp, by simp [block, Declaration.block, kind]⟩
      | object => exact .inr ⟨by simp, by simp [block, Declaration.block, kind]⟩
      | other entry => exact .inr ⟨by simp, by simp [block, Declaration.block, kind]⟩
  | object subject =>
      cases asked
      exact .inr ⟨rfl, rfl⟩
  | function subject =>
      cases asked
      exact .inl ⟨rfl, rfl⟩
  | flush => cases asked

/-- There is no block exactly where the emission is refused. -/
theorem block_eq_error_iff {emission : Emission} {failure : Failure} :
    emission.block = .error failure ↔ emission.Refused failure := by
  cases asked : emission.subject? with
  | none =>
      rcases subject?_eq_none_iff.mp asked with rfl
      constructor
      · intro found
        cases found
      · intro refused
        cases refused <;> contradiction
  | some subject =>
      rcases subject with ⟨declaration, kind⟩
      rw [refused_iff asked]
      rcases block_of_subject asked with ⟨rfl, found⟩ | ⟨rfl, found⟩
      · simpa [found] using Declaration.functionBlock_eq_error_iff
      · simpa [found] using Declaration.objectBlock_eq_error_iff

/-- The octets of the block, if the emission is not refused. -/
def octets (emission : Emission) : List UInt8 :=
  match emission.block with
  | .ok text => Text.octets text
  | .error _ => []

theorem octets_of_refused {emission : Emission} {failure : Failure}
    (refused : emission.Refused failure) : emission.octets = [] := by
  rw [octets, block_eq_error_iff.mpr refused]

theorem octets_of_block {emission : Emission} {text : String}
    (found : emission.block = .ok text) : emission.octets = Text.octets text := by
  rw [octets, found]

/-- Every block ends its last line. -/
theorem exists_append_of_block {emission : Emission} {text : String} (asked : emission ≠ .flush)
    (found : emission.block = .ok text) : ∃ front, text = front ++ ";\n" := by
  cases named : emission.subject? with
  | none => exact absurd (subject?_eq_none_iff.mp named) asked
  | some subject =>
      rcases subject with ⟨declaration, kind⟩
      rcases block_of_subject named with ⟨rfl, same⟩ | ⟨rfl, same⟩
      · rw [found, eq_comm, Declaration.functionBlock] at same
        split at same
        · cases same
        · cases same
          exact ⟨_, rfl⟩
      · rw [found, eq_comm, Declaration.objectBlock] at same
        split at same
        · cases same
        · split at same
          · cases same
          · cases same
            exact ⟨_, rfl⟩

theorem octets_ne_nil {emission : Emission} (asked : emission ≠ .flush)
    (fits : ¬emission.Misfits) : emission.octets ≠ [] := by
  cases found : emission.block with
  | error failure => exact absurd ⟨failure, block_eq_error_iff.mp found⟩ fits
  | ok text =>
      rcases exists_append_of_block asked found with ⟨front, rfl⟩
      have ends : Text.octets ";\n" ≠ [] := by decide
      simp [octets_of_block found, ends]

end Emission

/-! ## Sinks with room for so many octets -/

namespace Sink

/-- What was offered is held as far as there is room for it. -/
structure Holds (sink : Sink) (capacity : Nat) (overflow : Overflow) (offered : List UInt8) :
    Prop where
  room : sink.room = some (capacity - offered.length)
  written : sink.written = offered.take capacity
  overflow : sink.overflow = overflow
  flushFault : sink.flushFault = none

theorem holds_bounded (capacity : Nat) (overflow : Overflow) :
    (bounded capacity overflow).Holds capacity overflow [] :=
  ⟨rfl, by simp, rfl, rfl⟩

variable {sink : Sink} {capacity : Nat} {overflow : Overflow} {offered : List UInt8}

theorem Holds.writeAll (holds : sink.Holds capacity overflow offered) (more : List UInt8) :
    (sink.writeAll more).2.Holds capacity overflow (offered ++ more) := by
  have fitting : sink.fitting more.length = min (capacity - offered.length) more.length := by
    rw [Sink.fitting, holds.room]
  refine ⟨?_, ?_, holds.overflow, holds.flushFault⟩
  · simp only [Sink.writeAll, take, holds.room, fitting, Option.map_some, List.length_take,
      List.length_append]
    congr 1
    omega
  · rw [written_writeAll, holds.written, fitting, List.take_append, ← List.take_eq_take_min]

theorem Holds.fits_iff (holds : sink.Holds capacity overflow offered) {more : List UInt8}
    (something : more ≠ []) : sink.Fits more ↔ (offered ++ more).length ≤ capacity := by
  have positive := List.length_pos_iff.mpr something
  rw [Fits, fitting, holds.room, List.length_append]
  change min (capacity - offered.length) more.length = more.length ↔ _
  omega

theorem Holds.overflowFault_eq (holds : sink.Holds capacity overflow offered) :
    sink.overflowFault = (bounded capacity overflow).overflowFault := by
  rw [overflowFault, overflowFault, holds.overflow]
  rfl

/-! ## One emission -/

theorem perform_of_refused {emission : Emission} {failure : Failure}
    (refused : emission.Refused failure) (sink : Sink) :
    sink.perform emission = (.error failure, sink) := by
  have noBlock := Emission.block_eq_error_iff.mpr refused
  cases emission with
  | flush => cases noBlock
  | _ => simp only [perform, noBlock, emitBlock]

theorem perform_of_block {emission : Emission} {text : String} (asked : emission ≠ .flush)
    (found : emission.block = .ok text) (sink : Sink) :
    sink.perform emission =
      ((sink.writeAll emission.octets).1.mapError .system, (sink.writeAll emission.octets).2) := by
  rw [Emission.octets_of_block found]
  cases emission with
  | flush => exact absurd rfl asked
  | _ => simp only [perform, found, emitBlock, write]

/-- Whatever is emitted next, refused or not, the sink goes on holding what was offered. -/
theorem Holds.perform (holds : sink.Holds capacity overflow offered) (emission : Emission) :
    (sink.perform emission).2.Holds capacity overflow (offered ++ emission.octets) := by
  cases found : emission.block with
  | error failure =>
      have refused := Emission.block_eq_error_iff.mp found
      rw [perform_of_refused refused, Emission.octets_of_refused refused, List.append_nil]
      exact holds
  | ok text =>
      by_cases asked : emission = .flush
      · subst asked
        have nothing : Emission.octets .flush = [] := rfl
        rw [nothing, List.append_nil]
        exact holds
      · rw [perform_of_block asked found]
        exact holds.writeAll emission.octets

/-! ## Many emissions -/

theorem performAll_cons (sink : Sink) (emission : Emission) (rest : List Emission) :
    sink.performAll (emission :: rest) =
      ((sink.perform emission).1 :: ((sink.perform emission).2.performAll rest).1,
        ((sink.perform emission).2.performAll rest).2) := rfl

theorem performAll_append (sink : Sink) (front rest : List Emission) :
    sink.performAll (front ++ rest) =
      ((sink.performAll front).1 ++ ((sink.performAll front).2.performAll rest).1,
        ((sink.performAll front).2.performAll rest).2) := by
  induction front generalizing sink with
  | nil => rfl
  | cons emission others induction => simp [performAll_cons, induction]

theorem length_performAll (sink : Sink) (emissions : List Emission) :
    (sink.performAll emissions).1.length = emissions.length := by
  induction emissions generalizing sink with
  | nil => rfl
  | cons emission rest induction => simp [performAll_cons, induction]

theorem Holds.performAll (holds : sink.Holds capacity overflow offered)
    (emissions : List Emission) :
    (sink.performAll emissions).2.Holds capacity overflow
      (offered ++ emissions.flatMap Emission.octets) := by
  induction emissions generalizing sink offered with
  | nil =>
      rw [List.flatMap_nil, List.append_nil]
      exact holds
  | cons emission rest induction =>
      have after := induction (holds.perform emission)
      rwa [List.append_assoc, ← List.flatMap_cons] at after

end Sink

namespace Emission

/-- What an emission comes to, told from the emissions before it. -/
structure Settled (capacity : Nat) (fault : SystemFault) (before : List Emission)
    (emission : Emission) (result : Except Failure Unit) : Prop where
  refused_iff : (∃ failure, failure.isRefusal = true ∧ result = .error failure) ↔ emission.Misfits
  refusal : ∀ failure, emission.Refused failure → result = .error failure
  full_iff : emission ≠ .flush → ¬emission.Misfits →
    (result = .error (.system fault) ↔
      capacity < ((before ++ [emission]).flatMap octets).length)
  completes_iff : result = .ok () ↔ ¬emission.Misfits ∧
    (emission = .flush ∨ ((before ++ [emission]).flatMap octets).length ≤ capacity)

theorem Refused.unique {emission : Emission} {failure other : Failure}
    (left : emission.Refused failure) (right : emission.Refused other) : failure = other := by
  have same := (block_eq_error_iff.mpr left).symm.trans (block_eq_error_iff.mpr right)
  exact Except.error.inj same

namespace Settled

variable {capacity : Nat} {fault : SystemFault} {before : List Emission} {emission : Emission}

theorem of_refused {failure : Failure} (refused : emission.Refused failure) :
    emission.Settled capacity fault before (.error failure) where
  refused_iff := ⟨fun _ => ⟨failure, refused⟩, fun _ => ⟨failure, refused.isRefusal, rfl⟩⟩
  refusal other again := by rw [refused.unique again]
  full_iff _ fits := absurd ⟨failure, refused⟩ fits
  completes_iff := by
    refine ⟨?_, fun fits => absurd ⟨failure, refused⟩ fits.1⟩
    intro completed
    cases completed

theorem of_flush : Settled capacity fault before .flush (.ok ()) where
  refused_iff := by
    constructor
    · rintro ⟨failure, -, failed⟩
      cases failed
    · rintro ⟨failure, refused⟩
      cases block_eq_error_iff.mpr refused
  refusal failure refused := by cases block_eq_error_iff.mpr refused
  full_iff asked := absurd rfl asked
  completes_iff := by
    refine ⟨fun _ => ⟨?_, .inl rfl⟩, fun _ => rfl⟩
    rintro ⟨failure, refused⟩
    cases block_eq_error_iff.mpr refused

theorem of_room (fits : ¬emission.Misfits)
    (room : ((before ++ [emission]).flatMap octets).length ≤ capacity) :
    emission.Settled capacity fault before (.ok ()) where
  refused_iff := by
    refine ⟨?_, fun misfits => absurd misfits fits⟩
    rintro ⟨failure, -, failed⟩
    cases failed
  refusal failure refused := absurd ⟨failure, refused⟩ fits
  full_iff _ _ := by
    refine ⟨?_, fun tight => absurd room (Nat.not_le_of_lt tight)⟩
    intro failed
    cases failed
  completes_iff := ⟨fun _ => ⟨fits, .inr room⟩, fun _ => rfl⟩

theorem of_tight (asked : emission ≠ .flush) (fits : ¬emission.Misfits)
    (tight : capacity < ((before ++ [emission]).flatMap octets).length) :
    emission.Settled capacity fault before (.error (.system fault)) where
  refused_iff := by
    refine ⟨?_, fun misfits => absurd misfits fits⟩
    rintro ⟨failure, refusal, failed⟩
    cases failed
    cases refusal
  refusal failure refused := absurd ⟨failure, refused⟩ fits
  full_iff _ _ := ⟨fun _ => tight, fun _ => rfl⟩
  completes_iff := by
    constructor
    · intro completed
      cases completed
    · rintro ⟨-, flushes | room⟩
      · exact absurd flushes asked
      · exact absurd room (Nat.not_le_of_lt tight)

end Settled

end Emission

theorem Sink.Holds.settled {sink : Sink} {capacity : Nat} {overflow : Overflow}
    {before : List Emission}
    (holds : sink.Holds capacity overflow (before.flatMap Emission.octets))
    (emission : Emission) :
    emission.Settled capacity (bounded capacity overflow).overflowFault before
      (sink.perform emission).1 := by
  by_cases misfits : emission.Misfits
  · rcases misfits with ⟨failure, refused⟩
    rw [perform_of_refused refused]
    exact .of_refused refused
  · by_cases asked : emission = .flush
    · subst asked
      have flushed : (sink.perform .flush).1 = .ok () := by
        rw [Sink.perform, flush, holds.flushFault]
        rfl
      rw [flushed]
      exact .of_flush
    · cases found : emission.block with
      | error failure => exact absurd ⟨failure, Emission.block_eq_error_iff.mp found⟩ misfits
      | ok text =>
          have something := Emission.octets_ne_nil asked misfits
          have total : (before ++ [emission]).flatMap Emission.octets =
              before.flatMap Emission.octets ++ emission.octets := by simp
          rw [perform_of_block asked found]
          by_cases fits : sink.Fits emission.octets
          · rw [writeAll_of_fits fits]
            apply Emission.Settled.of_room misfits
            rw [total]
            exact (holds.fits_iff something).mp fits
          · rw [writeAll_of_not_fits fits, holds.overflowFault_eq]
            apply Emission.Settled.of_tight asked misfits
            rw [total]
            exact Nat.lt_of_not_le fun room => fits ((holds.fits_iff something).mpr room)

/-- An emitter with room for `capacity` octets writes the first of all blocks that are not refused.
An emission is refused exactly if it does not fit, and then it is as if it had not been there. Any
other fails exactly if there is no room for its block after those before it. -/
theorem Sink.performAll_bounded (capacity : Nat) (overflow : Overflow) :
    (∀ emissions,
      ((bounded capacity overflow).performAll emissions).1.length = emissions.length ∧
        ((bounded capacity overflow).performAll emissions).2.written =
          (emissions.flatMap Emission.octets).take capacity) ∧
      ∀ front emission rest, ∃ result later,
        ((bounded capacity overflow).performAll (front ++ emission :: rest)).1 =
          ((bounded capacity overflow).performAll front).1 ++ result :: later ∧
        emission.Settled capacity (bounded capacity overflow).overflowFault front result ∧
        (emission.Misfits →
          (bounded capacity overflow).performAll (front ++ rest) =
            (((bounded capacity overflow).performAll front).1 ++ later,
              ((bounded capacity overflow).performAll (front ++ emission :: rest)).2)) := by
  have holds := fun emissions => (holds_bounded capacity overflow).performAll emissions
  simp only [List.nil_append] at holds
  refine ⟨fun emissions => ⟨length_performAll _ _, (holds emissions).written⟩, ?_⟩
  intro front emission rest
  have whole := performAll_append (bounded capacity overflow) front (emission :: rest)
  rw [performAll_cons] at whole
  refine ⟨_, _, congrArg Prod.fst whole, (holds front).settled emission, ?_⟩
  rintro ⟨failure, refused⟩
  rw [performAll_append, whole, perform_of_refused refused]

/-- A function is refused as a variable, with its line for the linker, and the block after it is cut
off where the sink is full. -/
theorem Sink.performAll_bounded_refused_between :
    let tick : Emission :=
      .declaration ⟨.object, "tick", none, some ⟨.unresolved "Tick", 1⟩, [], false⟩
    let log : Emission := .object ⟨.function, "log", some "furi_log", none, [], false⟩
    log.Misfits ∧
      ((bounded 30 .takesNothing).performAll [tick, log, tick, .flush]).1 =
        [.ok (), .error (.kindMismatch "log" .object .function), .error (.system .nothingTaken),
          .ok ()] ∧
      ((bounded 30 .takesNothing).performAll [tick, log, tick, .flush]).2.written =
        (tick.octets ++ tick.octets).take 30 ∧
      30 < (tick.octets ++ tick.octets).length ∧
      ((bounded 30 .takesNothing).performAll [tick, tick, .flush]).2 =
        ((bounded 30 .takesNothing).performAll [tick, log, tick, .flush]).2 := by
  intro tick log
  have misfits : log.Misfits := ⟨_, .mismatch rfl (by decide)⟩
  have bound := performAll_bounded 30 .takesNothing
  rcases bound.2 [tick] log [tick, .flush] with ⟨result, later, -, -, without⟩
  have unchanged := congrArg Prod.snd (without misfits)
  exact ⟨misfits, rfl, (bound.1 _).2, by decide, unchanged⟩

end SymbolBindings
