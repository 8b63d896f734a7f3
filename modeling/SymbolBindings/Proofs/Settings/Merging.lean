import Mathlib.Tactic
import SymbolBindings.Settings.Basic

/-! # Merging settings

All settings can be looked at in one way: as a value, where one is set. Looked at so, merging takes
the upper value or else the lower one, and the laws of layers are the laws of that choice. However
many layers there are, every setting has the value of the last one that sets it.
-/

namespace SymbolBindings.Settings

variable {α : Type}

/-! ## Values -/

/-- Stripping cannot be left open, so only asking for it sets it. -/
def asked (strip : Bool) : Option Bool :=
  if strip then some true else none

/-- Names cannot be left open, so only listing some sets them. -/
def listed (names : List String) : Option (List String) :=
  if names.isEmpty then none else some names

theorem asked_or (lower upper : Bool) : asked (lower || upper) = (asked upper).or (asked lower) := by
  cases lower <;> cases upper <;> rfl

theorem listed_ite (lower upper : List String) :
    listed (if upper.isEmpty then lower else upper) = (listed upper).or (listed lower) := by
  cases upper with
  | nil => rfl
  | cons name rest => rfl

theorem asked_injective : Function.Injective asked := by
  intro left right same
  cases left <;> cases right <;> first | rfl | cases same

theorem listed_injective : Function.Injective listed := by
  intro left right same
  cases left <;> cases right <;> cases same <;> rfl

/-- A setting, with the type of its values. -/
inductive Choice : Type → Type
  | leading : Choice String
  | strip : Choice Bool
  | policy : Choice Policy
  | package : Choice String
  | target : Choice String
  | installDirectory : Choice String
  | toolsDirectory : Choice String
  | names : Choice (List String)

namespace Choice

def valueIn (settings : Settings) : Choice α → Option α
  | leading => settings.generate.leading
  | strip => asked settings.generate.strip
  | policy => settings.generate.policy
  | package => settings.examples.package
  | target => settings.examples.target
  | installDirectory => settings.examples.installDirectory
  | toolsDirectory => settings.examples.toolsDirectory
  | names => listed settings.examples.names

theorem valueIn_unset (choice : Choice α) : choice.valueIn .unset = none := by
  cases choice <;> rfl

/-- The upper value counts, or else the lower one. -/
theorem valueIn_merge (choice : Choice α) (lower upper : Settings) :
    choice.valueIn (lower.merge upper) = (choice.valueIn upper).or (choice.valueIn lower) := by
  cases choice with
  | strip => exact asked_or lower.generate.strip upper.generate.strip
  | names => exact listed_ite lower.examples.names upper.examples.names
  | _ => rfl

end Choice

/-- Settings with the same values are the same. -/
theorem eq_of_valueIn {left right : Settings}
    (same : ∀ {α : Type} (choice : Choice α), choice.valueIn left = choice.valueIn right) :
    left = right := by
  have strip : left.generate.strip = right.generate.strip := asked_injective (same .strip)
  have names : left.examples.names = right.examples.names := listed_injective (same .names)
  have generate : left.generate = right.generate := by
    rw [GenerateSettings.mk.injEq]
    exact ⟨same .leading, strip, same .policy⟩
  have examples : left.examples = right.examples := by
    rw [ExampleSettings.mk.injEq]
    exact ⟨same .package, same .target, same .installDirectory, same .toolsDirectory, names⟩
  rw [Settings.mk.injEq]
  exact ⟨generate, examples⟩

/-! ## Laws -/

theorem unset_merge (settings : Settings) : Settings.unset.merge settings = settings := by
  apply eq_of_valueIn
  intro α choice
  rw [choice.valueIn_merge, choice.valueIn_unset, Option.or_none]

theorem merge_unset (settings : Settings) : settings.merge .unset = settings := by
  apply eq_of_valueIn
  intro α choice
  rw [choice.valueIn_merge, choice.valueIn_unset, Option.none_or]

theorem merge_assoc (bottom middle top : Settings) :
    (bottom.merge middle).merge top = bottom.merge (middle.merge top) := by
  apply eq_of_valueIn
  intro α choice
  rw [choice.valueIn_merge, choice.valueIn_merge, choice.valueIn_merge, choice.valueIn_merge,
    Option.or_assoc]

/-- A layer put over itself adds nothing. -/
theorem merge_self (settings : Settings) : settings.merge settings = settings := by
  apply eq_of_valueIn
  intro α choice
  rw [choice.valueIn_merge, Option.or_self]

theorem merge_merge_self (lower upper : Settings) :
    (lower.merge upper).merge upper = lower.merge upper := by
  rw [merge_assoc, merge_self]

/-! ## Many layers -/

/-- What holds of layers that are put over one another, the first at the bottom. -/
def mergeAll (layers : List Settings) : Settings :=
  layers.foldl merge .unset

theorem mergeAll_append_singleton (layers : List Settings) (top : Settings) :
    mergeAll (layers ++ [top]) = (mergeAll layers).merge top := by
  rw [mergeAll, List.foldl_append]
  rfl

/-- The value that the last of the layers sets that sets any. -/
inductive LastSet (valueIn : Settings → Option α) (layers : List Settings) : Option α → Prop
  | never (silent : ∀ layer ∈ layers, valueIn layer = none) : LastSet valueIn layers none
  | last {front rest : List Settings} {layer : Settings} {value : α}
      (split : layers = front ++ layer :: rest) (sets : valueIn layer = some value)
      (silent : ∀ later ∈ rest, valueIn later = none) : LastSet valueIn layers (some value)

variable {valueIn : Settings → Option α} {layers : List Settings} {top : Settings}

theorem LastSet.of_sets {value : α} (sets : valueIn top = some value) :
    LastSet valueIn (layers ++ [top]) (some value) :=
  .last rfl sets (List.forall_mem_nil _)

theorem LastSet.of_silent {value : Option α} (below : LastSet valueIn layers value)
    (silent : valueIn top = none) : LastSet valueIn (layers ++ [top]) value := by
  cases below with
  | never before =>
      apply LastSet.never
      intro layer member
      rcases List.mem_append.mp member with inLayers | isTop
      · exact before layer inLayers
      · rw [List.mem_singleton.mp isTop]
        exact silent
  | @last front rest layer value split sets before =>
      have splitAbove : layers ++ [top] = front ++ layer :: (rest ++ [top]) := by
        rw [split, List.append_assoc, List.cons_append]
      refine .last splitAbove sets ?_
      intro later member
      rcases List.mem_append.mp member with inRest | isTop
      · exact before later inRest
      · rw [List.mem_singleton.mp isTop]
        exact silent

theorem Choice.lastSet_mergeAll (choice : Choice α) (layers : List Settings) :
    LastSet choice.valueIn layers (choice.valueIn (mergeAll layers)) := by
  induction layers using List.reverseRecOn with
  | nil =>
      rw [mergeAll, List.foldl_nil, choice.valueIn_unset]
      exact .never (List.forall_mem_nil _)
  | append_singleton front top induction =>
      rw [mergeAll_append_singleton, choice.valueIn_merge]
      cases found : choice.valueIn top with
      | none =>
          rw [Option.none_or]
          exact induction.of_silent found
      | some value => exact .of_sets found

theorem LastSet.isSome_iff {value : Option α} (last : LastSet valueIn layers value) :
    value.isSome = true ↔ ∃ layer ∈ layers, (valueIn layer).isSome = true := by
  cases last with
  | never silent =>
      constructor
      · intro set
        cases set
      · rintro ⟨layer, member, set⟩
        rw [silent layer member] at set
        cases set
  | @last front rest layer value split sets silent =>
      refine ⟨fun _ => ⟨layer, ?_, ?_⟩, fun _ => rfl⟩
      · rw [split]
        exact List.mem_append_right front List.mem_cons_self
      · rw [sets]
        rfl

/-- What is left of the layers: of settings that can be left open the last value that was set, and
of the lists of names the last one that lists any. Stripping is on if any layer asks for it. -/
structure Accumulated (layers : List Settings) (settings : Settings) : Prop where
  leading : LastSet (·.generate.leading) layers settings.generate.leading
  strip : settings.generate.strip = true ↔ ∃ layer ∈ layers, layer.generate.strip = true
  policy : LastSet (·.generate.policy) layers settings.generate.policy
  package : LastSet (·.examples.package) layers settings.examples.package
  target : LastSet (·.examples.target) layers settings.examples.target
  installDirectory : LastSet (·.examples.installDirectory) layers settings.examples.installDirectory
  toolsDirectory : LastSet (·.examples.toolsDirectory) layers settings.examples.toolsDirectory
  names : LastSet (listed ·.examples.names) layers (listed settings.examples.names)

theorem isSome_asked (strip : Bool) : (asked strip).isSome = strip := by
  cases strip <;> rfl

theorem accumulated_mergeAll (layers : List Settings) : Accumulated layers (mergeAll layers) where
  leading := Choice.leading.lastSet_mergeAll layers
  strip := by
    have asks := (Choice.strip.lastSet_mergeAll layers).isSome_iff
    simpa only [Choice.valueIn, isSome_asked] using asks
  policy := Choice.policy.lastSet_mergeAll layers
  package := Choice.package.lastSet_mergeAll layers
  target := Choice.target.lastSet_mergeAll layers
  installDirectory := Choice.installDirectory.lastSet_mergeAll layers
  toolsDirectory := Choice.toolsDirectory.lastSet_mergeAll layers
  names := Choice.names.lastSet_mergeAll layers

end SymbolBindings.Settings
