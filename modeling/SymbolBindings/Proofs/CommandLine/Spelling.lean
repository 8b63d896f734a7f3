import Mathlib.Tactic
import SymbolBindings.CommandLine.Reader

/-! # Spelling

Every request for declarations can be asked for in words: there is a flag for each of its parts, and
flags can be given together in every combination.
-/

namespace SymbolBindings

namespace CommandLine

/-- A key and its value in one word. -/
def Key.spelled (key : Key) (value : String) : String :=
  "--" ++ (Flag.key key).word ++ "=" ++ value

def Switch.spelled (switch : Switch) : String :=
  "--" ++ (Flag.switch switch).word

/-- What was given, and a value for a key if there is one. -/
def Given.adding (given : Given) (key : Key) (value : Option String) : Given :=
  { given with values := (value.map (key, ·)).toList ++ given.values }

theorem equals_notMem_word (flag : Flag) : '=' ∉ flag.word.toList := by
  rcases flag with switch | key
  · cases switch <;> decide
  · cases key <;> decide

theorem shape_of_long {word : String} {text : List Char} (spelled : word.toList = '-' :: '-' :: text)
    (something : text ≠ []) : shape word = .long text := by
  rw [shape, spelled]
  cases text with
  | nil => exact absurd rfl something
  | cons first rest => rfl

variable {level : Level} {given : Given}

theorem readLong_key {key : Key} (known : level.flagOfWord (Flag.key key).word = some (.key key))
    (value : String) :
    readLong level given ((Flag.key key).word.toList ++ '=' :: value.toList) =
      (given.withValue key value).map (·, none) := by
  have plain : ∀ letter ∈ (Flag.key key).word.toList, (letter != '=') = true := by
    intro letter member
    rw [bne_iff_ne]
    rintro rfl
    exact equals_notMem_word _ member
  unfold readLong
  rw [List.takeWhile_append_of_pos plain, List.dropWhile_append_of_pos plain]
  simp only [List.takeWhile_cons_of_neg, List.dropWhile_cons_of_neg, bne_self_eq_false,
    Bool.false_eq_true, not_false_eq_true, List.append_nil, String.ofList_toList, known]
  cases given.withValue key value <;> rfl

/-- A word that is a flag of its own is read, and the words after it follow. -/
theorem readLevel_long {word : String} {text : List Char} {after : Given}
    (shaped : shape word = .long text) (read : readLong level given text = .ok (after, none))
    (rest : List String) :
    readLevel level given none (word :: rest) = readLevel level after none rest := by
  rw [readLevel.eq_def]
  simp only [shaped, read]
  rfl

theorem readLevel_key {key : Key} (known : level.flagOfWord (Flag.key key).word = some (.key key))
    {value : Option String} (suits : ∀ given, value = some given → key.suits given = true)
    (unset : given.values.lookup key = none) (rest : List String) :
    readLevel level given none ((value.map key.spelled).toList ++ rest) =
      readLevel level (given.adding key value) none rest := by
  cases value with
  | none => rfl
  | some value =>
      have spelled : (key.spelled value).toList =
          '-' :: '-' :: ((Flag.key key).word.toList ++ '=' :: value.toList) := by
        simp [Key.spelled]
      have added : given.withValue key value = .ok (given.adding key (some value)) := by
        simp [Given.withValue, unset, suits value rfl, Given.adding]
      change readLevel level given none (key.spelled value :: rest) = _
      apply readLevel_long (shape_of_long spelled (by simp))
      rw [readLong_key known, added]
      rfl

theorem readLevel_strip {strip : Bool} (unset : Switch.strip ∉ given.switches)
    (rest : List String) :
    readLevel .generate given none ((if strip then [Switch.strip.spelled] else []) ++ rest) =
      readLevel .generate
        { given with switches := (if strip then [.strip] else []) ++ given.switches } none rest := by
  cases strip with
  | false => rfl
  | true =>
      have added : given.withSwitch .strip =
          .ok { given with switches := .strip :: given.switches } := by
        simp [Given.withSwitch, unset]
      have spelled : Switch.strip.spelled.toList = '-' :: '-' :: "strip-prefix".toList := by
        decide
      have read : readLong .generate given "strip-prefix".toList =
          (given.withSwitch .strip).map (·, none) := by
        change (given.withSwitch .strip >>= fun given => pure (given, none)) = _
        cases given.withSwitch .strip <;> rfl
      change readLevel .generate given none (Switch.strip.spelled :: rest) = _
      apply readLevel_long (shape_of_long spelled (by decide))
      rw [read, added]
      rfl

theorem readLevel_divider (word : String) (suits : level.suits given.plainWords.length word) :
    readLevel level given none ["--", word] =
      .ok ({ given with plainWords := given.plainWords ++ [word] }, []) := by
  have divides : shape "--" = .divider := rfl
  have added : readPlain level given [word] =
      .ok { given with plainWords := given.plainWords ++ [word] } := by
    change (given.withPlainWord level word >>= fun given => pure given) = _
    rw [Given.withPlainWord, if_pos suits]
    rfl
  unfold readLevel
  simp only [divides, added]
  rfl

/-! ## Requests -/

/-- Words that ask for declarations in the way of a request. -/
def words (request : GenerateRequest) : List String :=
  "generate" ::
    ((request.leading.map Key.leading.spelled).toList ++
      ((if request.strip then [Switch.strip.spelled] else []) ++
        (((request.policy.map Policy.text).map Key.policy.spelled).toList ++
          ((request.output.map Key.output.spelled).toList ++ ["--", request.table]))))

/-- What these words give after the name of the command. -/
def givenBy (request : GenerateRequest) : Given :=
  ⟨if request.strip then [.strip] else [],
    (request.output.map (Key.output, ·)).toList ++
      (((request.policy.map Policy.text).map (Key.policy, ·)).toList ++
        ((request.leading.map (Key.leading, ·)).toList ++ [])),
    [request.table]⟩

theorem ofWord_text (policy : Policy) : Policy.ofWord policy.text = some policy := by
  cases policy <;> decide

theorem readLevel_words {request : GenerateRequest} (table : request.table ≠ "")
    (output : request.output ≠ some "") :
    readLevel .generate .nothing none (words request).tail = .ok (givenBy request, []) := by
  have suitsLeading : ∀ value, request.leading = some value → Key.leading.suits value = true :=
    fun _ _ => rfl
  have suitsPolicy : ∀ value, request.policy.map Policy.text = some value →
      Key.policy.suits value = true := by
    intro value spelled
    rcases Option.map_eq_some_iff.mp spelled with ⟨policy, -, rfl⟩
    rw [Key.suits, ofWord_text]
    rfl
  have suitsOutput : ∀ value, request.output = some value → Key.output.suits value = true := by
    intro value spelled
    rw [Key.suits, bne_iff_ne]
    rintro rfl
    exact output spelled
  have noStrip : Switch.strip ∉ (Given.nothing.adding .leading request.leading).switches := by
    simp [Given.adding, Given.nothing]
  unfold words
  rw [List.tail_cons, readLevel_key rfl suitsLeading rfl, readLevel_strip noStrip,
    readLevel_key rfl suitsPolicy, readLevel_key rfl suitsOutput, readLevel_divider]
  · simp [givenBy, Given.adding, Given.nothing]
  · simp [Level.suits, Given.adding, Given.nothing, table]
  · cases request.leading <;> cases request.policy <;> rfl
  · cases request.leading <;> rfl

theorem taskOf_givenBy (request : GenerateRequest) :
    taskOf .generate (givenBy request) = some (.generate request) := by
  rcases request with ⟨table, leading, strip, policy, output⟩
  have spelled : ((policy.map Policy.text).bind Policy.ofWord) = policy := by
    cases policy with
    | none => rfl
    | some policy => exact ofWord_text policy
  have values : (givenBy ⟨table, leading, strip, policy, output⟩).value .leading = leading ∧
      (givenBy ⟨table, leading, strip, policy, output⟩).value .policy =
        policy.map Policy.text ∧
      (givenBy ⟨table, leading, strip, policy, output⟩).value .output = output := by
    cases leading <;> cases policy <;> cases output <;> exact ⟨rfl, rfl, rfl⟩
  have stripped : (givenBy ⟨table, leading, strip, policy, output⟩).has .strip = strip := by
    cases strip <;> rfl
  unfold taskOf
  rw [show (givenBy ⟨table, leading, strip, policy, output⟩).plainWords = [table] from rfl]
  simp only [values, stripped, spelled]

theorem givenBy_silent (request : GenerateRequest) :
    (givenBy request).value .settings = none ∧ (givenBy request).has .verbose = false ∧
      (givenBy request).has .plain = false := by
  rcases request with ⟨table, leading, strip, policy, output⟩
  cases leading <;> cases strip <;> cases policy <;> cases output <;> exact ⟨rfl, rfl, rfl⟩

/-- The words of a request are read as that request, whichever of its parts are open. -/
theorem read_words {request : GenerateRequest} (table : request.table ≠ "")
    (output : request.output ≠ some "") {environment : Option String}
    (named : environment ≠ some "") :
    read environment (words request) =
      .invocation ⟨false, false, environment, .generate request⟩ := by
  have root : readLevel .root .nothing none (words request) =
      .ok (.nothing, words request) := rfl
  have command : Level.ofCommand "generate" = some .generate := rfl
  have file : settingsFile none none environment = .ok environment := by
    unfold settingsFile
    rw [if_neg (by simp [named])]
    rfl
  have inner := readLevel_words table output
  rcases givenBy_silent request with ⟨settings, verbose, plain⟩
  have read : invocation environment (words request) =
      .ok ⟨false, false, environment, .generate request⟩ := by
    unfold invocation
    simp only [root, bind, Except.bind]
    rw [show words request = "generate" :: (words request).tail from rfl]
    simp only [command, inner]
    rw [show Given.nothing.value .settings = none from rfl, settings, file]
    simp only [taskOf_givenBy, verbose, plain]
    rfl
  rw [CommandLine.read, read]

end CommandLine

end SymbolBindings
