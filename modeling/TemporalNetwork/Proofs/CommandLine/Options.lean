import TemporalNetwork.CommandLine.Arguments

/-!
Command lines that give each option by its name and its value in the next word. Main statement: if
such a command line can be read, every value was told from an option, and the settings come from the
options one after the other. Of any other command line it is shown that it keeps what no option breaks.
-/

namespace TemporalNetwork.CommandLine

namespace Flag

def name (flag : Flag) : String := flag.names.headD ""

theorem named?_name (flag : Flag) : named? flag.name = some flag := by
  cases flag <;> decide +kernel

theorem exists_toList_name (flag : Flag) : ∃ letters, flag.name.toList = '-' :: letters := by
  cases flag <;> exact ⟨_, rfl⟩

theorem name_ne (flag : Flag) : flag.name ≠ "--" := by
  cases flag <;> decide

theorem classify_name (flag : Flag) : classify flag.name = .ok (.option flag flag.name none) := by
  obtain ⟨letters, dashed⟩ := flag.exists_toList_name
  rw [classify, dashed]
  simp only [classifyDashed, flag.named?_name]

end Flag

def spell (options : List (Flag × String)) : List String :=
  options.flatMap fun (flag, given) => [flag.name, given]

def Settings.setAll (settings : Settings) : List (Flag × String) → Except Stop Settings
  | [] => .ok settings
  | (flag, given) :: rest =>
    match readSetting flag given with
    | .error stop => .error stop
    | .ok value => (settings.set flag value).setAll rest

theorem Settings.setAll_cons_eq_ok {settings final : Settings} {flag : Flag} {given : String}
    {rest : List (Flag × String)} :
    settings.setAll ((flag, given) :: rest) = .ok final ↔
      ∃ value, readSetting flag given = .ok value ∧
        (settings.set flag value).setAll rest = .ok final := by
  rw [setAll]
  cases readSetting flag given <;> simp

theorem Settings.setAll_nil_eq_ok {settings final : Settings} :
    settings.setAll [] = .ok final ↔ settings = final := by
  rw [setAll, Except.ok.injEq]

theorem Settings.read_of_ne {given : String} (proper : given ≠ "--") (settings : Settings)
    (flag : Flag) :
    settings.read flag given = (readSetting flag given).map (settings.set flag) := by
  rw [read, if_neg proper]

section Words

variable {settings : Settings} {left : List String} {flag : Flag} {given : String}

/-- An option and the word after it. Two dashes are no value, and end what is told of the words. -/
theorem classifyAll_option {rest : List String} {words : List (String × Word)}
    (classified : classifyAll (flag.name :: given :: rest) = .ok words) :
    ∃ kind others, words = (flag.name, .option flag flag.name none) :: (given, kind) :: others ∧
      (kind = .value → given ≠ "--" ∧ classifyAll rest = .ok others) := by
  rw [classifyAll, if_neg flag.name_ne, flag.classify_name] at classified
  split at classified
  · cases classified
  · cases classified
  · next own tail same later =>
    cases same
    cases classified
    rw [classifyAll] at later
    split at later
    · cases later
      exact ⟨.unknown, _, rfl, nofun⟩
    · next proper =>
      split at later
      · cases later
      · cases later
      · next kind others _ further =>
        cases later
        exact ⟨kind, others, rfl, fun _ => ⟨proper, further⟩⟩

/-- An option takes the next word, which has to be a value. -/
theorem takeWords_option {name : String} {kind : Word} {rest : List (String × Word)}
    {done : Settings × List String}
    (taken : takeWords settings left ((name, .option flag name none) :: (given, kind) :: rest) =
      .ok done) :
    kind = .value ∧ ∃ after, settings.read flag given = .ok after ∧
      takeWords after left rest = .ok done := by
  generalize line : (name, Word.option flag name none) :: (given, kind) :: rest = words at taken
  unfold takeWords at taken
  split at taken
  · cases line
  · cases taken
  · cases line
  · cases line
    split at taken
    · cases taken
    · next after entered => exact ⟨rfl, after, entered, taken⟩
  · cases taken
  · next plain =>
    cases line
    exact (plain _ _ rfl).elim

theorem takeWords_spell {options : List (Flag × String)} {words : List (String × Word)}
    {done : Settings × List String} (classified : classifyAll (spell options) = .ok words)
    (taken : takeWords settings left words = .ok done) :
    settings.setAll options = .ok done.1 := by
  induction options generalizing settings words with
  | nil =>
    cases classified
    cases taken
    rfl
  | cons option rest ih =>
    obtain ⟨flag, given⟩ := option
    obtain ⟨kind, others, rfl, value⟩ := classifyAll_option classified
    obtain ⟨told, after, entered, further⟩ := takeWords_option taken
    obtain ⟨proper, later⟩ := value told
    rw [Settings.read_of_ne proper] at entered
    rw [Settings.setAll]
    cases own : readSetting flag given with
    | error stop =>
      rw [own] at entered
      cases entered
    | ok read =>
      rw [own] at entered
      cases entered
      exact ih later further

end Words

theorem setAll_of_parse {level : String} {options : List (Flag × String)} {settings : Settings}
    (read : parse level (spell options) = .ok settings) :
    (Settings.initial level).setAll options = .ok settings := by
  rw [parse] at read
  split at read
  · cases read
  · next words classified =>
    split at read
    · cases read
    · next final left taken =>
      split at read
      · split at read
        · cases read
          exact takeWords_spell classified taken
        · cases read
      · cases read

/-! ## Any command line -/

section Preserved

variable {holds : Settings → Prop}
variable (step : ∀ settings flag given after, settings.read flag given = .ok after →
  holds settings → holds after)
include step

theorem takeWords_preserves {settings : Settings} {left : List String}
    {words : List (String × Word)} {done : Settings × List String} (start : holds settings)
    (taken : takeWords settings left words = .ok done) : holds done.1 := by
  -- By the recursion: an option that is read changes the settings once, and a word that is no option
  -- is only put aside.
  fun_induction takeWords settings left words with
  | case1 =>
    cases taken
    exact start
  | case2 | case3 | case5 | case7 => cases taken
  | case4 settings _ _ flag _ given _ _ after entered ih
  | case6 settings _ _ flag _ given _ _ after entered ih =>
    exact ih (step settings flag given after entered start) taken
  | case8 _ _ _ _ _ _ _ _ _ ih => exact ih start taken

theorem parse_preserves {level : String} {arguments : List String} {settings : Settings}
    (start : holds (.initial level)) (parsed : parse level arguments = .ok settings) :
    holds settings := by
  rw [parse] at parsed
  split at parsed
  · cases parsed
  · split at parsed
    · cases parsed
    · next final left taken =>
      split at parsed
      · split at parsed
        · cases parsed
          exact takeWords_preserves step start taken
        · cases parsed
      · cases parsed

end Preserved

end TemporalNetwork.CommandLine
