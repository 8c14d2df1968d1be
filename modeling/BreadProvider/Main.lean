import BreadProvider.Config.Written

/-!
# Provider — the command line

`main`: what each command line leads to. A configuration reaches the runtime
only through loading, so everything that holds of loadable configurations
holds of the ones served.

Left out: the texts printed, and the run loop itself.
-/

namespace BreadProvider

/-- What `main` comes to, and its exit code. `checkHost` exits with the code
of the host-check envelope, `serve` with that of the run loop. -/
inductive MainOutcome where
  /-- Prints the version; 0. -/
  | version
  /-- Prints the schema envelope; 0. -/
  | configSchema
  /-- Prints the usage; 1. -/
  | usage
  | configError (what : String) (exitCode : Nat)
  /-- The config is valid; 0. -/
  | configValid (config : ProviderConfig)
  | checkHost (config : ProviderConfig)
  | serve (config : ProviderConfig)

structure MainArgs where
  configPath : String := ""
  checkConfigOnly : Bool := false
  checkHostOnly : Bool := false
  deriving DecidableEq

/-- The loop over `argv`. An error is an outcome reached before its end. -/
def parseArgs : List String → MainArgs → Except MainOutcome MainArgs
  | [], args => .ok args
  | arg :: rest, args =>
      if arg = "--version" then .error .version
      else if arg = "--config-schema" then .error .configSchema
      else
        match rest with
        | [] => .error .usage
        | path :: rest =>
            if arg = "--check-config" then
              parseArgs rest
                { args with configPath := path, checkConfigOnly := true }
            else if arg = "--check-host" then
              parseArgs rest
                { args with configPath := path, checkHostOnly := true }
            else if arg = "--config" then
              parseArgs rest { args with configPath := path }
            else .error .usage

/-- What follows the loop. -/
def runArgs (sdk : ConfigSdk) (args : MainArgs) : MainOutcome :=
  if args.configPath = "" then .usage
  else if args.checkHostOnly then
    match loadConfig sdk args.configPath with
    | .error what => .configError what 2
    | .ok config => .checkHost config
  else
    match loadConfig sdk args.configPath with
    | .error what => .configError what 1
    | .ok config =>
        if args.checkConfigOnly then .configValid config else .serve config

/-- `main` with the arguments after the program's name. -/
def main (sdk : ConfigSdk) (argv : List String) : MainOutcome :=
  match parseArgs argv {} with
  | .error outcome => outcome
  | .ok args => runArgs sdk args

/-! ## The options of a command line -/

/-- An option with its path. -/
inductive MainOption where
  | checkConfig (path : String)
  | checkHost (path : String)
  | config (path : String)
  deriving DecidableEq

namespace MainOption

def words : MainOption → List String
  | .checkConfig path => ["--check-config", path]
  | .checkHost path => ["--check-host", path]
  | .config path => ["--config", path]

def apply (args : MainArgs) : MainOption → MainArgs
  | .checkConfig path =>
      { args with configPath := path, checkConfigOnly := true }
  | .checkHost path => { args with configPath := path, checkHostOnly := true }
  | .config path => { args with configPath := path }

def path : MainOption → String
  | .checkConfig path | .checkHost path | .config path => path

def checksHost : MainOption → Bool
  | .checkHost _ => true
  | _ => false

def checksConfig : MainOption → Bool
  | .checkConfig _ => true
  | _ => false

end MainOption

theorem parseArgs_words (option : MainOption) (rest : List String)
    (args : MainArgs) :
    parseArgs (option.words ++ rest) args
      = parseArgs rest (option.apply args) := by
  cases option <;>
    simp [MainOption.words, MainOption.apply, parseArgs]

theorem parseArgs_options (options : List MainOption) (rest : List String)
    (args : MainArgs) :
    parseArgs (options.flatMap MainOption.words ++ rest) args
      = parseArgs rest (options.foldl MainOption.apply args) := by
  induction options generalizing args with
  | nil => rfl
  | cons option options ih =>
      rw [List.flatMap_cons, List.append_assoc, parseArgs_words, ih]
      rfl

/-- The loop gets to its end exactly on a list of options, and has applied
them in order. -/
theorem parseArgs_ok_iff {argv : List String} {args args' : MainArgs} :
    parseArgs argv args = .ok args' ↔ ∃ options : List MainOption,
      argv = options.flatMap MainOption.words ∧
      args' = options.foldl MainOption.apply args := by
  constructor
  · intro h
    fun_induction parseArgs argv args with
    | case1 args =>
        obtain rfl := Except.ok.inj h
        exact ⟨[], rfl, rfl⟩
    | case2 | case3 | case4 | case8 => cases h
    | case5 args path rest _ _ ih =>
        obtain ⟨options, rfl, hargs⟩ := ih h
        exact ⟨.checkConfig path :: options, rfl, hargs⟩
    | case6 args path rest _ _ _ ih =>
        obtain ⟨options, rfl, hargs⟩ := ih h
        exact ⟨.checkHost path :: options, rfl, hargs⟩
    | case7 args path rest _ _ _ _ ih =>
        obtain ⟨options, rfl, hargs⟩ := ih h
        exact ⟨.config path :: options, rfl, hargs⟩
  · intro ⟨options, hargv, hargs⟩
    subst hargv hargs
    have h := parseArgs_options options [] args
    rw [List.append_nil] at h
    exact h

/-- Where the loop ends early, options come first, and what ends it is the
word after them. -/
theorem parseArgs_error {argv : List String} {args : MainArgs}
    {outcome : MainOutcome} (h : parseArgs argv args = .error outcome) :
    ∃ (options : List MainOption) (word : String) (rest : List String),
      argv = options.flatMap MainOption.words ++ word :: rest ∧
      outcome = if word = "--version" then .version
        else if word = "--config-schema" then .configSchema else .usage := by
  fun_induction parseArgs argv args with
  | case1 => cases h
  | case2 rest =>
      obtain rfl := Except.error.inj h
      exact ⟨[], _, rest, rfl, rfl⟩
  | case3 rest =>
      obtain rfl := Except.error.inj h
      exact ⟨[], _, rest, rfl, rfl⟩
  | case4 arg _ hversion hschema =>
      obtain rfl := Except.error.inj h
      exact ⟨[], arg, [], rfl, by rw [if_neg hversion, if_neg hschema]⟩
  | case5 args path rest _ _ ih =>
      obtain ⟨options, word, after, rfl, houtcome⟩ := ih h
      exact ⟨.checkConfig path :: options, word, after, rfl, houtcome⟩
  | case6 args path rest _ _ _ ih =>
      obtain ⟨options, word, after, rfl, houtcome⟩ := ih h
      exact ⟨.checkHost path :: options, word, after, rfl, houtcome⟩
  | case7 args path rest _ _ _ _ ih =>
      obtain ⟨options, word, after, rfl, houtcome⟩ := ih h
      exact ⟨.config path :: options, word, after, rfl, houtcome⟩
  | case8 arg _ hversion hschema path rest =>
      obtain rfl := Except.error.inj h
      exact ⟨[], arg, path :: rest, rfl,
        by rw [if_neg hversion, if_neg hschema]⟩

/-- The last path is the one that counts; a check once asked for stays. -/
theorem foldl_apply (options : List MainOption) (args : MainArgs) :
    options.foldl MainOption.apply args =
      { configPath :=
          (options.getLast?.map MainOption.path).getD args.configPath
        checkConfigOnly :=
          args.checkConfigOnly || options.any MainOption.checksConfig
        checkHostOnly :=
          args.checkHostOnly || options.any MainOption.checksHost } := by
  induction options generalizing args with
  | nil => simp
  | cons option rest ih =>
      have hlast : ((option :: rest).getLast?.map MainOption.path).getD
            args.configPath
          = (rest.getLast?.map MainOption.path).getD option.path := by
        rw [List.getLast?_cons]
        cases rest.getLast? <;> rfl
      rw [List.foldl_cons, ih, hlast]
      cases option <;>
        simp [MainOption.apply, MainOption.path, MainOption.checksConfig,
          MainOption.checksHost]

/-! ## What a command line leads to -/

/-- `argv` is these options, and the last names the file at `path`. -/
structure CommandLine (argv : List String) (options : List MainOption)
    (path : String) : Prop where
  words : argv = options.flatMap MainOption.words
  last : options.getLast?.map MainOption.path = some path
  named : path ≠ ""

section CommandLines

variable {sdk : ConfigSdk} {argv : List String}

/-- What the file at `path` comes to under these options. -/
def fileOutcome (sdk : ConfigSdk) (options : List MainOption)
    (path : String) : MainOutcome :=
  match loadConfig sdk path with
  | .error what =>
      .configError what (if options.any MainOption.checksHost then 2 else 1)
  | .ok config =>
      if options.any MainOption.checksHost then .checkHost config
      else if options.any MainOption.checksConfig then .configValid config
      else .serve config

theorem CommandLine.main_eq {options : List MainOption} {path : String}
    (h : CommandLine argv options path) :
    main sdk argv = fileOutcome sdk options path := by
  have hparse : parseArgs argv {} = .ok (options.foldl MainOption.apply {}) :=
    parseArgs_ok_iff.mpr ⟨options, h.words, rfl⟩
  rw [foldl_apply, h.last] at hparse
  unfold main
  rw [hparse]
  simp only [runArgs, Option.getD_some, h.named, if_false, Bool.false_or,
    fileOutcome]
  cases options.any MainOption.checksHost <;> cases loadConfig sdk path <;>
    rfl

/-- Anything but a command line prints the version, the schema or the usage;
no file is read. -/
theorem main_cases (sdk : ConfigSdk) (argv : List String) :
    (∃ options path, CommandLine argv options path) ∨
    main sdk argv ∈ [MainOutcome.version, .configSchema, .usage] := by
  unfold main
  cases hparse : parseArgs argv {} with
  | error outcome =>
      obtain ⟨options, word, rest, -, rfl⟩ := parseArgs_error hparse
      right
      show (if word = "--version" then MainOutcome.version
        else if word = "--config-schema" then .configSchema else .usage) ∈ _
      split
      · simp
      · split <;> simp
  | ok args =>
      obtain ⟨options, hwords, hargs⟩ := parseArgs_ok_iff.mp hparse
      rw [foldl_apply] at hargs
      subst hargs
      by_cases hempty :
          (options.getLast?.map MainOption.path).getD "" = ""
      · right
        simp [runArgs, hempty]
      · left
        cases hlast : options.getLast?.map MainOption.path with
        | none => simp [hlast] at hempty
        | some path =>
            rw [hlast] at hempty
            exact ⟨options, path, hwords, hlast, hempty⟩

theorem main_eq_iff {outcome : MainOutcome}
    (h : outcome ∉ [MainOutcome.version, .configSchema, .usage]) :
    main sdk argv = outcome ↔ ∃ options path,
      CommandLine argv options path ∧
      fileOutcome sdk options path = outcome := by
  constructor
  · intro hmain
    rcases main_cases sdk argv with ⟨options, path, hline⟩ | hother
    · exact ⟨options, path, hline, hline.main_eq.symm.trans hmain⟩
    · exact absurd (hmain ▸ hother) h
  · intro ⟨options, path, hline, hfile⟩
    exact hline.main_eq.trans hfile

theorem fileOutcome_loadable (hsdk : sdk.Lawful) {options : List MainOption}
    {path : String} {config : ProviderConfig}
    (h : fileOutcome sdk options path ∈ [MainOutcome.serve config,
      .configValid config, .checkHost config]) : config.Loadable := by
  unfold fileOutcome at h
  cases hload : loadConfig sdk path with
  | error what => simp [hload] at h
  | ok loaded =>
      obtain rfl : loaded = config := by
        cases hhost : options.any MainOption.checksHost <;>
          cases hconfig : options.any MainOption.checksConfig <;>
          simpa [hload, hhost, hconfig] using h
      exact loadConfig_loadable hsdk hload

/-- A file is served, or found valid, or its host checked, exactly when the
command line is a list of options whose last path loads: `--check-host`
anywhere wins over `--check-config`, and either over serving. Every config
reached so is one the runtime may rely on. A file that does not load is
reported, with exit code 2 exactly where the host check was asked for. -/
theorem command_line_law (hsdk : sdk.Lawful) :
    (∀ config, main sdk argv = .serve config ↔
      ∃ options path, CommandLine argv options path ∧
        loadConfig sdk path = .ok config ∧
        options.any MainOption.checksHost = false ∧
        options.any MainOption.checksConfig = false) ∧
    (∀ config, main sdk argv = .configValid config ↔
      ∃ options path, CommandLine argv options path ∧
        loadConfig sdk path = .ok config ∧
        options.any MainOption.checksHost = false ∧
        options.any MainOption.checksConfig = true) ∧
    (∀ config, main sdk argv = .checkHost config ↔
      ∃ options path, CommandLine argv options path ∧
        loadConfig sdk path = .ok config ∧
        options.any MainOption.checksHost = true) ∧
    (∀ what exitCode, main sdk argv = .configError what exitCode ↔
      ∃ options path, CommandLine argv options path ∧
        loadConfig sdk path = .error what ∧
        exitCode = if options.any MainOption.checksHost then 2 else 1) ∧
    ∀ config, main sdk argv ∈ [MainOutcome.serve config, .configValid config,
      .checkHost config] → config.Loadable := by
  have hserve : ∀ config, (.serve config : MainOutcome)
      ∉ [MainOutcome.version, .configSchema, .usage] := by simp
  have hvalid : ∀ config, (.configValid config : MainOutcome)
      ∉ [MainOutcome.version, .configSchema, .usage] := by simp
  have hhost : ∀ config, (.checkHost config : MainOutcome)
      ∉ [MainOutcome.version, .configSchema, .usage] := by simp
  have herror : ∀ what exitCode, (.configError what exitCode : MainOutcome)
      ∉ [MainOutcome.version, .configSchema, .usage] := by simp
  refine ⟨fun config => ?_, fun config => ?_, fun config => ?_,
    fun what exitCode => ?_, fun config hmain => ?_⟩
  · rw [main_eq_iff (hserve config)]
    refine exists_congr fun options => exists_congr fun path =>
      and_congr_right fun _ => ?_
    unfold fileOutcome
    cases loadConfig sdk path <;>
      cases options.any MainOption.checksHost <;>
      cases options.any MainOption.checksConfig <;> simp
  · rw [main_eq_iff (hvalid config)]
    refine exists_congr fun options => exists_congr fun path =>
      and_congr_right fun _ => ?_
    unfold fileOutcome
    cases loadConfig sdk path <;>
      cases options.any MainOption.checksHost <;>
      cases options.any MainOption.checksConfig <;> simp
  · rw [main_eq_iff (hhost config)]
    refine exists_congr fun options => exists_congr fun path =>
      and_congr_right fun _ => ?_
    unfold fileOutcome
    cases loadConfig sdk path <;>
      cases options.any MainOption.checksHost <;>
      cases options.any MainOption.checksConfig <;> simp
  · rw [main_eq_iff (herror what exitCode)]
    refine exists_congr fun options => exists_congr fun path =>
      and_congr_right fun _ => ?_
    unfold fileOutcome
    cases loadConfig sdk path <;>
      cases options.any MainOption.checksHost <;>
      cases options.any MainOption.checksConfig <;>
      simp [eq_comm]
  · rcases main_cases sdk argv with ⟨options, path, hline⟩ | hother
    · rw [hline.main_eq] at hmain
      exact fileOutcome_loadable hsdk hmain
    · simp only [List.mem_cons, List.not_mem_nil, or_false] at hmain hother
      rcases hother with h | h | h <;> simp [h] at hmain

open Reference in
theorem command_line_law_check :
    main (configSdk strayDocument)
        ["--check-host", "bread.yaml", "--config", "bread.yaml"]
      = .checkHost config :=
  ((command_line_law (configSdk_lawful strayDocument)).2.2.1 config).mpr
    ⟨[.checkHost "bread.yaml", .config "bread.yaml"], "bread.yaml",
      ⟨rfl, rfl, by decide⟩,
      loadRoot_written (configSdk_lawful strayDocument) "bread.yaml"
        config_loadable strayDocument_writes, rfl⟩

end CommandLines

end BreadProvider
