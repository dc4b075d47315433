import VoucherProxy.Sample

namespace VoucherProxy.Config

/-! What the variables that steer the program itself do to a configuration that
is loaded beside them. -/

/-- What `init_tracing` reads. -/
def tracingVariables : List String := ["UVP_LOG", "UVP_LOG_FORMAT"]

/-- What the command line falls back to. -/
def commandVariables : List String := ["UVP_CONFIG", "UVP_HEALTHCHECK_URL"]

/-- The fields of `Config`. -/
def fields : List String := ["server", "controller", "limits", "tokens"]

/-- The environment with some variables removed. -/
def Environment.without (environment : Environment) (names : List String) : Environment :=
  environment.filter fun setting => setting.1 ∉ names

/-- Some of these variables is set. -/
def Environment.Sets (environment : Environment) (names : List String) : Prop :=
  ∃ setting ∈ environment, setting.1 ∈ names

/-- `deny_unknown_fields`: a key that begins with no field of `Config` is refused. -/
def DeniesUnknownFields [Figment] : Prop :=
  ∀ (file : Option String) (settings : List (List String × String)) (field : String)
    (rest : List String) (value : String),
    (field :: rest, value) ∈ settings → field ∉ fields →
    ∃ why, Figment.extract file settings = .error why

/-- The file and the environment make a valid configuration. -/
def Acceptable [Figment] (path file : Option String) (environment : Environment) : Prop :=
  (path.isSome = true → file.isSome = true) ∧
    ∃ cfg : Config, Figment.extract (path.bind fun _ => file) (overlay environment) = .ok cfg ∧
      cfg.Valid

/-! ## The overlay, variable by variable -/

/-- The key that a variable is laid over, unless it is ignored. -/
def keyOf (name : String) : Option (List String) :=
  (Text.stripStart (Text.toAsciiLowercase name) "uvp_").bind fun key =>
    if key = "log" ∨ key = "log_format" then none else some (key.splitOn "__")

theorem overlay_eq (environment : Environment) :
    overlay environment =
      environment.filterMap fun setting => (keyOf setting.1).map fun key => (key, setting.2) := by
  unfold overlay
  congr 1
  funext setting
  rw [keyOf, Option.map_bind]
  congr 1
  funext key
  rw [Function.comp_apply, apply_ite (Option.map _)]
  rfl

theorem keyOf_tracing : ∀ name ∈ tracingVariables, keyOf name = none := by
  have log : Text.stripStart (Text.toAsciiLowercase "UVP_LOG") "uvp_" = some "log" := by decide
  have format : Text.stripStart (Text.toAsciiLowercase "UVP_LOG_FORMAT") "uvp_" =
      some "log_format" := by
    decide
  intro name member
  simp only [tracingVariables, List.mem_cons, List.not_mem_nil, or_false] at member
  rcases member with rfl | rfl
  · rw [keyOf, log]
    rfl
  · rw [keyOf, format]
    rfl

theorem keyOf_command : ∀ name ∈ commandVariables, ∃ field, keyOf name = some [field] ∧
    field ∉ fields := by
  have config : Text.stripStart (Text.toAsciiLowercase "UVP_CONFIG") "uvp_" = some "config" := by
    decide
  have url : Text.stripStart (Text.toAsciiLowercase "UVP_HEALTHCHECK_URL") "uvp_" =
      some "healthcheck_url" := by
    decide
  have configWhole : "config".splitOn "__" = ["config"] := by
    simp +decide [String.splitOn, String.splitOnAux]
  have urlWhole : "healthcheck_url".splitOn "__" = ["healthcheck_url"] := by
    simp +decide [String.splitOn, String.splitOnAux]
  intro name member
  simp only [commandVariables, List.mem_cons, List.not_mem_nil, or_false] at member
  rcases member with rfl | rfl
  · refine ⟨"config", ?_, by decide⟩
    rw [keyOf, config, Option.bind_some, if_neg (by decide), configWhole]
  · refine ⟨"healthcheck_url", ?_, by decide⟩
    rw [keyOf, url, Option.bind_some, if_neg (by decide), urlWhole]

/-- Variables that are ignored may be removed. -/
theorem overlay_without {environment : Environment} {names : List String}
    (ignored : ∀ setting ∈ environment, setting.1 ∈ names → keyOf setting.1 = none) :
    overlay (environment.without names) = overlay environment := by
  rw [overlay_eq, overlay_eq, Environment.without, List.filterMap_filter]
  apply List.filterMap_congr
  intro setting member
  by_cases listed : setting.1 ∈ names
  · rw [ignored setting member listed]
    simp
  · simp [listed]

/-! ## Loading -/

section

variable [Figment]

theorem load_congr {path file : Option String} {environment twin : Environment}
    (same : overlay environment = overlay twin) :
    load path file environment = load path file twin := by
  unfold load
  rw [same]

theorem load_without_tracing (path file : Option String) (environment : Environment) :
    load path file (environment.without tracingVariables) = load path file environment :=
  load_congr (overlay_without fun setting _ listed => keyOf_tracing setting.1 listed)

theorem toOption_load (path file : Option String) (environment : Environment) (cfg : Config) :
    (load path file environment).toOption = some cfg ↔
      load path file environment = .ok cfg := by
  cases load path file environment <;> simp [Except.toOption]

theorem toOption_load_eq_none {path file : Option String} {environment : Environment} :
    (load path file environment).toOption = none ↔ ¬ Acceptable path file environment := by
  rw [Option.eq_none_iff_forall_ne_some]
  simp only [ne_eq, toOption_load, load_eq_ok, Acceptable]
  rw [← not_exists, exists_and_left]

/-- A variable of the command line makes every file unacceptable. -/
theorem not_acceptable_of_command (denies : DeniesUnknownFields) {path file : Option String}
    {environment : Environment} (sets : environment.Sets commandVariables) :
    ¬ Acceptable path file environment := by
  rcases sets with ⟨setting, member, listed⟩
  rcases keyOf_command setting.1 listed with ⟨field, key, unknown⟩
  rintro ⟨-, cfg, extracted, -⟩
  have laid : ([field], setting.2) ∈ overlay environment := by
    rw [overlay_eq]
    exact List.mem_filterMap.mpr ⟨setting, member, by rw [key]; rfl⟩
  rcases denies (path.bind fun _ => file) _ field [] setting.2 laid unknown with ⟨why, refused⟩
  rw [refused] at extracted
  cases extracted

theorem load_without (path file : Option String) {environment : Environment}
    (unset : ¬ environment.Sets commandVariables) :
    load path file (environment.without (tracingVariables ++ commandVariables)) =
      load path file environment := by
  apply load_congr
  apply overlay_without
  intro setting member listed
  rcases List.mem_append.mp listed with tracing | command
  · exact keyOf_tracing setting.1 tracing
  · exact absurd ⟨setting, member, command⟩ unset

/-- Environments that differ in the tracing variables alone load the same. If they
also differ in those of the command line, then the same is loaded exactly when
both set some of these, or none does, or nothing acceptable is left without them. -/
theorem load_steered_iff (denies : DeniesUnknownFields) (path file : Option String)
    (environment twin : Environment) :
    (environment.without tracingVariables = twin.without tracingVariables →
      load path file environment = load path file twin) ∧
    (environment.without (tracingVariables ++ commandVariables) =
        twin.without (tracingVariables ++ commandVariables) →
      ((load path file environment).toOption = (load path file twin).toOption ↔
        ((environment.Sets commandVariables ↔ twin.Sets commandVariables) ∨
          ¬ Acceptable path file
            (environment.without (tracingVariables ++ commandVariables))))) := by
  constructor
  · intro agree
    rw [← load_without_tracing path file environment, agree, load_without_tracing]
  intro agree
  have blocked : ∀ {environment : Environment}, environment.Sets commandVariables →
      (load path file environment).toOption = none :=
    fun sets => toOption_load_eq_none.mpr (not_acceptable_of_command denies sets)
  rw [← toOption_load_eq_none]
  by_cases sets : environment.Sets commandVariables
  · by_cases twinSets : twin.Sets commandVariables
    · rw [blocked sets, blocked twinSets]
      exact iff_of_true rfl (.inl (iff_of_true sets twinSets))
    · rw [blocked sets, agree, load_without path file twinSets]
      simp only [sets, twinSets, iff_false, not_true, false_or]
      exact eq_comm
  · by_cases twinSets : twin.Sets commandVariables
    · rw [blocked twinSets, load_without path file sets]
      simp only [sets, twinSets, iff_true, false_or]
    · rw [← load_without path file sets, agree, load_without path file twinSets]
      exact iff_of_true rfl (.inl (iff_of_false sets twinSets))

end

section

open Sample

/-- A file that is read as long as no unknown key is laid over it. -/
local instance denying : Figment where
  extract file settings :=
    if settings.all fun setting => setting.1.all fun field => field ∈ fields then
      crates.extract file settings
    else .error "unknown field"

theorem denies : DeniesUnknownFields := by
  intro file settings field rest value member unknown
  refine ⟨"unknown field", if_neg ?_⟩
  intro each
  have known := List.all_eq_true.mp (List.all_eq_true.mp each _ member) field (by simp)
  exact unknown (of_decide_eq_true known)

theorem extract_cfgFile : Figment.extract (some cfgFile) (overlay []) = .ok cfg :=
  (if_pos rfl).trans (if_pos rfl)

/-- The logging variables change nothing, and the command-line variables both spoil
what would be loaded. -/
theorem load_steered_iff_sample :
    load (some "config.toml") (some cfgFile) [("UVP_LOG", "debug")] =
      load (some "config.toml") (some cfgFile) [] ∧
    (load (some "config.toml") (some cfgFile)
        [("UVP_CONFIG", "a.toml"), ("UVP_LOG_FORMAT", "json")]).toOption =
      (load (some "config.toml") (some cfgFile) [("UVP_HEALTHCHECK_URL", "http://a")]).toOption := by
  constructor
  · exact (load_steered_iff denies _ _ _ _).1 (by decide)
  · apply ((load_steered_iff denies _ _ _ _).2 (by decide)).mpr
    exact .inl (iff_of_true ⟨_, List.mem_cons_self, by decide⟩ ⟨_, List.mem_cons_self, by decide⟩)

/-- The variable that names the file keeps the file from being loaded. -/
theorem config_variable_refused :
    load (some "config.toml") (some cfgFile) [] = .ok cfg ∧
    load (some "config.toml") (some cfgFile) [("UVP_CONFIG", "config.toml")] ≠ .ok cfg := by
  constructor
  · exact load_eq_ok.mpr ⟨fun _ => rfl, extract_cfgFile, validate_eq_ok.mp rfl⟩
  · intro loaded
    rcases load_eq_ok.mp loaded with ⟨present, extracted, valid⟩
    have sets : Environment.Sets [("UVP_CONFIG", "config.toml")] commandVariables :=
      ⟨_, List.mem_cons_self, by decide⟩
    exact not_acceptable_of_command denies sets ⟨present, cfg, extracted, valid⟩

end

end VoucherProxy.Config
