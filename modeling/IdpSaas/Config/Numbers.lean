import IdpSaas.Config
import IdpSaas.Lib.Numeral

/-!
The numeric settings. The schema validates the number that a text denotes and leaves the
text in the environment; `configuration` reads it once more, with `parseInt`.
-/

namespace IdpSaas

/-- `parseInt(value || fallback, 10)`, where `none` is `NaN`. -/
def parseSetting (value : Option String) (fallback : String) : Option Int :=
  Numeral.parseInt (orDefault value fallback).toList

structure NumericConfig where
  port : Option Int
  redisPort : Option Int
  maxFileSizeBytes : Option Int
  throttleTtl : Option Int
  throttleLimit : Option Int
  simulatedDelayMs : Option Int
  ocrTimeoutMs : Option Int
  deriving DecidableEq, Repr

def numericConfiguration (vars : ProcessEnv) : NumericConfig where
  port := parseSetting (vars "PORT") "3001"
  redisPort := parseSetting (vars "REDIS_PORT") "6379"
  maxFileSizeBytes := parseSetting (vars "MAX_FILE_SIZE_BYTES") "10485760"
  throttleTtl := parseSetting (vars "THROTTLE_TTL_SECONDS") "60"
  throttleLimit := parseSetting (vars "THROTTLE_LIMIT") "100"
  simulatedDelayMs := parseSetting (vars "PROCESSING_SIMULATED_DELAY_MS") "4000"
  ocrTimeoutMs := parseSetting (vars "OCR_TIMEOUT_MS") "120000"

inductive Setting
  | port | redisPort | maxFileSizeBytes | throttleTtl | throttleLimit | simulatedDelayMs
  | ocrTimeoutMs
  deriving DecidableEq, Repr

namespace Setting

def envVar : Setting → Variable
  | .port => ⟨"PORT", .number, .default "3001"⟩
  | .redisPort => ⟨"REDIS_PORT", .number, .default "6379"⟩
  | .maxFileSizeBytes => ⟨"MAX_FILE_SIZE_BYTES", .number, .default "10485760"⟩
  | .throttleTtl => ⟨"THROTTLE_TTL_SECONDS", .number, .default "60"⟩
  | .throttleLimit => ⟨"THROTTLE_LIMIT", .number, .default "100"⟩
  | .simulatedDelayMs => ⟨"PROCESSING_SIMULATED_DELAY_MS", .number, .default "4000"⟩
  | .ocrTimeoutMs => ⟨"OCR_TIMEOUT_MS", .number, .default "120000"⟩

def of (config : NumericConfig) : Setting → Option Int
  | .port => config.port
  | .redisPort => config.redisPort
  | .maxFileSizeBytes => config.maxFileSizeBytes
  | .throttleTtl => config.throttleTtl
  | .throttleLimit => config.throttleLimit
  | .simulatedDelayMs => config.simulatedDelayMs
  | .ocrTimeoutMs => config.ocrTimeoutMs

end Setting

/-- A text that the schema library takes for a number denotes that number. -/
def Joi.Reads (joi : Joi) : Prop :=
  ∀ text q, joi.number text = some q → ∃ d, Numeral.read text.toList = some d ∧ d.value = q

def Presence.number : Presence → Option Rat
  | .default text => (Numeral.read text.toList).map Numeral.value
  | .required | .optional => none

/-- The number that the schema has validated for a variable, or its default. -/
def ProcessEnv.validated (joi : Joi) (vars : ProcessEnv) (v : Variable) : Option Rat :=
  match vars v.name with
  | some text => joi.number text
  | none => v.presence.number

/-- A text with a digit before the point, only zeros behind it, and no exponent but zero,
unless there are only zeros. -/
def WrittenAsInteger (text : String) : Prop :=
  ∃ d, Numeral.read text.toList = some d ∧ d.Plain

instance (text : String) : Decidable (WrittenAsInteger text) :=
  decidable_of_iff ((Numeral.read text.toList).any fun d => d.Plain)
    (by simp [WrittenAsInteger, Option.any_eq_true])

/-- The numbers as they are loaded, after validation. -/
def ValidEnv.numbers {joi : Joi} (e : ValidEnv joi) : NumericConfig :=
  numericConfiguration e.vars.withDefaults

section Settings
variable {joi : Joi}

theorem Setting.mem_schema (s : Setting) : s.envVar ∈ envValidationSchema := by
  cases s <;> simp [Setting.envVar, envValidationSchema]

theorem Setting.number_rule (s : Setting) : s.envVar.rule = .number := by
  cases s <;> rfl

theorem Setting.of_set (s : Setting) {vars : ProcessEnv} {text : String}
    (set : vars s.envVar.name = some text) (nonempty : text ≠ "") :
    s.of (numericConfiguration vars.withDefaults) = Numeral.parseInt text.toList := by
  have kept : vars.withDefaults s.envVar.name = some text := by
    rw [ProcessEnv.withDefaults_of_isSome (set ▸ rfl), set]
  have read : ∀ fallback, parseSetting (some text) fallback = Numeral.parseInt text.toList := by
    intro fallback
    rw [parseSetting, orDefault, if_neg nonempty]
  cases s
  all_goals
    rw [Setting.of, numericConfiguration]
    exact (congrArg (parseSetting · _) kept).trans (read _)

theorem ProcessEnv.withDefaults_of_unset {vars : ProcessEnv} {name text : String}
    (unset : vars name = none) {v : Variable}
    (found : (envValidationSchema.find? fun v => v.name == name) = some v)
    (default : v.presence = .default text) : vars.withDefaults name = some text := by
  obtain ⟨_, _, _⟩ := v
  subst default
  simp only [withDefaults, unset, found]

/-- An unset variable has its default on both sides. -/
theorem Setting.of_unset (s : Setting) {vars : ProcessEnv} (unset : vars s.envVar.name = none) :
    (s.of (numericConfiguration vars.withDefaults)).map (Int.cast : Int → Rat) =
      s.envVar.presence.number := by
  have loaded : ∀ text, s.envVar.presence = .default text →
      vars.withDefaults s.envVar.name = some text := fun text default =>
    ProcessEnv.withDefaults_of_unset unset (by cases s <;> rfl) default
  have same : ∀ value text, value = some text → ∀ fallback,
      parseSetting value fallback = parseSetting (some text) fallback := by
    rintro _ _ rfl fallback
    rfl
  cases s
  all_goals
    rw [Setting.of, numericConfiguration]
    refine (congrArg (Option.map _) (same _ _ (loaded _ rfl) _)).trans ?_
    decide +kernel

theorem Setting.accepted (e : ValidEnv joi) (s : Setting) {text : String}
    (set : e.vars s.envVar.name = some text) : ∃ q, joi.number text = some q := by
  have passed := List.all_eq_true.mp e.accepted _ s.mem_schema
  rw [Variable.accepts, set, s.number_rule] at passed
  exact Option.isSome_iff_exists.mp passed

/-- The configured number is the validated one exactly when the variable is unset or its
text is written as an integer. -/
theorem numbers_used_iff (e : ValidEnv joi) (reads : joi.Reads) (s : Setting) :
    (s.of e.numbers).map (Int.cast : Int → Rat) = e.vars.validated joi s.envVar ↔
      ∀ text, e.vars s.envVar.name = some text → WrittenAsInteger text := by
  rw [ValidEnv.numbers, ProcessEnv.validated]
  cases set : e.vars s.envVar.name with
  | none => exact iff_of_true (s.of_unset set) fun text unset => nomatch unset
  | some text =>
      obtain ⟨q, number⟩ := s.accepted e set
      obtain ⟨d, read, value⟩ := reads text q number
      have nonempty : text ≠ "" := by
        rintro rfl
        exact nomatch (read : Numeral.read [] = some d)
      dsimp only
      rw [s.of_set set nonempty, Numeral.parseInt_of_read read, number, ← value,
        d.leading_eq_value_iff]
      constructor
      · rintro plain _ ⟨⟩
        exact ⟨d, read, plain⟩
      · intro written
        obtain ⟨d', read', plain⟩ := written text rfl
        rwa [Option.some.inj (read.symm.trans read')]

end Settings

namespace Config.Sample

/-- A schema library that takes every text for a URI and reads numbers as they are written. -/
def joi : Joi := ⟨fun _ => true, fun text => (Numeral.read text.toList).map Numeral.value⟩

theorem joi_reads : joi.Reads := fun _ _ number => Option.map_eq_some_iff.mp number

/-- Two minutes for the OCR service, in scientific notation. -/
def scientific : ProcessEnv := fun name =>
  if name = "DATABASE_URL" then some "postgresql://idp@localhost:5432/idp"
  else if name = "JWT_ACCESS_SECRET" then some "change-me-to-a-strong-random-string"
  else if name = "JWT_REFRESH_SECRET" then some "change-me-to-another-strong-random-string"
  else if name = "OCR_TIMEOUT_MS" then some "1.2e5"
  else if name = "PORT" then some " +8080.0 "
  else none

def booted : ValidEnv joi := ⟨scientific, by decide +kernel⟩

end Config.Sample

theorem numbers_used_port :
    (Setting.port.of Config.Sample.booted.numbers).map (Int.cast : Int → Rat) =
      Config.Sample.scientific.validated Config.Sample.joi Setting.port.envVar :=
  (numbers_used_iff Config.Sample.booted Config.Sample.joi_reads .port).mpr fun _ set =>
    Option.some.inj set ▸ by decide +kernel

/-- The schema validates two minutes, and the configuration gets one millisecond. -/
theorem scientific_timeout_misread :
    Config.Sample.booted.numbers.ocrTimeoutMs = some 1 ∧
      (Setting.ocrTimeoutMs.of Config.Sample.booted.numbers).map (Int.cast : Int → Rat) ≠
        Config.Sample.scientific.validated Config.Sample.joi Setting.ocrTimeoutMs.envVar := by
  constructor
  · decide +kernel
  · decide +kernel

end IdpSaas
