import Mathlib.Algebra.GroupWithZero.Nat
import Mathlib.Data.Rat.Defs

/-!
The environment of the process: the schema it is validated against at boot and the
part of the configuration object that the token service reads. What the schema library
takes for a URI or a number is a parameter. Defaults are kept as the texts that are
put into the environment.
-/

namespace IdpSaas

/-- Environment variables that are set, with their texts. -/
abbrev ProcessEnv := String → Option String

/-- The schema library: which texts are URIs, and which number a text denotes. -/
structure Joi where
  uri : String → Bool
  number : String → Option Rat

/-- `s.length` of a JavaScript string: its UTF-16 units. -/
def utf16Length (s : String) : Nat :=
  (s.toList.map fun c => if c.toNat < 0x10000 then 1 else 2).sum

/-- `Joi.string()` with the restrictions put on it. -/
structure StringRule where
  min : Nat := 0
  valid : Option (List String) := none
  uri : Bool := false
  allowEmpty : Bool := false

inductive Rule
  | string (rule : StringRule)
  | number

inductive Presence
  | required
  | optional
  | default (text : String)
  deriving DecidableEq

structure Variable where
  name : String
  rule : Rule
  presence : Presence

/-- The empty string passes only where it is allowed. -/
def StringRule.accepts (joi : Joi) (rule : StringRule) (text : String) : Bool :=
  if text = "" then rule.allowEmpty
  else
    decide (rule.min ≤ utf16Length text) && rule.valid.all (fun texts => texts.contains text) &&
      (!rule.uri || joi.uri text)

def Rule.accepts (joi : Joi) : Rule → String → Bool
  | .string rule, text => rule.accepts joi text
  | .number, text => (joi.number text).isSome

def envValidationSchema : List Variable :=
  [ ⟨"NODE_ENV", .string { valid := some ["development", "test", "production"] },
      .default "development"⟩,
    ⟨"PORT", .number, .default "3001"⟩,
    ⟨"API_PREFIX", .string {}, .default "api"⟩,
    ⟨"API_VERSION", .string {}, .default "v1"⟩,
    ⟨"LOG_LEVEL",
      .string { valid := some ["trace", "debug", "info", "warn", "error", "fatal"] },
      .default "info"⟩,
    ⟨"CORS_ORIGINS", .string {}, .default "http://localhost:3000"⟩,
    ⟨"DATABASE_URL", .string { uri := true }, .required⟩,
    ⟨"REDIS_HOST", .string {}, .default "localhost"⟩,
    ⟨"REDIS_PORT", .number, .default "6379"⟩,
    ⟨"REDIS_PASSWORD", .string { allowEmpty := true }, .optional⟩,
    ⟨"JWT_ACCESS_SECRET", .string { min := 32 }, .required⟩,
    ⟨"JWT_REFRESH_SECRET", .string { min := 32 }, .required⟩,
    ⟨"JWT_ACCESS_EXPIRES_IN", .string {}, .default "15m"⟩,
    ⟨"JWT_REFRESH_EXPIRES_IN", .string {}, .default "7d"⟩,
    ⟨"UPLOAD_DIR", .string {}, .default "./uploads"⟩,
    ⟨"MAX_FILE_SIZE_BYTES", .number, .default "10485760"⟩,
    ⟨"ALLOWED_MIME_TYPES", .string {}, .default "image/jpeg,image/png,image/webp"⟩,
    ⟨"THROTTLE_TTL_SECONDS", .number, .default "60"⟩,
    ⟨"THROTTLE_LIMIT", .number, .default "100"⟩,
    ⟨"PROCESSING_SIMULATED_DELAY_MS", .number, .default "4000"⟩,
    ⟨"OCR_SERVICE_URL", .string { uri := true }, .default "http://localhost:4000"⟩,
    ⟨"OCR_TIMEOUT_MS", .number, .default "120000"⟩ ]

/-- Variables that the schema does not name are let through. -/
def Variable.accepts (joi : Joi) (vars : ProcessEnv) (v : Variable) : Bool :=
  match vars v.name with
  | some text => v.rule.accepts joi text
  | none => decide (v.presence ≠ .required)

def ProcessEnv.accepted (joi : Joi) (vars : ProcessEnv) : Bool :=
  envValidationSchema.all (Variable.accepts joi vars)

/-- After validation the defaults of unset variables are put into the environment. -/
def ProcessEnv.withDefaults (vars : ProcessEnv) : ProcessEnv := fun name =>
  match vars name with
  | some text => some text
  | none =>
      match envValidationSchema.find? fun v => v.name == name with
      | some ⟨_, _, .default text⟩ => some text
      | _ => none

/-- `value || fallback`. -/
def orDefault (value : Option String) (fallback : String) : String :=
  match value with
  | some text => if text = "" then fallback else text
  | none => fallback

/-- The `jwt` section of the configuration object. -/
structure JwtConfig where
  accessSecret : Option String
  refreshSecret : Option String
  accessExpiresIn : String
  refreshExpiresIn : String
  deriving DecidableEq, Repr

def configuration (vars : ProcessEnv) : JwtConfig where
  accessSecret := vars "JWT_ACCESS_SECRET"
  refreshSecret := vars "JWT_REFRESH_SECRET"
  accessExpiresIn := orDefault (vars "JWT_ACCESS_EXPIRES_IN") "15m"
  refreshExpiresIn := orDefault (vars "JWT_REFRESH_EXPIRES_IN") "7d"

/-- An environment that the process boots with. -/
structure ValidEnv (joi : Joi) where
  vars : ProcessEnv
  accepted : vars.accepted joi = true

theorem ValidEnv.isSome_of_required {joi : Joi} (e : ValidEnv joi) {name : String} (rule : Rule)
    (required : ⟨name, rule, .required⟩ ∈ envValidationSchema) : (e.vars name).isSome = true := by
  have passed := List.all_eq_true.mp e.accepted _ required
  rw [Variable.accepts] at passed
  cases set : e.vars name with
  | some text => rfl
  | none => simp [set] at passed

/-- The configuration as it is loaded, after validation. -/
def ValidEnv.configuration {joi : Joi} (e : ValidEnv joi) : JwtConfig :=
  IdpSaas.configuration e.vars.withDefaults

theorem ProcessEnv.withDefaults_of_isSome {vars : ProcessEnv} {name : String}
    (set : (vars name).isSome = true) : vars.withDefaults name = vars name := by
  rw [withDefaults]
  cases value : vars name with
  | some text => rfl
  | none => simp [value] at set

theorem ValidEnv.accessSecret_eq {joi : Joi} (e : ValidEnv joi) :
    e.configuration.accessSecret = e.vars "JWT_ACCESS_SECRET" :=
  ProcessEnv.withDefaults_of_isSome
    (e.isSome_of_required (.string { min := 32 }) (by simp [envValidationSchema]))

theorem ValidEnv.refreshSecret_eq {joi : Joi} (e : ValidEnv joi) :
    e.configuration.refreshSecret = e.vars "JWT_REFRESH_SECRET" :=
  ProcessEnv.withDefaults_of_isSome
    (e.isSome_of_required (.string { min := 32 }) (by simp [envValidationSchema]))

/-- Both secrets are required, so the configuration has them. -/
theorem ValidEnv.accessSecret_isSome {joi : Joi} (e : ValidEnv joi) :
    e.configuration.accessSecret.isSome = true := by
  rw [e.accessSecret_eq]
  exact e.isSome_of_required (.string { min := 32 }) (by simp [envValidationSchema])

theorem ValidEnv.refreshSecret_isSome {joi : Joi} (e : ValidEnv joi) :
    e.configuration.refreshSecret.isSome = true := by
  rw [e.refreshSecret_eq]
  exact e.isSome_of_required (.string { min := 32 }) (by simp [envValidationSchema])

end IdpSaas
