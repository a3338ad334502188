import IdpSaas.Auth.Tokens
import IdpSaas.Lib.Numeral
import Mathlib.Data.Rat.Floor

/-!
The lifetime that `issueTokens` reports. It reads the configured text on its own, beside
the JWT library: digits and one letter, and 15 minutes for all else. The library reads
decimals with any of its units, and milliseconds where there is none.
-/

namespace IdpSaas
open AuthService

namespace Timespan
open Numeral

/-- The names of the units, and what they are in milliseconds. -/
def units : List (List String × Nat) :=
  [ (["", "milliseconds", "millisecond", "msecs", "msec", "ms"], 1),
    (["seconds", "second", "secs", "sec", "s"], 1000),
    (["minutes", "minute", "mins", "min", "m"], 60000),
    (["hours", "hour", "hrs", "hr", "h"], 3600000),
    (["days", "day", "d"], 86400000),
    (["weeks", "week", "w"], 604800000),
    (["years", "year", "yrs", "yr", "y"], 31557600000) ]

def unit (name : List Char) : Option Nat :=
  (units.find? fun u => u.1.contains (String.ofList name)).map Prod.snd

/-- Digits, and maybe a point with digits behind it. -/
def decimal (s : List Char) : Option (Numeral × List Char) :=
  match fractionPart (afterDigits s) with
  | ([], _) => if digits s = [] then none else some (⟨false, digits s, [], 0⟩, afterDigits s)
  | (fraction, rest) => some (⟨false, digits s, fraction, 0⟩, rest)

/-- Milliseconds: a decimal, spaces, and the name of a unit in letters of either case. -/
def read (text : String) : Option Rat :=
  match decimal text.toList with
  | none => none
  | some (d, rest) =>
      (unit ((rest.dropWhile (· = ' ')).map Char.toLower)).map fun u => d.magnitude * u

end Timespan

/-- A lifetime that the library reads is one of its grammar, in whole seconds. -/
def Jwt.ReadsTimespans {τ : Type} (jwt : Jwt τ) : Prop :=
  ∀ text (seconds : Nat), jwt.seconds text = some seconds →
    ∃ ms, Timespan.read text = some ms ∧ ⌊ms / 1000⌋ = (seconds : Int)

/-- The seconds in the units that `parseExpiresInToSeconds` knows. -/
def plainUnit : List Char → Option Nat
  | ['s'] => some 1
  | ['m'] => some 60
  | ['h'] => some 3600
  | ['d'] => some 86400
  | _ => none

/-- Digits, and one of the letters `s`, `m`, `h`, `d`. -/
def PlainTimespan (text : String) : Prop :=
  Numeral.digits text.toList ≠ [] ∧ (plainUnit (Numeral.afterDigits text.toList)).isSome = true

instance (text : String) : Decidable (PlainTimespan text) := inferInstanceAs (Decidable (_ ∧ _))

/-- The library reads 15 minutes, to the second. -/
def QuarterHour (text : String) : Prop :=
  ∃ ms, Timespan.read text = some ms ∧ 900000 ≤ ms ∧ ms < 901000

section Reading
open Numeral

theorem foldl_digits (s : List Char) :
    (s.takeWhile Char.isDigit).foldl (fun n c => 10 * n + (c.toNat - 48)) 0 =
      number (digits s) := by
  rw [number, digits, List.foldl_map]
  refine List.foldl_ext _ _ 0 fun n c hc => ?_
  rw [digit_val (List.mem_takeWhile_imp hc)]

theorem plainUnit_eq_some {s : List Char} {u : Nat} (h : plainUnit s = some u) :
    s = ['s'] ∧ u = 1 ∨ s = ['m'] ∧ u = 60 ∨ s = ['h'] ∧ u = 3600 ∨ s = ['d'] ∧ u = 86400 := by
  unfold plainUnit at h
  split at h <;> cases h <;> simp

theorem parseExpiresInToSeconds_plain {text : String} {u : Nat} (some_ : digits text.toList ≠ [])
    (unit : plainUnit (afterDigits text.toList) = some u) :
    parseExpiresInToSeconds text = number (digits text.toList) * u := by
  rw [digits, ne_eq, List.map_eq_nil_iff] at some_
  rw [parseExpiresInToSeconds, foldl_digits]
  obtain ⟨c, cs, chars⟩ := List.exists_cons_of_ne_nil some_
  rw [chars]
  rcases plainUnit_eq_some unit with ⟨rest, rfl⟩ | ⟨rest, rfl⟩ | ⟨rest, rfl⟩ | ⟨rest, rfl⟩
  all_goals
    rw [afterDigits] at rest
    rw [rest]
  · exact (Nat.mul_one _).symm
  all_goals rfl

theorem parseExpiresInToSeconds_other {text : String} (other : ¬PlainTimespan text) :
    parseExpiresInToSeconds text = 900 := by
  rw [PlainTimespan, digits, afterDigits, ne_eq, List.map_eq_nil_iff] at other
  rw [parseExpiresInToSeconds]
  cases chars : text.toList.takeWhile Char.isDigit with
  | nil => rfl
  | cons c cs =>
      have silent : ¬(plainUnit (text.toList.dropWhile Char.isDigit)).isSome = true :=
        fun known => other ⟨chars ▸ List.cons_ne_nil c cs, known⟩
      split
      · rfl
      · next rest _ => exact absurd (rest ▸ rfl) silent
      · next rest _ => exact absurd (rest ▸ rfl) silent
      · next rest _ => exact absurd (rest ▸ rfl) silent
      · next rest _ => exact absurd (rest ▸ rfl) silent
      · rfl

theorem timespan_plain {text : String} {u : Nat} (some_ : digits text.toList ≠ [])
    (unit : plainUnit (afterDigits text.toList) = some u) :
    Timespan.read text = some ((number (digits text.toList) * u : Nat) * 1000 : Rat) := by
  have magnitude : (⟨false, digits text.toList, [], 0⟩ : Numeral).magnitude =
      number (digits text.toList) := by
    rw [Numeral.magnitude, List.append_nil]
    simp
  rcases plainUnit_eq_some unit with ⟨rest, rfl⟩ | ⟨rest, rfl⟩ | ⟨rest, rfl⟩ | ⟨rest, rfl⟩
  all_goals
    have known : Timespan.decimal text.toList =
        some (⟨false, digits text.toList, [], 0⟩, afterDigits text.toList) := by
      rw [Timespan.decimal, rest]
      exact if_neg some_
    rw [Timespan.read, known, rest]
    refine congrArg some ?_
    rw [magnitude]
    push_cast
    ring

/-- Of the lifetimes that are not digits and one letter, the service is right about
those of 15 minutes. -/
theorem parseExpiresInToSeconds_eq_iff {text : String} {ms : Rat} {seconds : Nat}
    (read : Timespan.read text = some ms) (whole : ⌊ms / 1000⌋ = (seconds : Int)) :
    parseExpiresInToSeconds text = seconds ↔ PlainTimespan text ∨ QuarterHour text := by
  by_cases plain : PlainTimespan text
  · refine iff_of_true ?_ (Or.inl plain)
    obtain ⟨some_, known⟩ := plain
    obtain ⟨u, unit⟩ := Option.isSome_iff_exists.mp known
    rw [timespan_plain some_ unit] at read
    rw [← Option.some.inj read, mul_div_cancel_right₀ _ (by norm_num : (1000 : Rat) ≠ 0),
      Int.floor_natCast, Nat.cast_inj] at whole
    rw [parseExpiresInToSeconds_plain some_ unit, whole]
  · have quarter : (900 : Int) = ⌊ms / 1000⌋ ↔ 900000 ≤ ms ∧ ms < 901000 := by
      rw [eq_comm, Int.floor_eq_iff]
      constructor
      · rintro ⟨low, high⟩
        push_cast at low high
        constructor <;> linarith
      · rintro ⟨low, high⟩
        push_cast
        constructor <;> linarith
    rw [parseExpiresInToSeconds_other plain, or_iff_right plain, QuarterHour, read]
    constructor
    · rintro rfl
      exact ⟨ms, rfl, quarter.mp whole.symm⟩
    · rintro ⟨_, ⟨⟩, bounds⟩
      have same := (quarter.mpr bounds).trans whole
      exact_mod_cast same

end Reading

section Reported
variable {τ : Type}

/-- In a configuration that the schema accepts, the reported lifetime is that of the access
token exactly when it is configured as digits and one of four letters, or is 15 minutes. -/
theorem reported_lifetime_iff {joi : Joi} (env : AuthEnv τ) (e : ValidEnv joi)
    (reads : env.jwt.ReadsTimespans) (now : Time) (payload : JwtPayload) (tokens : AuthTokenDto τ)
    (issued : issueTokens (env.configure e) now payload = .ok tokens) :
    ∃ seconds, env.jwt.seconds e.configuration.accessExpiresIn = some seconds ∧
      tokens.accessToken =
        env.jwt.sign (env.configure e).accessSecret (stamp now payload seconds) ∧
      (tokens.expiresIn =
          (stamp now payload seconds).exp - (stamp now payload seconds).iat ↔
        PlainTimespan e.configuration.accessExpiresIn ∨
          QuarterHour e.configuration.accessExpiresIn) := by
  obtain ⟨access, refresh, ha, -, accessToken, -⟩ := of_issueTokens issued
  obtain ⟨ms, read, whole⟩ := reads _ access ha
  have reported : tokens.expiresIn = parseExpiresInToSeconds e.configuration.accessExpiresIn :=
    issued_expiresIn issued
  refine ⟨access, ha, accessToken, ?_⟩
  rw [reported, stamp, Nat.add_sub_cancel_left]
  exact parseExpiresInToSeconds_eq_iff read whole

end Reported

namespace Auth.Sample

theorem signed_verifies (secret signedWith : String) (now : Nat) (claims : JwtClaims) :
    env.jwt.verify secret now (env.jwt.sign signedWith claims) =
      if secret = signedWith ∧ now < claims.exp then some claims else none :=
  env.jwt.verify_sign secret signedWith now claims

def timespans : Jwt (String × JwtClaims) where
  seconds text := (Timespan.read text).bind fun ms =>
    if 0 ≤ ⌊ms / 1000⌋ then some ⌊ms / 1000⌋.toNat else none
  sign := env.jwt.sign
  verify := env.jwt.verify
  verify_sign := signed_verifies

theorem timespans_reads : timespans.ReadsTimespans := by
  intro text seconds h
  obtain ⟨ms, read, known⟩ := Option.bind_eq_some_iff.mp h
  split at known
  · next nonneg =>
      cases known
      exact ⟨ms, read, (Int.toNat_of_nonneg nonneg).symm⟩
  · cases known

def lasting (lifetime : String) : ProcessEnv := fun name =>
  if name = "DATABASE_URL" then some "postgresql://idp@localhost:5432/idp"
  else if name = "JWT_ACCESS_SECRET" then some "change-me-to-a-strong-random-string"
  else if name = "JWT_REFRESH_SECRET" then some "change-me-to-another-strong-random-string"
  else if name = "JWT_ACCESS_EXPIRES_IN" then some lifetime
  else none

theorem hours_accepted : (lasting "2h").accepted ⟨fun _ => true, fun _ => some 0⟩ = true := by
  decide +kernel

theorem weeks_accepted : (lasting "1 week").accepted ⟨fun _ => true, fun _ => some 0⟩ = true := by
  decide +kernel

def hours : ValidEnv ⟨fun _ => true, fun _ => some 0⟩ := ⟨lasting "2h", hours_accepted⟩

def weeks : ValidEnv ⟨fun _ => true, fun _ => some 0⟩ := ⟨lasting "1 week", weeks_accepted⟩

def signing : AuthEnv (String × JwtClaims) := { env with jwt := timespans }

def payload : JwtPayload := ⟨"user", "tenant", .owner⟩

/-- What `issueTokens` reports, and how long its access token lives. -/
def lifetimes (e : ValidEnv ⟨fun _ => true, fun _ => some 0⟩) : Option (Nat × Nat) :=
  (issueTokens (signing.configure e) 5000 payload).toOption.map fun tokens =>
    (tokens.expiresIn, tokens.accessToken.2.exp - tokens.accessToken.2.iat)

def hoursTokens : AuthTokenDto (String × JwtClaims) where
  accessToken := ("change-me-to-a-strong-random-string", stamp 5000 payload 7200)
  refreshToken := ("change-me-to-another-strong-random-string", stamp 5000 payload 604800)
  expiresIn := 7200
  tokenType := "Bearer"

end Auth.Sample

theorem reported_lifetime_hours :
    ∃ seconds, Auth.Sample.timespans.seconds "2h" = some seconds ∧
      Auth.Sample.hoursTokens.expiresIn = (stamp 5000 Auth.Sample.payload seconds).exp -
        (stamp 5000 Auth.Sample.payload seconds).iat := by
  have issued : issueTokens (Auth.Sample.signing.configure Auth.Sample.hours) 5000
      Auth.Sample.payload = .ok Auth.Sample.hoursTokens := by decide +kernel
  obtain ⟨seconds, read, -, reported⟩ := reported_lifetime_iff Auth.Sample.signing
    Auth.Sample.hours Auth.Sample.timespans_reads 5000 Auth.Sample.payload _ issued
  exact ⟨seconds, read, reported.mpr (Or.inl (by decide +kernel))⟩

/-- An access token of a week is reported to live 15 minutes. -/
theorem week_reported_as_quarter_hour :
    Auth.Sample.lifetimes Auth.Sample.weeks = some (900, 604800) := by
  decide +kernel

end IdpSaas
