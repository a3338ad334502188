import IdpSaas.Auth.Validation
import IdpSaas.Auth.Sessions

/-!
The registration form and the API behind it. A blank name is left out of the body, and
the API refuses a body without one: the form and the API agree exactly on the forms whose
name is not blank.
-/

namespace IdpSaas

def trim (s : String) : String := String.ofList (Text.trim s.toList)

structure RegisterForm where
  tenantName : String
  tenantSlug : String
  fullName : String
  email : String
  password : String
  deriving DecidableEq, Repr

namespace RegisterForm

/-- `x || undefined`. -/
def orUndefined (s : String) : Option String := if s = "" then none else some s

/-- What `handleSubmit` gives to `api.register`. -/
def input (toLowerCase : String → String) (form : RegisterForm) : JsonValue :=
  .ofFields
    [ ("tenantName", some (.string (trim form.tenantName))),
      ("tenantSlug", some (.string (toLowerCase (trim form.tenantSlug)))),
      ("email", some (.string (trim form.email))),
      ("password", some (.string form.password)),
      ("fullName", (orUndefined (trim form.fullName)).map .string) ]

def body (format : JsonValue.Format) (toLowerCase : String → String) (form : RegisterForm) :
    String :=
  (form.input toLowerCase).stringify format

/-- The form is filled in as the page asks, with any name of at most 100 characters. -/
structure Filled (lib : Validator) (form : RegisterForm) : Prop where
  tenantName : 2 ≤ lib.length (trim form.tenantName).toList ∧
    lib.length (trim form.tenantName).toList ≤ 100
  slug : slugPattern.test form.tenantSlug.toList = true
  slugLength : 2 ≤ lib.length form.tenantSlug.toList ∧ lib.length form.tenantSlug.toList ≤ 40
  email : lib.isEmail (trim form.email).toList = true
  password : 8 ≤ lib.length form.password.toList ∧ lib.length form.password.toList ≤ 128
  fullName : lib.length form.fullName.toList ≤ 100

/-- The API takes the form's body, and a registration that succeeds stores the trimmed name
of the owner, none if it is blank. -/
def Agrees {τ : Type} (env : AuthEnv τ) (lib : Validator) (format : JsonValue.Format)
    (form : RegisterForm) : Prop :=
  ∃ dto, ValidationPipe.receive lib format RegisterDto.properties
      (form.body format env.toLowerCase) = some (.ok dto) ∧
    ∀ now g db response db',
      AuthService.register env now g (RegisterDto.of dto) db = (.ok response, db') →
        ∃ tenant owner,
          db' = { db with tenants := db.tenants ++ [tenant], users := db.users ++ [owner] } ∧
            owner.fullName = orUndefined (trim form.fullName)

section Agreement
variable {τ : Type} {env : AuthEnv τ} {lib : Validator} {format : JsonValue.Format}
  {form : RegisterForm}

def members (env : AuthEnv τ) (form : RegisterForm) : ValidationPipe.Members :=
  [ ("tenantName", .string (trim form.tenantName)),
    ("tenantSlug", .string (env.toLowerCase (trim form.tenantSlug))),
    ("email", .string (trim form.email)),
    ("password", .string form.password) ]

theorem input_blank (blank : trim form.fullName = "") :
    form.input env.toLowerCase = .object (members env form) := by
  rw [input, orUndefined, if_pos blank]
  rfl

theorem input_named (named : trim form.fullName ≠ "") :
    form.input env.toLowerCase =
      .object (members env form ++ [("fullName", .string (trim form.fullName))]) := by
  rw [input, orUndefined, if_neg named]
  rfl

theorem plain_input (form : RegisterForm) : (form.input env.toLowerCase).Plain := by
  by_cases blank : trim form.fullName = ""
  · rw [input_blank blank]
    simp [members]
  · rw [input_named blank]
    simp [members]

theorem receive_body {ms : ValidationPipe.Members}
    (input : form.input env.toLowerCase = .object ms) :
    ValidationPipe.receive lib format RegisterDto.properties (form.body format env.toLowerCase) =
      some (ValidationPipe.transform lib format RegisterDto.properties ms) := by
  rw [ValidationPipe.receive, body, JsonValue.parse_stringify (plain_input form), input]

theorem isSpace_of_slug {c : Char} (h : (c.isLower || c.isDigit || c == '-') = true) :
    Text.isSpace c = false := by
  have range : 45 ≤ c.toNat ∧ c.toNat ≤ 122 := by
    rw [Bool.or_eq_true, Bool.or_eq_true, beq_iff_eq] at h
    rcases h with (lower | digit) | rfl
    · obtain ⟨low, high⟩ : decide (c.val ≥ 97) = true ∧ decide (c.val ≤ 122) = true :=
        Bool.and_eq_true_iff.mp lower
      exact ⟨le_trans (by decide) (show 97 ≤ c.toNat from of_decide_eq_true low),
        of_decide_eq_true high⟩
    · obtain ⟨low, high⟩ : decide (c.val ≥ 48) = true ∧ decide (c.val ≤ 57) = true :=
        Bool.and_eq_true_iff.mp digit
      exact ⟨le_trans (by decide) (show 48 ≤ c.toNat from of_decide_eq_true low),
        le_trans (show c.toNat ≤ 57 from of_decide_eq_true high) (by decide)⟩
    · decide
  by_contra space
  rw [Bool.not_eq_false, Text.isSpace, Bool.or_eq_true, Bool.or_eq_true, decide_eq_true_eq,
    decide_eq_true_eq, List.contains_iff_mem] at space
  rcases space with (tab | wide) | other
  · omega
  · omega
  · simp only [List.mem_cons, List.not_mem_nil, or_false] at other
    omega

theorem trim_slug {s : String} (slug : slugPattern.test s.toList = true) : trim s = s := by
  have chars := (Bool.and_eq_true _ _ ▸ slug).2
  rw [trim, Text.trim_of_no_space fun c hc => isSpace_of_slug (List.all_eq_true.mp chars c hc),
    String.ofList_toList]

/-- Every constraint on the body holds of a form that is filled in, once its name is not blank. -/
theorem errors_named (lower : ∀ s, slugPattern.test s.toList = true → env.toLowerCase s = s)
    (filled : form.Filled lib) :
    ValidationPipe.errors lib RegisterDto.properties
      (members env form ++ [("fullName", .string (trim form.fullName))]) = [] := by
  have slug : env.toLowerCase (trim form.tenantSlug) = form.tenantSlug := by
    rw [trim_slug filled.slug, lower _ filled.slug]
  have name : lib.length (trim form.fullName).toList ≤ 100 := by
    rw [trim, String.toList_ofList]
    exact (lib.length_trim _).trans filled.fullName
  rw [ValidationPipe.errors_eq_nil_iff]
  constructor
  · simp [members, RegisterDto.properties]
  · simp [members, RegisterDto.properties, JsonValue.field, Constraint.accepts, slug,
      filled.tenantName, filled.slug, filled.slugLength, filled.email, filled.password, name]

theorem convertMembers_named (dto : List Property) :
    ValidationPipe.convertMembers format dto
        (members env form ++ [("fullName", .string (trim form.fullName))]) =
      some (members env form ++ [("fullName", .string (trim form.fullName))]) := by
  apply ValidationPipe.convertMembers_texts
  · simp [members, ValidationPipe.dropped]
  · simp [members]
  · simp [members]

/-- The body of a form that is filled in is taken, once its name is not blank. -/
theorem body_received (lower : ∀ s, slugPattern.test s.toList = true → env.toLowerCase s = s)
    (filled : form.Filled lib) (named : trim form.fullName ≠ "") :
    ValidationPipe.receive lib format RegisterDto.properties (form.body format env.toLowerCase) =
      some (.ok (.object (members env form ++ [("fullName", .string (trim form.fullName))]))) := by
  rw [receive_body (input_named named)]
  exact congrArg some
    (ValidationPipe.transform_of_errors (convertMembers_named _) (errors_named lower filled))

theorem stored_fullName {now : Time} {g : RegisterGenerated} {dto : RegisterDto}
    {db db' : Database} {response : AuthResponseDto τ}
    (registered : AuthService.register env now g dto db = (.ok response, db')) :
    ∃ tenant owner,
      db' = { db with tenants := db.tenants ++ [tenant], users := db.users ++ [owner] } ∧
        owner.fullName = dto.fullName := by
  by_cases free : AuthService.KeysFree env g dto db
  · rw [AuthService.register_free free] at registered
    exact ⟨_, _, (Prod.mk.inj registered).2.symm, rfl⟩
  · obtain ⟨e, refused⟩ := AuthService.register_refused now free
    rw [refused] at registered
    cases (Prod.mk.inj registered).1

/-- The form and the API agree exactly when the name is not blank. -/
theorem form_agrees_iff (env : AuthEnv τ) (lib : Validator) (format : JsonValue.Format)
    (lower : ∀ s, slugPattern.test s.toList = true → env.toLowerCase s = s) (form : RegisterForm)
    (filled : form.Filled lib) :
    form.Agrees env lib format ↔ trim form.fullName ≠ "" := by
  constructor
  · rintro ⟨dto, accepted, -⟩ blank
    rw [receive_body (input_blank blank)] at accepted
    have field : ⟨"fullName", [.isString, .maxLength 100]⟩ ∈ RegisterDto.properties := by
      simp [RegisterDto.properties]
    have missing : ∀ m ∈ members env form, m.1 ≠ "fullName" := by simp [members]
    obtain ⟨e, refused⟩ :=
      ValidationPipe.refused_of_missing lib format field (List.cons_ne_nil _ _) missing
    rw [refused] at accepted
    cases accepted
  · intro named
    refine ⟨.object (members env form ++ [("fullName", .string (trim form.fullName))]), ?_, ?_⟩
    · exact body_received lower filled named
    · intro now g db response db' registered
      obtain ⟨tenant, owner, stored, fullName⟩ := stored_fullName registered
      refine ⟨tenant, owner, stored, ?_⟩
      rw [fullName, orUndefined, if_neg named]
      simp [RegisterDto.of, textField, members, JsonValue.field]

end Agreement

namespace Sample

/-- A library that counts characters and looks for an at sign. -/
def lib : Validator where
  length := List.length
  isEmail s := s.contains '@'
  length_trim s := (Text.trim_sublist s).length_le

def blank : RegisterForm where
  tenantName := " Acme Corporation"
  tenantSlug := "acme"
  fullName := " "
  email := "jane@acme.com"
  password := "CorrectHorseBatteryStaple1!"

def named : RegisterForm := { blank with fullName := "Jane Doe " }

theorem blank_filled : blank.Filled lib := by
  constructor <;> decide +kernel

theorem named_filled : named.Filled lib := by
  constructor <;> decide +kernel

end Sample

/-- A form without a name is refused, for both of the constraints on the name. -/
theorem blank_name_refused :
    Sample.blank.Filled Sample.lib ∧
      ValidationPipe.receive Sample.lib JsonValue.Format.digits RegisterDto.properties
          (Sample.blank.body JsonValue.Format.digits Auth.Sample.env.toLowerCase) =
        some (.error (.invalid ["fullName must be shorter than or equal to 100 characters",
          "fullName must be a string"])) ∧
      ¬Sample.blank.Agrees Auth.Sample.env Sample.lib JsonValue.Format.digits := by
  have refused : ValidationPipe.receive Sample.lib JsonValue.Format.digits RegisterDto.properties
      (Sample.blank.body JsonValue.Format.digits Auth.Sample.env.toLowerCase) =
        some (.error (.invalid ["fullName must be shorter than or equal to 100 characters",
          "fullName must be a string"])) := by
    rw [receive_body (input_blank (by decide +kernel))]
    rfl
  refine ⟨Sample.blank_filled, refused, ?_⟩
  rintro ⟨dto, accepted, -⟩
  rw [refused] at accepted
  cases accepted

theorem form_agrees_named : Sample.named.Agrees Auth.Sample.env Sample.lib JsonValue.Format.digits :=
  (form_agrees_iff Auth.Sample.env Sample.lib JsonValue.Format.digits (fun _ _ => rfl) Sample.named
    Sample.named_filled).mpr (by decide +kernel)

end RegisterForm
end IdpSaas
