import IdpSaas.Auth.Service
import IdpSaas.Lib.Json
import IdpSaas.Lib.Text

/-!
What `ValidationPipe` makes of the body of a request: the decorators of the DTO classes,
each with the message that it reports. How the validator library counts characters, and
what it takes for an email, is a parameter.
-/

namespace IdpSaas

/-- The validator library. Trimming makes no text longer. -/
structure Validator where
  length : List Char → Nat
  isEmail : List Char → Bool
  length_trim : ∀ s, length (Text.trim s) ≤ length s

/-- A regular expression, as it is written and as it tests. -/
structure Pattern where
  source : String
  test : List Char → Bool

def slugPattern : Pattern where
  source := "/^[a-z0-9-]+$/"
  test s := !s.isEmpty && s.all fun c => c.isLower || c.isDigit || c == '-'

inductive Constraint
  | isString
  | minLength (min : Nat)
  | maxLength (max : Nat)
  | isEmail
  | matchesPattern (pattern : Pattern) (message : Option String)

namespace Constraint

/-- A value that is missing, or is no string, passes none of them. -/
def accepts (lib : Validator) (value : Option JsonValue) (c : Constraint) : Bool :=
  match value with
  | some (.string s) =>
      match c with
      | .isString => true
      | .minLength min => decide (min ≤ lib.length s.toList)
      | .maxLength max => decide (lib.length s.toList ≤ max)
      | .isEmail => lib.isEmail s.toList
      | .matchesPattern pattern _ => pattern.test s.toList
  | _ => false

def message (property : String) : Constraint → String
  | .isString => property ++ " must be a string"
  | .minLength min =>
      property ++ " must be longer than or equal to " ++ toString min ++ " characters"
  | .maxLength max =>
      property ++ " must be shorter than or equal to " ++ toString max ++ " characters"
  | .isEmail => property ++ " must be an email"
  | .matchesPattern pattern message =>
      message.getD (property ++ " must match " ++ pattern.source ++ " regular expression")

end Constraint

/-- A field of a DTO class with its decorators, from the top. -/
structure Property where
  name : String
  decorators : List Constraint

def RegisterDto.properties : List Property :=
  [ ⟨"tenantName", [.isString, .minLength 2, .maxLength 100]⟩,
    ⟨"tenantSlug", [.isString, .minLength 2, .maxLength 40, .matchesPattern slugPattern
      (some "slug must contain only lowercase letters, digits, and hyphens")]⟩,
    ⟨"email", [.isEmail]⟩,
    ⟨"password", [.isString, .minLength 8, .maxLength 128]⟩,
    ⟨"fullName", [.isString, .maxLength 100]⟩ ]

def LoginDto.properties : List Property :=
  [ ⟨"tenantSlug", [.isString, .matchesPattern slugPattern none]⟩,
    ⟨"email", [.isEmail]⟩,
    ⟨"password", [.isString]⟩ ]

def RefreshDto.properties : List Property := [⟨"refreshToken", [.isString]⟩]

/-- What the pipe throws: messages, or an error of its own. -/
inductive PipeError
  | invalid (messages : List String)
  | thrown (err : JsError)

namespace ValidationPipe

abbrev Members := List (String × JsonValue)

/-- The names that every object has a function under. Members of these names are dropped. -/
def dropped : List String :=
  ["__proto__", "constructor", "toString", "toLocaleString", "valueOf", "hasOwnProperty",
    "isPrototypeOf", "propertyIsEnumerable", "__defineGetter__", "__defineSetter__",
    "__lookupGetter__", "__lookupSetter__"]

mutual

/-- The conversion to the string type that a field declares, item by item in an array. -/
def convert (format : JsonValue.Format) : JsonValue → Option JsonValue
  | .null => some .null
  | .array items => (convertItems format items).map .array
  | .string s => some (.string s)
  | v => (v.toText format).map .string

def convertItems (format : JsonValue.Format) : List JsonValue → Option (List JsonValue)
  | [] => some []
  | v :: vs => (convert format v).bind fun w => (convertItems format vs).map (w :: ·)

end

/-- The members of the DTO, if all of its fields can be converted. -/
def convertMembers (format : JsonValue.Format) (dto : List Property) (members : Members) :
    Option Members :=
  (members.filter fun m => !dropped.contains m.1).mapM fun m =>
    if dto.any fun p => p.name == m.1 then
      (((JsonValue.object members).field m.1).bind (convert format)).map fun v => (m.1, v)
    else some m

/-- Decorators are evaluated from the field upwards. -/
def propertyErrors (lib : Validator) (members : Members) (p : Property) : List String :=
  (p.decorators.reverse.filter fun c =>
    !c.accepts lib ((JsonValue.object members).field p.name)).map (Constraint.message p.name)

/-- `forbidNonWhitelisted`. -/
def whitelistErrors (dto : List Property) (members : Members) : List String :=
  ((members.map Prod.fst).eraseDups.filter fun name => !dto.any fun p => p.name == name).map
    fun name => "property " ++ name ++ " should not exist"

def errors (lib : Validator) (dto : List Property) (members : Members) : List String :=
  whitelistErrors dto members ++ dto.flatMap (propertyErrors lib members)

/-- The fields of the DTO, or the messages of a `BadRequestException`. -/
def transform (lib : Validator) (format : JsonValue.Format) (dto : List Property)
    (members : Members) : Except PipeError JsonValue :=
  match convertMembers format dto members with
  | none => .error (.thrown ⟨some "Cannot convert object to primitive value"⟩)
  | some converted =>
      match errors lib dto converted with
      | [] => .ok (.object converted)
      | messages => .error (.invalid messages)

/-- What becomes of the text of a body, when it is that of an object. -/
def receive (lib : Validator) (format : JsonValue.Format) (dto : List Property) (text : String) :
    Option (Except PipeError JsonValue) :=
  match JsonValue.parse text with
  | some (.object members) => some (transform lib format dto members)
  | _ => none

end ValidationPipe

def textField (dto : JsonValue) (name : String) : Option String :=
  match dto.field name with
  | some (.string s) => some s
  | _ => none

def RegisterDto.of (dto : JsonValue) : RegisterDto where
  tenantName := (textField dto "tenantName").getD ""
  tenantSlug := (textField dto "tenantSlug").getD ""
  email := (textField dto "email").getD ""
  password := (textField dto "password").getD ""
  fullName := textField dto "fullName"

def LoginDto.of (dto : JsonValue) : LoginDto where
  tenantSlug := (textField dto "tenantSlug").getD ""
  email := (textField dto "email").getD ""
  password := (textField dto "password").getD ""

namespace ValidationPipe
variable {lib : Validator} {format : JsonValue.Format} {dto : List Property} {members : Members}

theorem propertyErrors_eq_nil_iff {p : Property} :
    propertyErrors lib members p = [] ↔
      ∀ c ∈ p.decorators, c.accepts lib ((JsonValue.object members).field p.name) = true := by
  rw [propertyErrors, List.map_eq_nil_iff, List.filter_eq_nil_iff]
  constructor
  · intro none c hc
    have := none c (List.mem_reverse.mpr hc)
    rwa [Bool.not_eq_true', Bool.not_eq_false] at this
  · intro all c hc
    rw [all c (List.mem_reverse.mp hc)]
    exact Bool.false_ne_true

theorem whitelistErrors_eq_nil_iff :
    whitelistErrors dto members = [] ↔ ∀ m ∈ members, ∃ p ∈ dto, p.name = m.1 := by
  rw [whitelistErrors, List.map_eq_nil_iff, List.filter_eq_nil_iff]
  constructor
  · intro none m hm
    have := none m.1 (List.mem_eraseDups.mpr (List.mem_map_of_mem hm))
    rw [Bool.not_eq_true', Bool.not_eq_false, List.any_eq_true] at this
    obtain ⟨p, hp, same⟩ := this
    exact ⟨p, hp, beq_iff_eq.mp same⟩
  · intro all name hname
    obtain ⟨m, hm, rfl⟩ := List.mem_map.mp (List.mem_eraseDups.mp hname)
    obtain ⟨p, hp, same⟩ := all m hm
    have listed : (dto.any fun p => p.name == m.1) = true :=
      List.any_eq_true.mpr ⟨p, hp, beq_iff_eq.mpr same⟩
    rw [listed]
    exact Bool.false_ne_true

/-- Nothing is reported when every member is a field, and every field passes its decorators. -/
theorem errors_eq_nil_iff :
    errors lib dto members = [] ↔
      (∀ m ∈ members, ∃ p ∈ dto, p.name = m.1) ∧
        ∀ p ∈ dto, ∀ c ∈ p.decorators,
          c.accepts lib ((JsonValue.object members).field p.name) = true := by
  rw [errors, List.append_eq_nil_iff, whitelistErrors_eq_nil_iff, List.flatMap_eq_nil_iff]
  exact and_congr_right fun _ => forall₂_congr fun _ _ => propertyErrors_eq_nil_iff

theorem mem_mapM {α β : Type} {f : α → Option β} {l : List α} {l' : List β}
    (h : l.mapM f = some l') : ∀ b ∈ l', ∃ a ∈ l, f a = some b := by
  induction l generalizing l' with
  | nil =>
      cases h
      exact fun b hb => nomatch hb
  | cons a l ih =>
      rw [List.mapM_cons] at h
      obtain ⟨b, first, h⟩ := Option.bind_eq_some_iff.mp h
      obtain ⟨bs, rest, same⟩ := Option.bind_eq_some_iff.mp h
      cases same
      intro b' hb'
      cases hb' with
      | head => exact ⟨a, List.mem_cons_self, first⟩
      | tail _ later =>
          obtain ⟨a', ha', made⟩ := ih rest b' later
          exact ⟨a', List.mem_cons_of_mem a ha', made⟩

theorem mapM_eq_self {α : Type} {f : α → Option α} {l : List α} (same : ∀ a ∈ l, f a = some a) :
    l.mapM f = some l := by
  induction l with
  | nil => rfl
  | cons a l ih =>
      rw [List.mapM_cons, same a List.mem_cons_self,
        ih fun b hb => same b (List.mem_cons_of_mem a hb)]
      rfl

/-- Conversion brings no new names. -/
theorem name_of_converted {ms : Members} (h : convertMembers format dto members = some ms) :
    ∀ m ∈ ms, ∃ m' ∈ members, m'.1 = m.1 := by
  intro m hm
  obtain ⟨m', hm', made⟩ := mem_mapM h m hm
  refine ⟨m', List.mem_of_mem_filter hm', ?_⟩
  split at made
  · obtain ⟨v, -, rfl⟩ := Option.map_eq_some_iff.mp made
    rfl
  · cases made
    rfl

/-- Members that are texts, each under a name of its own, are taken as they are. -/
theorem convertMembers_texts (kept : ∀ m ∈ members, dropped.contains m.1 = false)
    (once : (members.map Prod.fst).Nodup) (texts : ∀ m ∈ members, ∃ s, m.2 = .string s) :
    convertMembers format dto members = some members := by
  have all : (members.filter fun m => !dropped.contains m.1) = members := by
    refine List.filter_eq_self.mpr fun m hm => ?_
    rw [kept m hm]
    rfl
  rw [convertMembers, all]
  refine mapM_eq_self fun m hm => ?_
  obtain ⟨s, text⟩ := texts m hm
  have unique : (members.reverse.map Prod.fst).Nodup := by
    rw [List.map_reverse]
    exact List.nodup_reverse.mpr once
  have found : (JsonValue.object members).field m.1 = some m.2 := by
    rw [JsonValue.field, Owned.find?_unique Prod.fst unique (List.mem_reverse.mpr hm)]
    rfl
  rw [found, text]
  split
  · exact congrArg some (Prod.ext rfl text.symm)
  · rfl

theorem transform_ok {v : JsonValue} (h : transform lib format dto members = .ok v) :
    ∃ ms, convertMembers format dto members = some ms ∧ errors lib dto ms = [] ∧
      v = .object ms := by
  rw [transform] at h
  split at h
  · cases h
  · next ms converted =>
      split at h
      · next none =>
          cases h
          exact ⟨ms, converted, none, rfl⟩
      · cases h

theorem transform_of_errors {ms : Members} (converted : convertMembers format dto members = some ms)
    (none : errors lib dto ms = []) : transform lib format dto members = .ok (.object ms) := by
  rw [transform, converted]
  dsimp only
  rw [none]

/-- A decorated field that is missing is refused: no field is optional. -/
theorem refused_of_missing (lib : Validator) (format : JsonValue.Format) {p : Property}
    (field : p ∈ dto) (decorated : p.decorators ≠ []) (missing : ∀ m ∈ members, m.1 ≠ p.name) :
    ∃ e, transform lib format dto members = .error e := by
  cases h : transform lib format dto members with
  | error e => exact ⟨e, rfl⟩
  | ok v =>
      obtain ⟨c, rest, first⟩ := List.exists_cons_of_ne_nil decorated
      obtain ⟨ms, converted, clean, -⟩ := transform_ok h
      have passed := (errors_eq_nil_iff.mp clean).2 p field c (first ▸ List.mem_cons_self)
      have none : (JsonValue.object ms).field p.name = none := by
        rw [JsonValue.field, Option.map_eq_none_iff, List.find?_eq_none]
        intro m hm
        obtain ⟨m', hm', same⟩ := name_of_converted converted m (List.mem_reverse.mp hm)
        rw [beq_iff_eq, ← same]
        exact missing m' hm'
      rw [none] at passed
      cases passed

theorem accepts_text {value : Option JsonValue} {c : Constraint}
    (h : c.accepts lib value = true) : ∃ s, value = some (.string s) := by
  cases value with
  | none => cases h
  | some v =>
      cases v with
      | string s => exact ⟨s, rfl⟩
      | null | bool | number | array | object => cases h

/-- Of a body that is taken, each field is a text that passes its decorators. -/
theorem receive_ok {text : String} {v : JsonValue}
    (h : receive lib format dto text = some (.ok v)) {p : Property} (field : p ∈ dto)
    (decorated : p.decorators ≠ []) :
    ∃ s, textField v p.name = some s ∧
      ∀ c ∈ p.decorators, c.accepts lib (some (.string s)) = true := by
  rw [receive] at h
  split at h
  · next members _ =>
      obtain ⟨ms, -, none, rfl⟩ := transform_ok (Option.some.inj h)
      have passed := (errors_eq_nil_iff.mp none).2 p field
      obtain ⟨c, rest, first⟩ := List.exists_cons_of_ne_nil decorated
      obtain ⟨s, there⟩ := accepts_text (passed c (first ▸ List.mem_cons_self))
      refine ⟨s, ?_, fun c hc => there ▸ passed c hc⟩
      rw [textField, there]
  · cases h

end ValidationPipe
end IdpSaas
