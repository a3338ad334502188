import IdpSaas.Auth.Validation
import IdpSaas.Documents
import IdpSaas.Lib.FormUrl

/-!
The query of a list, from the client to the service: `listDocuments` writes what it is
asked for as a query, and the pipe reads it, converts it and checks it against the
decorators of `ListDocumentsQueryDto`.
-/

namespace IdpSaas

def DocumentStatus.name : DocumentStatus → String
  | .pending => "PENDING"
  | .processing => "PROCESSING"
  | .completed => "COMPLETED"
  | .failed => "FAILED"

def DocumentStatus.all : List DocumentStatus := [.pending, .processing, .completed, .failed]

/-- What `listDocuments` may be asked for. -/
structure ListParams where
  page : Option Nat
  pageSize : Option Nat
  status : Option String
  deriving DecidableEq, Repr

namespace ListParams

/-- A page 0 and an empty status are taken for unset. -/
def pairs (params : ListParams) : List (String × String) :=
  ((params.page.filter (· ≠ 0)).map fun n => ("page", toString n)).toList ++
    ((params.pageSize.filter (· ≠ 0)).map fun n => ("pageSize", toString n)).toList ++
    ((params.status.filter (· ≠ "")).map fun s => ("status", s)).toList

def query (params : ListParams) : List Char := FormUrl.serialize params.pairs

/-- The path that is fetched. -/
def path (params : ListParams) : String :=
  "/documents" ++ (if params.query = [] then "" else "?" ++ String.ofList params.query)

end ListParams

inductive QueryConstraint
  | isEnum (values : List String)
  | isInt
  | min (n : Nat)
  | max (n : Nat)

namespace QueryConstraint

def accepts (value : JsonValue) : QueryConstraint → Bool
  | .isEnum values =>
      match value with
      | .string s => values.contains s
      | _ => false
  | .isInt =>
      match value with
      | .number (.finite q) => q.isInt
      | _ => false
  | .min n =>
      match value with
      | .number (.finite q) => decide ((n : Rat) ≤ q)
      | .number (.infinity negative) => !negative
      | _ => false
  | .max n =>
      match value with
      | .number (.finite q) => decide (q ≤ (n : Rat))
      | .number (.infinity negative) => negative
      | _ => false

def message (property : String) : QueryConstraint → String
  | .isEnum values =>
      property ++ " must be one of the following values: " ++ ", ".intercalate values
  | .isInt => property ++ " must be an integer number"
  | .min n => property ++ " must not be less than " ++ toString n
  | .max n => property ++ " must not be greater than " ++ toString n

end QueryConstraint

/-- An optional field, of type number or string, with its decorators from the top. -/
structure QueryProperty where
  name : String
  isNumber : Bool
  decorators : List QueryConstraint

/-- The value of a name, an array where it comes more than once. -/
def gathered (pairs : List (String × String)) (name : String) : Option JsonValue :=
  match (pairs.filter fun p => p.1 == name).map Prod.snd with
  | [] => none
  | [s] => some (.string s)
  | items => some (.array (items.map .string))

/-- `@Type(() => Number)` converts texts, one by one in an array. -/
def toNumber : JsonValue → JsonValue
  | .string s => .number (Double.ofText s.toList)
  | .array items =>
      .array (items.map fun
        | .string s => .number (Double.ofText s.toList)
        | v => v)
  | v => v

namespace ListDocumentsQueryDto

def statusProperty : QueryProperty :=
  ⟨"status", false, [.isEnum (DocumentStatus.all.map DocumentStatus.name)]⟩

def pageProperty : QueryProperty := ⟨"page", true, [.isInt, .min 1]⟩

def pageSizeProperty : QueryProperty := ⟨"pageSize", true, [.isInt, .min 1, .max 100]⟩

def properties : List QueryProperty := [statusProperty, pageProperty, pageSizeProperty]

section Pipe
variable (pairs : List (String × String))

def value (p : QueryProperty) : Option JsonValue :=
  (gathered pairs p.name).map fun v => if p.isNumber then toNumber v else v

/-- What is not there is not checked: all fields are optional. -/
def propertyErrors (p : QueryProperty) : List String :=
  match value pairs p with
  | none => []
  | some v =>
      (p.decorators.reverse.filter fun c => !c.accepts v).map (QueryConstraint.message p.name)

/-- The names that are dropped, and those of the fields, are not reported. -/
def unknown : List String :=
  (pairs.map Prod.fst).eraseDups.filter fun name =>
    !ValidationPipe.dropped.contains name && !properties.any fun p => p.name == name

def errors : List String :=
  (unknown pairs).map (fun name => "property " ++ name ++ " should not exist") ++
    properties.flatMap (propertyErrors pairs)

end Pipe

def readCount : JsonValue → Option Nat
  | .number (.finite q) => some q.num.toNat
  | _ => none

def readStatus : JsonValue → Option DocumentStatus
  | .string s => DocumentStatus.all.find? fun status => status.name == s
  | _ => none

section Valid
variable {pairs : List (String × String)}

theorem propertyErrors_eq_nil_iff {p : QueryProperty} :
    propertyErrors pairs p = [] ↔ ∀ v, value pairs p = some v → ∀ c ∈ p.decorators,
      c.accepts v = true := by
  rw [propertyErrors]
  cases value pairs p with
  | none => simp
  | some v => simp [List.filter_eq_nil_iff]

theorem errors_eq_nil_iff :
    errors pairs = [] ↔
      (∀ p ∈ pairs, p.1 ∉ ValidationPipe.dropped → ∃ q ∈ properties, q.name = p.1) ∧
        ∀ p ∈ properties, propertyErrors pairs p = [] := by
  rw [errors, unknown, List.append_eq_nil_iff, List.map_eq_nil_iff, List.filter_eq_nil_iff,
    List.flatMap_eq_nil_iff]
  refine and_congr_left fun _ => ?_
  simp only [List.mem_eraseDups, List.forall_mem_map, Bool.and_eq_true, Bool.not_eq_true', not_and,
    Bool.not_eq_false, List.any_eq_true, beq_iff_eq]
  refine forall₂_congr fun p _ => imp_congr_left ?_
  rw [← Bool.not_eq_true, List.contains_iff_mem]

theorem isInt_accepts {v : JsonValue} (h : QueryConstraint.isInt.accepts v = true) :
    ∃ z : Int, v = .number (.finite z) := by
  cases v with
  | number x =>
      cases x with
      | finite q =>
          have whole : q.den = 1 := beq_iff_eq.mp h
          exact ⟨q.num, by rw [(Rat.den_eq_one_iff q).mp whole]⟩
      | nan => cases h
      | infinity negative => cases h
  | null | bool | string | array | object => cases h

theorem min_accepts {z : Int} {n : Nat} :
    (QueryConstraint.min n).accepts (.number (.finite z)) = true ↔ (n : Int) ≤ z := by
  rw [QueryConstraint.accepts, decide_eq_true_eq]
  exact_mod_cast Iff.rfl

theorem max_accepts {z : Int} {n : Nat} :
    (QueryConstraint.max n).accepts (.number (.finite z)) = true ↔ z ≤ (n : Int) := by
  rw [QueryConstraint.accepts, decide_eq_true_eq]
  exact_mod_cast Iff.rfl

theorem readCount_intCast (z : Int) : readCount (.number (.finite z)) = some z.toNat := by
  rw [readCount, Rat.num_intCast]

/-- A count that is read has passed its decorators. -/
theorem passed_of_count {p : QueryProperty} (valid : errors pairs = []) (field : p ∈ properties)
    (integer : .isInt ∈ p.decorators) {n : Nat}
    (read : (value pairs p).bind readCount = some n) :
    ∃ z : Int, z.toNat = n ∧ ∀ c ∈ p.decorators, c.accepts (.number (.finite z)) = true := by
  obtain ⟨v, there, read⟩ := Option.bind_eq_some_iff.mp read
  have passed := propertyErrors_eq_nil_iff.mp ((errors_eq_nil_iff.mp valid).2 p field) v there
  obtain ⟨z, rfl⟩ := isInt_accepts (passed .isInt integer)
  rw [readCount_intCast] at read
  exact ⟨z, Option.some.inj read, passed⟩

theorem page_pos (valid : errors pairs = []) {n : Nat}
    (read : (value pairs pageProperty).bind readCount = some n) : 1 ≤ n := by
  obtain ⟨z, rfl, passed⟩ := passed_of_count valid (by simp [properties]) (by simp [pageProperty]) read
  have low := min_accepts.mp (passed (.min 1) (by simp [pageProperty]))
  omega

theorem pageSize_bounds (valid : errors pairs = []) {n : Nat}
    (read : (value pairs pageSizeProperty).bind readCount = some n) : 1 ≤ n ∧ n ≤ 100 := by
  obtain ⟨z, rfl, passed⟩ :=
    passed_of_count valid (by simp [properties]) (by simp [pageSizeProperty]) read
  have low := min_accepts.mp (passed (.min 1) (by simp [pageSizeProperty]))
  have high := max_accepts.mp (passed (.max 100) (by simp [pageSizeProperty]))
  omega

theorem forall_getD {P : Nat → Prop} {o : Option Nat} {d : Nat} (default : P d)
    (all : ∀ n, o = some n → P n) : ∀ n ∈ some (o.getD d), P n := by
  intro n h
  cases h
  cases given : o with
  | none => exact default
  | some n => exact all n given

end Valid

/-- The query object; the class gives page and page size a value from the start. -/
def of (pairs : List (String × String)) (valid : errors pairs = []) : ListDocumentsQueryDto where
  status := (value pairs statusProperty).bind readStatus
  page := some (((value pairs pageProperty).bind readCount).getD 1)
  pageSize := some (((value pairs pageSizeProperty).bind readCount).getD 20)
  page_min := forall_getD (by decide) fun _ => page_pos valid
  pageSize_min := forall_getD (by decide) fun _ read => (pageSize_bounds valid read).1
  pageSize_max := forall_getD (by decide) fun _ read => (pageSize_bounds valid read).2

/-- What the pipe makes of a query. -/
def receive (lossy : List Char → String) (query : List Char) :
    Except (List String) ListDocumentsQueryDto :=
  let pairs := FormUrl.parse lossy query
  if valid : errors pairs = [] then .ok (of pairs valid) else .error (errors pairs)

theorem messages_ne_nil {lossy : List Char → String} {query : List Char} {messages : List String}
    (h : receive lossy query = .error messages) : messages ≠ [] := by
  rw [receive] at h
  split at h
  · cases h
  · next refused =>
      cases h
      exact refused

end ListDocumentsQueryDto

namespace ListParams
open ListDocumentsQueryDto

/-- What may be asked for: 100 documents at most, and a status that exists. -/
structure Valid (params : ListParams) : Prop where
  pageSize : ∀ n ∈ params.pageSize, n ≤ 100
  status : ∀ s ∈ params.status, s ≠ "" → s ∈ DocumentStatus.all.map DocumentStatus.name

/-- The service is asked for what the client was. -/
structure Reaches (params : ListParams) (query : ListDocumentsQueryDto) : Prop where
  page : DocumentsService.page query = (params.page.filter (· ≠ 0)).getD 1
  pageSize : DocumentsService.pageSize query = (params.pageSize.filter (· ≠ 0)).getD 20
  status : query.status.map DocumentStatus.name = params.status.filter (· ≠ "")

variable {params : ListParams}

theorem gathered_pairs :
    gathered params.pairs "page" =
        (params.page.filter (· ≠ 0)).map (fun n => .string (toString n)) ∧
      gathered params.pairs "pageSize" =
        (params.pageSize.filter (· ≠ 0)).map (fun n => .string (toString n)) ∧
      gathered params.pairs "status" = (params.status.filter (· ≠ "")).map .string := by
  rw [pairs]
  cases params.page.filter (· ≠ 0) <;> cases params.pageSize.filter (· ≠ 0) <;>
    cases params.status.filter (· ≠ "") <;> exact ⟨rfl, rfl, rfl⟩

theorem known_pairs : ∀ p ∈ params.pairs, ∃ q ∈ properties, q.name = p.1 := by
  intro p h
  simp only [pairs, List.mem_append, Option.mem_toList, Option.map_eq_some_iff] at h
  rcases h with (⟨n, -, rfl⟩ | ⟨n, -, rfl⟩) | ⟨s, -, rfl⟩
  · exact ⟨pageProperty, by simp [properties], rfl⟩
  · exact ⟨pageSizeProperty, by simp [properties], rfl⟩
  · exact ⟨statusProperty, by simp [properties], rfl⟩

theorem toNumber_toString {n : Nat} (small : n < 2 ^ 53) :
    toNumber (.string (toString n)) = .number (.finite (n : Int)) := by
  have digits : (toString n).toList = Nat.toDigits 10 n := String.toList_ofList
  rw [toNumber, digits, Double.ofText_toDigits small, Int.cast_natCast]

/-- What a count is converted to, when it is not taken for unset. -/
theorem map_count {o : Option Nat} (small : ∀ n ∈ o, n < 2 ^ 53) :
    ((o.filter (· ≠ 0)).map fun n => JsonValue.string (toString n)).map toNumber =
      (o.filter (· ≠ 0)).map fun n => .number (.finite (n : Int)) := by
  rw [Option.map_map]
  refine Option.map_congr fun n h => ?_
  exact toNumber_toString (small n (Option.filter_eq_some_iff.mp h).1)

theorem value_page (small : ∀ n ∈ params.page, n < 2 ^ 53) : value params.pairs pageProperty =
    (params.page.filter (· ≠ 0)).map fun n => .number (.finite (n : Int)) :=
  (congrArg (Option.map toNumber) gathered_pairs.1).trans (map_count small)

theorem value_pageSize (small : ∀ n ∈ params.pageSize, n < 2 ^ 53) :
    value params.pairs pageSizeProperty =
      (params.pageSize.filter (· ≠ 0)).map fun n => .number (.finite (n : Int)) :=
  (congrArg (Option.map toNumber) gathered_pairs.2.1).trans (map_count small)

theorem value_status :
    value params.pairs statusProperty = (params.status.filter (· ≠ "")).map .string :=
  (congrArg (Option.map id) gathered_pairs.2.2).trans (congrFun Option.map_id _)

/-- The decorators of a count that is no smaller than 1. -/
theorem accepts_count {n : Nat} (pos : n ≠ 0) :
    QueryConstraint.isInt.accepts (.number (.finite (n : Int))) = true ∧
      (QueryConstraint.min 1).accepts (.number (.finite (n : Int))) = true :=
  ⟨beq_iff_eq.mpr (Rat.den_intCast n), min_accepts.mpr (by omega)⟩

theorem errors_page (small : ∀ n ∈ params.page, n < 2 ^ 53) :
    propertyErrors params.pairs pageProperty = [] := by
  rw [propertyErrors_eq_nil_iff, value_page small]
  intro v read
  obtain ⟨n, given, rfl⟩ := Option.map_eq_some_iff.mp read
  have pos : n ≠ 0 := of_decide_eq_true (Option.filter_eq_some_iff.mp given).2
  obtain ⟨isInt, min⟩ := accepts_count pos
  simp only [pageProperty, List.forall_mem_cons, isInt, min, List.not_mem_nil, false_imp_iff,
    implies_true, and_self]

theorem errors_pageSize_iff (small : ∀ n ∈ params.pageSize, n < 2 ^ 53) :
    propertyErrors params.pairs pageSizeProperty = [] ↔ ∀ n ∈ params.pageSize, n ≤ 100 := by
  rw [propertyErrors_eq_nil_iff, value_pageSize small]
  constructor
  · intro passed n given
    by_cases zero : n = 0
    · exact zero ▸ Nat.zero_le _
    · have kept : params.pageSize.filter (· ≠ 0) = some n :=
        Option.filter_eq_some_iff.mpr ⟨given, decide_eq_true zero⟩
      rw [kept] at passed
      have max := passed _ rfl (.max 100) (by simp [pageSizeProperty])
      exact Int.ofNat_le.mp (max_accepts.mp max)
  · intro bounded v read
    obtain ⟨n, kept, rfl⟩ := Option.map_eq_some_iff.mp read
    obtain ⟨given, pos⟩ := Option.filter_eq_some_iff.mp kept
    obtain ⟨isInt, min⟩ := accepts_count (of_decide_eq_true pos)
    have max := max_accepts.mpr (Int.ofNat_le.mpr (bounded n given))
    simp only [pageSizeProperty, List.forall_mem_cons, isInt, min, max, List.not_mem_nil,
      false_imp_iff, implies_true, and_self]

theorem errors_status_iff :
    propertyErrors params.pairs statusProperty = [] ↔
      ∀ s ∈ params.status, s ≠ "" → s ∈ DocumentStatus.all.map DocumentStatus.name := by
  rw [propertyErrors_eq_nil_iff, value_status]
  constructor
  · intro passed s given nonempty
    have kept : params.status.filter (· ≠ "") = some s :=
      Option.filter_eq_some_iff.mpr ⟨given, decide_eq_true nonempty⟩
    rw [kept] at passed
    exact List.contains_iff_mem.mp (passed _ rfl _ (List.mem_singleton.mpr rfl))
  · intro known v read c isEnum
    obtain ⟨s, kept, rfl⟩ := Option.map_eq_some_iff.mp read
    obtain ⟨given, nonempty⟩ := Option.filter_eq_some_iff.mp kept
    rw [List.mem_singleton.mp isEnum]
    exact List.contains_iff_mem.mpr (known s given (of_decide_eq_true nonempty))

/-- The pipe has nothing to say against what may be asked for. -/
theorem errors_eq_nil_iff (small : ∀ n ∈ params.page, n < 2 ^ 53)
    (small' : ∀ n ∈ params.pageSize, n < 2 ^ 53) :
    ListDocumentsQueryDto.errors params.pairs = [] ↔ params.Valid := by
  rw [ListDocumentsQueryDto.errors_eq_nil_iff, and_iff_right fun p hp _ => known_pairs p hp]
  simp only [properties, List.forall_mem_cons, List.not_mem_nil, false_imp_iff, implies_true,
    and_true, errors_page small, true_and, errors_pageSize_iff small', errors_status_iff]
  exact ⟨fun h => ⟨h.2, h.1⟩, fun h => ⟨h.status, h.pageSize⟩⟩

theorem name_readStatus {s : String} (known : s ∈ DocumentStatus.all.map DocumentStatus.name) :
    (readStatus (.string s)).map DocumentStatus.name = some s := by
  obtain ⟨status, -, rfl⟩ := List.mem_map.mp known
  cases status <;> rfl

theorem bind_readCount {o : Option Nat} :
    (o.map fun n : Nat => JsonValue.number (.finite (n : Int))).bind readCount = o := by
  cases o with
  | none => rfl
  | some n =>
      rw [Option.map_some, Option.bind_some, readCount_intCast, Int.toNat_natCast]

/-- The pipe takes the query of a list exactly when it asks for what there may be, and then
the service is asked for what the client was. -/
theorem list_query_reaches (lossy : List Char → String) (params : ListParams)
    (small : ∀ n ∈ params.page, n < 2 ^ 53) (small' : ∀ n ∈ params.pageSize, n < 2 ^ 53) :
    (params.Valid ↔ ∃ query, receive lossy params.query = .ok query) ∧
      ∀ query, receive lossy params.query = .ok query → params.Reaches query := by
  have parsed : FormUrl.parse lossy params.query = params.pairs := FormUrl.parse_serialize _ _
  simp only [receive, parsed]
  by_cases valid : ListDocumentsQueryDto.errors params.pairs = []
  · rw [dif_pos valid]
    have asked := (errors_eq_nil_iff small small').mp valid
    refine ⟨iff_of_true asked ⟨_, rfl⟩, fun query same => ?_⟩
    rw [← Except.ok.inj same]
    refine ⟨?_, ?_, ?_⟩
    · rw [DocumentsService.page, of, Option.getD_some, value_page small, bind_readCount]
    · rw [DocumentsService.pageSize, of, Option.getD_some, value_pageSize small', bind_readCount]
    · rw [of, value_status]
      cases kept : params.status.filter (· ≠ "") with
      | none => rfl
      | some s =>
          obtain ⟨given, nonempty⟩ := Option.filter_eq_some_iff.mp kept
          exact name_readStatus (asked.status s given (of_decide_eq_true nonempty))
  · rw [dif_neg valid]
    refine ⟨iff_of_false (mt (errors_eq_nil_iff small small').mpr valid) ?_, ?_⟩
    · intro ⟨query, same⟩
      cases same
    · intro query same
      cases same

end ListParams
end IdpSaas
