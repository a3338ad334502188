import IdpSaas.Errors
import IdpSaas.Schema
import IdpSaas.Lib.PosixPath
import Mathlib.Data.List.Infix

/-!
`LocalStorageService`: where an upload is written and how a stored path is read
back. Files are kept by the place they name in the file tree. The writer joins base
directory, tenant and file name step by step, the reader joins the base directory
with the stored relative path; both reach the same place inside the tenant's own
directory.
-/

namespace IdpSaas
open Posix

abbrev Bytes := List UInt8

/-- 36 hexadecimal digits and hyphens, with the four hyphens after the groups of 8, 4, 4
and 4 digits. -/
def isUuid (s : String) : Bool :=
  (s.toList.length == 36 &&
    s.toList.all fun c => c.isDigit || (('a' ≤ c && c ≤ 'f') || c == '-')) &&
    ((s.toList.filter (· == '-')).length == 4 &&
      [8, 13, 18, 23].all fun i => s.toList[i]? == some '-')

/-- Identifiers from `uuid()`. -/
structure Uuid where
  val : String
  isUuid : isUuid val = true
  deriving DecidableEq

theorem Uuid.val_inj {u u' : Uuid} : u.val = u'.val ↔ u = u' := by
  obtain ⟨v, hv⟩ := u
  obtain ⟨v', hv'⟩ := u'
  rw [Uuid.mk.injEq]

theorem Uuid.length (u : Uuid) : u.val.toList.length = 36 := by
  have h := u.isUuid
  rw [IdpSaas.isUuid, Bool.and_eq_true, Bool.and_eq_true, beq_iff_eq] at h
  exact h.1.1

theorem Uuid.digits (u : Uuid) : ∀ c ∈ u.val.toList,
    (c.isDigit || (('a' ≤ c && c ≤ 'f') || c == '-')) = true := by
  have h := u.isUuid
  rw [IdpSaas.isUuid, Bool.and_eq_true, Bool.and_eq_true, List.all_eq_true] at h
  exact h.1.2

theorem Uuid.no_slash (u : Uuid) : '/' ∉ u.val.toList := by
  intro slash
  exact absurd (u.digits _ slash) (by decide)

theorem Uuid.no_dot (u : Uuid) : '.' ∉ u.val.toList := by
  intro dot
  exact absurd (u.digits _ dot) (by decide)

theorem Uuid.ne_empty (u : Uuid) : u.val ≠ "" := by
  intro h
  have := u.length
  rw [h] at this
  simp at this

/-- What the deployment and its libraries fix: configuration, hashing, Unicode
lower-casing and the errors of the database client. -/
structure Env where
  uploadDir : String
  ocrTimeoutMs : Nat
  sha256 : Bytes → String
  toLowerCase : List Char → List Char
  recordNotFound : JsError
  uniqueConstraint : JsError
  uploadDir_ne : uploadDir ≠ ""
  toLowerCase_slash : ∀ s, '/' ∈ toLowerCase s → '/' ∈ s
  toLowerCase_dot : ∀ s, toLowerCase ('.' :: s) = '.' :: toLowerCase s
  toLowerCase_no_dot : ∀ s, '.' ∈ toLowerCase s → '.' ∈ s

structure StoredFile where
  storagePath : String
  sizeBytes : Nat
  checksumSha256 : String
  deriving DecidableEq, Repr

/-- The file tree: the content last written to each place. -/
abbrev Files := Place → Option Bytes

def Files.write (files : Files) (p : Place) (b : Bytes) : Files :=
  fun q => if q = p then some b else files q

def Files.unlink (files : Files) (p : Place) : Files :=
  fun q => if q = p then none else files q

/-- `path.extname`: from the last dot of the last component, unless that dot opens it. -/
def extname (path : List Char) : List Char :=
  let base := ((path.splitOn '/').filter fun s => s ≠ []).getLastD []
  match base.reverse.dropWhile fun c => c ≠ '.' with
  | [] | [_] => []
  | _ :: _ :: _ =>
      if base = ['.', '.'] then []
      else '.' :: (base.reverse.takeWhile fun c => c ≠ '.').reverse

/-- `slice(0, n)`, which counts UTF-16 units; half a pair is stored as U+FFFD. -/
def sliceUnits : Nat → List Char → List Char
  | 0, _ | _, [] => []
  | n + 1, c :: cs =>
      if c.toNat < 0x10000 then c :: sliceUnits n cs
      else match n with
        | 0 => ['\uFFFD']
        | m + 1 => c :: sliceUnits m cs

namespace LocalStorageService
variable (env : Env)

def safeFilename (uuid : Uuid) (originalName : String) : List Char :=
  uuid.val.toList ++ sliceUnits 10 (env.toLowerCase (extname originalName.toList))

def fullPath (tenantId : String) (uuid : Uuid) (originalName : String) : List Char :=
  join [join [env.uploadDir.toList, tenantId.toList], safeFilename env uuid originalName]

def storagePath (tenantId : String) (uuid : Uuid) (originalName : String) : String :=
  String.ofList (tenantId.toList ++ '/' :: safeFilename env uuid originalName)

def save (tenantId : String) (uuid : Uuid) (fileBuffer : Bytes) (originalName : String)
    (files : Files) : StoredFile × Files :=
  ({ storagePath := storagePath env tenantId uuid originalName
     sizeBytes := fileBuffer.length
     checksumSha256 := env.sha256 fileBuffer },
   files.write (locate (fullPath env tenantId uuid originalName)) fileBuffer)

/-- The guard of `read` and `delete`. -/
def invalidStoragePath (storagePath : String) : Bool :=
  decide (['.', '.'] <:+: storagePath.toList) || isAbsolute storagePath.toList

def read (files : Files) (storagePath : String) : Except JsError Bytes :=
  if invalidStoragePath storagePath then .error ⟨some "Invalid storage path"⟩
  else
    let path := join [env.uploadDir.toList, storagePath.toList]
    match files (locate path) with
    | some b => .ok b
    | none =>
        .error ⟨some ("ENOENT: no such file or directory, open '" ++ String.ofList path ++ "'")⟩

/-- An `unlink` that is rejected is ignored. -/
def delete (unlinks : Bool) (files : Files) (storagePath : String) : Except JsError Files :=
  if invalidStoragePath storagePath then .error ⟨some "Invalid storage path"⟩
  else if unlinks then
    .ok (files.unlink (locate (join [env.uploadDir.toList, storagePath.toList])))
  else .ok files

/-- A tenant's directory under the upload directory. -/
def tenantDir (tenantId : String) : Place :=
  (locate env.uploadDir.toList).child tenantId.toList

/-- The place an upload is kept at. -/
def savedPlace (tenantId : String) (uuid : Uuid) (originalName : String) : Place :=
  (tenantDir env tenantId).child (safeFilename env uuid originalName)

end LocalStorageService

theorem mem_sliceUnits {n : Nat} {s : List Char} {c : Char} (h : c ∈ sliceUnits n s) :
    c ∈ s ∨ c = '\uFFFD' := by
  fun_induction sliceUnits n s with
  | case1 | case2 => cases h
  | case3 n d cs small ih =>
      cases List.mem_cons.mp h with
      | inl e => exact Or.inl (e ▸ List.mem_cons_self)
      | inr e => exact (ih e).imp_left (List.mem_cons_of_mem _)
  | case4 d cs large => exact Or.inr (List.mem_singleton.mp h)
  | case5 d cs large m ih =>
      cases List.mem_cons.mp h with
      | inl e => exact Or.inl (e ▸ List.mem_cons_self)
      | inr e => exact (ih e).imp_left (List.mem_cons_of_mem _)

theorem extname_no_slash (path : List Char) : '/' ∉ extname path := by
  unfold extname
  have base : '/' ∉ ((path.splitOn '/').filter fun s => s ≠ []).getLastD [] := by
    rw [List.getLastD_eq_getLast?]
    generalize hl : ((path.splitOn '/').filter fun s => s ≠ []).getLast? = last
    cases last with
    | none => simp
    | some s =>
        exact not_mem_of_mem_splitOn (List.mem_filter.mp (List.mem_of_getLast? hl)).1
  generalize ((path.splitOn '/').filter fun s => s ≠ []).getLastD [] = b at base
  simp only
  split
  · simp
  · simp
  · split
    · simp
    · intro h
      rw [List.mem_cons, List.mem_reverse] at h
      cases h with
      | inl e => exact absurd e (by decide)
      | inr e => exact base (List.mem_reverse.mp (List.takeWhile_subset _ e))

/-- An extension is empty, or one dot and what follows it. -/
theorem extname_cases (path : List Char) :
    extname path = [] ∨ ∃ rest, extname path = '.' :: rest ∧ '.' ∉ rest := by
  unfold extname
  generalize ((path.splitOn '/').filter fun s => s ≠ []).getLastD [] = b
  simp only
  split
  · exact Or.inl rfl
  · exact Or.inl rfl
  · split
    · exact Or.inl rfl
    · refine Or.inr ⟨_, rfl, fun dot => ?_⟩
      have other := List.all_eq_true.mp List.all_takeWhile _ (List.mem_reverse.mp dot)
      simp at other

theorem count_dot_sliceUnits (n : Nat) (s : List Char) :
    (sliceUnits n s).count '.' ≤ s.count '.' := by
  fun_induction sliceUnits n s with
  | case1 | case2 => exact Nat.zero_le _
  | case3 n c cs small ih =>
      rw [List.count_cons, List.count_cons]
      omega
  | case4 c cs large => exact Nat.zero_le _
  | case5 c cs large m ih =>
      rw [List.count_cons, List.count_cons]
      omega

namespace LocalStorageService
variable (env : Env)

theorem safeFilename_no_slash (uuid : Uuid) (originalName : String) :
    '/' ∉ safeFilename env uuid originalName := by
  intro h
  cases List.mem_append.mp h with
  | inl e => exact uuid.no_slash e
  | inr e =>
      cases mem_sliceUnits e with
      | inl e => exact extname_no_slash _ (env.toLowerCase_slash _ e)
      | inr e => exact absurd e (by decide)

theorem plain_of_length {s : List Char} (h : 3 ≤ s.length) : Plain s := by
  refine ⟨?_, ?_, ?_⟩ <;> rintro rfl <;> simp at h

theorem safeFilename_plain (uuid : Uuid) (originalName : String) :
    Plain (safeFilename env uuid originalName) := by
  apply plain_of_length
  have := uuid.length
  simp only [safeFilename, List.length_append]
  omega

theorem uuid_plain (uuid : Uuid) : Plain uuid.val.toList :=
  plain_of_length (by rw [uuid.length]; decide)

theorem uploadDir_ne_nil : env.uploadDir.toList ≠ [] := by
  intro h
  exact env.uploadDir_ne (String.toList_inj.mp h)

/-- Where `save` writes. -/
theorem locate_fullPath (tenant uuid : Uuid) (originalName : String) :
    locate (fullPath env tenant.val uuid originalName) =
      savedPlace env tenant.val uuid originalName := by
  have base := uploadDir_ne_nil env
  have dir := (uuid_plain tenant)
  rw [fullPath, locate_join_plain (join_ne_nil base dir.1) (safeFilename_plain env uuid _)
    (safeFilename_no_slash env uuid _), locate_join_plain base dir tenant.no_slash]
  rfl

/-- Where `read` looks for the path that `save` returned. -/
theorem locate_storagePath (tenant uuid : Uuid) (originalName : String) :
    locate (join [env.uploadDir.toList, (storagePath env tenant.val uuid originalName).toList]) =
      savedPlace env tenant.val uuid originalName := by
  rw [storagePath, String.toList_ofList, locate_join_two (uploadDir_ne_nil env)
    (uuid_plain tenant) (safeFilename_plain env uuid _) tenant.no_slash
    (safeFilename_no_slash env uuid _)]
  rfl

theorem tenantDir_inj {t t' : String} : tenantDir env t = tenantDir env t' ↔ t = t' := by
  rw [tenantDir, tenantDir, Place.child_inj, String.toList_inj]
  simp

/-- Places of different uploads differ, whatever their names. -/
theorem savedPlace_uuid {t t' : String} {u u' : Uuid} {n n' : String}
    (h : savedPlace env t u n = savedPlace env t' u' n') : u = u' := by
  rw [savedPlace, savedPlace, Place.child_inj, safeFilename, safeFilename] at h
  have same := List.append_inj_left h.2 (by rw [u.length, u'.length])
  exact Uuid.val_inj.mp (String.toList_inj.mp same)

/-- The one dot of a stored path opens its extension. -/
theorem count_dot_storagePath (tenant uuid : Uuid) (originalName : String) :
    (storagePath env tenant.val uuid originalName).toList.count '.' ≤ 1 := by
  have lowered : (env.toLowerCase (extname originalName.toList)).count '.' ≤ 1 := by
    rcases extname_cases originalName.toList with empty | ⟨rest, dotted, plain⟩
    · rw [empty, List.count_eq_zero_of_not_mem]
      · exact Nat.zero_le 1
      · exact fun dot => absurd (env.toLowerCase_no_dot [] dot) List.not_mem_nil
    · rw [dotted, env.toLowerCase_dot, List.count_cons_self, List.count_eq_zero_of_not_mem]
      exact fun dot => plain (env.toLowerCase_no_dot rest dot)
  have sliced := count_dot_sliceUnits 10 (env.toLowerCase (extname originalName.toList))
  rw [storagePath, String.toList_ofList, safeFilename, List.count_append, List.count_cons,
    List.count_append, List.count_eq_zero_of_not_mem tenant.no_dot,
    List.count_eq_zero_of_not_mem uuid.no_dot]
  have slash : ('/' == '.') = false := by decide
  rw [slash]
  simp only [Bool.false_eq_true, if_false]
  omega

/-- The guard of `read` and `delete` lets every stored path pass. -/
theorem storagePath_valid (tenant uuid : Uuid) (originalName : String) :
    invalidStoragePath (storagePath env tenant.val uuid originalName) = false := by
  rw [invalidStoragePath, Bool.or_eq_false_iff, decide_eq_false_iff_not]
  constructor
  · intro traversal
    have two := traversal.sublist.count_le '.'
    have one := count_dot_storagePath env tenant uuid originalName
    have pair : ['.', '.'].count '.' = 2 := rfl
    omega
  · have first : (tenant.val.toList ++ '/' :: safeFilename env uuid originalName).head? =
        tenant.val.toList.head? := by
      cases chars : tenant.val.toList with
      | nil => exact absurd (chars ▸ tenant.length) (by decide)
      | cons c cs => rfl
    rw [isAbsolute, storagePath, String.toList_ofList, first, beq_eq_false_iff_ne]
    intro slash
    exact tenant.no_slash (List.mem_of_mem_head? slash)

/-- A saved path can be read as long as something stands at its place. -/
theorem read_saved {files : Files} {tenant uuid : Uuid} {originalName : String} {b : Bytes}
    (h : files (savedPlace env tenant.val uuid originalName) = some b) :
    read env files (storagePath env tenant.val uuid originalName) = .ok b := by
  rw [read, storagePath_valid, if_neg Bool.false_ne_true]
  simp only [locate_storagePath, h]

/-- What comes out of a read of a saved path is what stands at its place. -/
theorem read_eq_ok {files : Files} {tenant uuid : Uuid} {originalName : String} {b : Bytes}
    (h : read env files (storagePath env tenant.val uuid originalName) = .ok b) :
    files (savedPlace env tenant.val uuid originalName) = some b := by
  unfold read at h
  split at h
  · cases h
  · simp only [locate_storagePath] at h
    split at h
    · rename_i found
      cases h
      exact found
    · cases h

end LocalStorageService
end IdpSaas
