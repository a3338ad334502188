import IdpSaas.Storage

/-!
Where stored paths lead. The writer joins base directory, tenant and file name one by
one, the reader joins the base directory with the stored path behind a test for `..` and
a leading slash; both arrive at one path in the tenant's directory, and no path that
passes the test leads out of the base directory.
-/

namespace IdpSaas
open Posix

namespace LocalStorageService

section Paths
variable (env : Env)

theorem locate_tenantDir (tenant : Uuid) :
    locate (join [env.uploadDir.toList, tenant.val.toList]) = tenantDir env tenant.val :=
  locate_join_plain (uploadDir_ne_nil env) (uuid_plain tenant) tenant.no_slash

/-- The reader's path is the writer's, letter by letter. -/
theorem join_storagePath (tenant uuid : Uuid) (originalName : String) :
    join [env.uploadDir.toList, (storagePath env tenant.val uuid originalName).toList] =
      fullPath env tenant.val uuid originalName := by
  have base := uploadDir_ne_nil env
  have dir := (uuid_plain tenant).1
  have name := (safeFilename_plain env uuid originalName).1
  have stored : (storagePath env tenant.val uuid originalName).toList ≠ [] := by
    rw [storagePath, String.toList_ofList]
    exact List.append_ne_nil_of_right_ne_nil _ (List.cons_ne_nil _ _)
  have nonempty : ∀ a b : List Char, a ++ '/' :: b ≠ [] := fun a b =>
    List.append_ne_nil_of_right_ne_nil a (List.cons_ne_nil _ b)
  have place : locate (join [env.uploadDir.toList,
      (storagePath env tenant.val uuid originalName).toList]) =
        locate (fullPath env tenant.val uuid originalName) := by
    rw [locate_storagePath, locate_fullPath]
  rw [fullPath, join_two base stored, join_two (join_ne_nil base dir) name] at place ⊢
  rw [locate_normalize (nonempty _ _), locate_normalize (nonempty _ _)] at place
  refine normalize_congr (nonempty _ _) (nonempty _ _) place ?_
  have last : ∀ a : List Char, (a ++ '/' :: safeFilename env uuid originalName).getLast? =
      (safeFilename env uuid originalName).getLast? := by
    intro a
    rw [List.getLast?_append_of_ne_nil _ (List.cons_ne_nil _ _), List.getLast?_cons_of_ne_nil name]
  rw [last, storagePath, String.toList_ofList, ← List.cons_append, ← List.append_assoc, last]

end Paths

structure Save where
  tenant : Uuid
  uuid : Uuid
  fileBuffer : Bytes
  originalName : String

/-- What the call returns and the files that it leaves. -/
def Save.run (env : Env) (s : Save) (files : Files) : StoredFile × Files :=
  save env s.tenant.val s.uuid s.fileBuffer s.originalName files

def Save.files (env : Env) (files : Files) (s : Save) : Files := (s.run env files).2

section Saves
variable {env : Env} {files : Files} {s : Save}

theorem saved_at (env : Env) (files : Files) (s : Save) :
    s.files env files (savedPlace env s.tenant.val s.uuid s.originalName) = some s.fileBuffer := by
  change files.write (locate (fullPath env s.tenant.val s.uuid s.originalName)) s.fileBuffer _ = _
  rw [locate_fullPath, Files.write, if_pos rfl]

/-- A save under another name leaves what has been saved. -/
theorem kept_by_save {o : Save} (other : o.uuid ≠ s.uuid) :
    o.files env files (savedPlace env s.tenant.val s.uuid s.originalName) =
      files (savedPlace env s.tenant.val s.uuid s.originalName) := by
  change files.write (locate (fullPath env o.tenant.val o.uuid o.originalName)) o.fileBuffer _ = _
  rw [locate_fullPath, Files.write, if_neg]
  exact fun same => other (savedPlace_uuid env same.symm)

theorem kept_by_saves {others : List Save} (fresh : ∀ o ∈ others, o.uuid ≠ s.uuid) (files : Files) :
    others.foldl (Save.files env) files (savedPlace env s.tenant.val s.uuid s.originalName) =
      files (savedPlace env s.tenant.val s.uuid s.originalName) := by
  induction others generalizing files with
  | nil => rfl
  | cons o others ih =>
      rw [List.foldl_cons, ih fun o' h => fresh o' (List.mem_cons_of_mem o h)]
      exact kept_by_save (fresh o List.mem_cons_self)

end Saves

/-- What has been saved can be read and deleted at the path that was returned, whatever
is saved afterwards: the path is the tenant, a slash and a file name, passes the guard, and leads
to where the file was written, in the tenant's directory. -/
theorem storage_round_trip (env : Env) (files : Files) (s : Save) (others : List Save)
    (fresh : ∀ o ∈ others, o.uuid ≠ s.uuid) :
    let path := (s.run env files).1.storagePath
    let written := fullPath env s.tenant.val s.uuid s.originalName
    let later := others.foldl (Save.files env) (s.run env files).2
    (∃ name, name ≠ [] ∧ '/' ∉ name ∧ path.toList = s.tenant.val.toList ++ '/' :: name) ∧
      invalidStoragePath path = false ∧
      join [env.uploadDir.toList, path.toList] = written ∧
      (locate written).parent = locate (join [env.uploadDir.toList, s.tenant.val.toList]) ∧
      read env later path = .ok s.fileBuffer ∧
      delete env true later path = .ok (later.unlink (locate written)) := by
  intro path written later
  have valid : invalidStoragePath path = false := storagePath_valid env s.tenant s.uuid s.originalName
  have resolved : join [env.uploadDir.toList, path.toList] = written :=
    join_storagePath env s.tenant s.uuid s.originalName
  refine ⟨⟨safeFilename env s.uuid s.originalName, (safeFilename_plain env s.uuid _).1,
    safeFilename_no_slash env s.uuid _, ?_⟩, valid, resolved, ?_, ?_, ?_⟩
  · change (storagePath env s.tenant.val s.uuid s.originalName).toList = _
    rw [storagePath, String.toList_ofList]
  · rw [locate_fullPath, locate_tenantDir, savedPlace, Place.parent_child]
  · exact read_saved env ((kept_by_saves fresh (s.files env files)).trans (saved_at env files s))
  · rw [delete, valid, if_neg Bool.false_ne_true, if_pos rfl, resolved]

/-- No path that the guard of `read` and `delete` accepts leads out of the base directory,
whichever that is, and neither reads nor deletes a file outside it. -/
theorem accepted_path_contained (storagePath : String)
    (accepted : invalidStoragePath storagePath = false) :
    (∀ baseDir : List Char,
      (locate (join [baseDir, storagePath.toList])).Within (locate baseDir)) ∧
    ∀ (env : Env) (files : Files),
      (∀ files' : Files, (∀ p, p.Within (locate env.uploadDir.toList) → files' p = files p) →
        read env files' storagePath = read env files storagePath) ∧
      ∀ unlinks files', delete env unlinks files storagePath = .ok files' →
        ∀ p, ¬p.Within (locate env.uploadDir.toList) → files' p = files p := by
  have guard := accepted
  rw [invalidStoragePath, Bool.or_eq_false_iff, decide_eq_false_iff_not] at guard
  have within : ∀ baseDir : List Char,
      (locate (join [baseDir, storagePath.toList])).Within (locate baseDir) :=
    fun baseDir => locate_join_within baseDir guard.1 guard.2
  refine ⟨within, fun env files => ⟨fun files' same => ?_, fun unlinks files' deleted p outside => ?_⟩⟩
  · rw [read, read, accepted, if_neg Bool.false_ne_true, if_neg Bool.false_ne_true]
    simp only [same _ (within env.uploadDir.toList)]
  · rw [delete, accepted, if_neg Bool.false_ne_true] at deleted
    have other : p ≠ locate (join [env.uploadDir.toList, storagePath.toList]) := by
      rintro rfl
      exact outside (within env.uploadDir.toList)
    cases unlinks with
    | true =>
        rw [if_pos rfl] at deleted
        rw [← Except.ok.inj deleted, Files.unlink, if_neg other]
    | false =>
        rw [if_neg Bool.false_ne_true] at deleted
        rw [← Except.ok.inj deleted]

namespace Saved

def env : Env where
  uploadDir := "./uploads"
  ocrTimeoutMs := 120000
  sha256 _ := "ba4f25bf16ba4be6bc7d3276fafeb67f9eb3c5df042bc3a405e1af15b921eed7"
  toLowerCase := id
  recordNotFound := ⟨some "Record to update not found."⟩
  uniqueConstraint := ⟨some "Unique constraint failed on the fields: (id)"⟩
  uploadDir_ne := by decide
  toLowerCase_slash _ h := h
  toLowerCase_dot _ := rfl
  toLowerCase_no_dot _ h := h

def acme : Uuid := ⟨"cccccccc-cccc-4ccc-8ccc-cccccccccccc", by decide⟩

/-- A file name that tries to lead out of the directory. -/
def first : Save :=
  ⟨acme, ⟨"55555555-5555-4555-8555-555555555555", by decide⟩, [0xff, 0xd8],
    "../../etc/a..b.jpeg_2024_01"⟩

def second : Save := ⟨acme, ⟨"66666666-6666-4666-8666-666666666666", by decide⟩, [], ".hidden"⟩

end Saved

theorem storage_round_trip_dotted :
    read Saved.env
        ([Saved.second].foldl (Save.files Saved.env) (Saved.first.run Saved.env fun _ => none).2)
        "cccccccc-cccc-4ccc-8ccc-cccccccccccc/55555555-5555-4555-8555-555555555555.jpeg_2024" =
      .ok [0xff, 0xd8] := by
  have path : (Saved.first.run Saved.env fun _ => none).1.storagePath =
      "cccccccc-cccc-4ccc-8ccc-cccccccccccc/55555555-5555-4555-8555-555555555555.jpeg_2024" := by
    decide +kernel
  rw [← path]
  exact (storage_round_trip Saved.env (fun _ => none) Saved.first [Saved.second]
    (by decide +kernel)).2.2.2.2.1

theorem accepted_path_contained_dots :
    (locate (join ["../data/../uploads/".toList, "acme//./scan.jpg/".toList])).Within
      (locate "../data/../uploads/".toList) :=
  (accepted_path_contained "acme//./scan.jpg/" (by decide +kernel)).1 _

end LocalStorageService
end IdpSaas
