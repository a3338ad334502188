import IdpSaas.System.Upload
import Mathlib.Data.List.Infix

/-!
The content check of an upload against the signatures of the formats it admits. The
check compares hexadecimal texts and decoded texts of the first eight bytes. It agrees
with the signatures except for a WebP file: the twelve bytes it asks for are never there.
-/

namespace IdpSaas
open DocumentsService

/-- The admitted formats: the bytes that a file has at fixed offsets. -/
def signature (mime : String) : Option (List (Nat × Bytes)) :=
  if mime = "application/pdf" then some [(0, [0x25, 0x50, 0x44, 0x46])]
  else if mime = "image/jpeg" then some [(0, [0xff, 0xd8, 0xff])]
  else if mime = "image/png" then some [(0, [0x89, 0x50, 0x4e, 0x47, 0x0d, 0x0a, 0x1a, 0x0a])]
  else if mime = "image/webp" then
    some [(0, [0x52, 0x49, 0x46, 0x46]), (8, [0x57, 0x45, 0x42, 0x50])]
  else none

def Carries (mime : String) (b : Bytes) : Prop :=
  ∃ parts, signature mime = some parts ∧ ∀ part ∈ parts, part.2 <+: b.drop part.1

/-- The check lets exactly the files with their format's signature pass, and an upload
that it rejects stores nothing. -/
structure ContentChecked (env : Env) (file : MulterFile) : Prop where
  accepts : (∃ f, checkFile (some file) = .ok f) ↔
    4 ≤ file.buffer.length ∧ Carries file.mimetype file.buffer
  rejects : ¬(4 ≤ file.buffer.length ∧ Carries file.mimetype file.buffer) →
    ∀ t userId g faults s, upload env t userId (some file) g faults s =
      (.error (.badRequest "File content does not match declared type"), s)

section Texts

theorem hexDigit_inj {m n : Nat} (hm : m < 16) (hn : n < 16) (h : hexDigit m = hexDigit n) :
    m = n := by
  have distinct : ∀ m < 16, ∀ n < 16, hexDigit m = hexDigit n → m = n := by decide
  exact distinct m hm n hn h

/-- A byte begins the hexadecimal text of the bytes that it begins. -/
theorem hexString_prefix_iff {a b : Bytes} : hexString a <+: hexString b ↔ a <+: b := by
  induction a generalizing b with
  | nil => simp [hexString]
  | cons x a ih =>
      cases b with
      | nil => simp [hexString]
      | cons y b =>
          have hx := x.toNat_lt
          have hy := y.toNat_lt
          have split : ∀ (x : UInt8) (b : Bytes), hexString (x :: b) =
              hexDigit (x.toNat / 16) :: hexDigit (x.toNat % 16) :: hexString b := fun _ _ => rfl
          rw [split, split, List.cons_prefix_cons, List.cons_prefix_cons, List.cons_prefix_cons, ih]
          constructor
          · rintro ⟨high, low, rest⟩
            have same := hexDigit_inj (by omega) (by omega) high
            have same' := hexDigit_inj (by omega) (by omega) low
            exact ⟨UInt8.toNat_inj.mp (by omega), rest⟩
          · rintro ⟨rfl, rest⟩
            exact ⟨rfl, rfl, rest⟩

/-- The head of a buffer reads as a text exactly when the buffer begins with its bytes. -/
theorem isText_take_iff {b sig : Bytes} {text : String}
    (bytes : sig.map UInt8.toNat = text.toList.map Char.toNat) :
    isText (b.take sig.length) text = true ↔ sig <+: b := by
  rw [isText, ← bytes, beq_iff_eq, (List.map_injective_iff.mpr fun _ _ => UInt8.toNat_inj.mp).eq_iff,
    List.prefix_iff_eq_take, eq_comm]

theorem hex_head_iff (sig : Bytes) {b : Bytes} {text : String} (hex : hexString sig = text.toList)
    (short : sig.length ≤ 8) :
    text.toList.isPrefixOf (hexString (b.take 8)) = true ↔ sig <+: b := by
  rw [List.isPrefixOf_iff_prefix, ← hex, hexString_prefix_iff, List.prefix_take_iff]
  exact and_iff_left short

theorem isText_head_iff (sig : Bytes) {b : Bytes} {text : String}
    (bytes : sig.map UInt8.toNat = text.toList.map Char.toNat) (four : sig.length = 4) :
    isText ((b.take 8).take 4) text = true ↔ sig <+: b := by
  rw [List.take_take, show min 4 8 = sig.length from four.symm]
  exact isText_take_iff bytes

end Texts

section Formats
variable {b : Bytes}

theorem carries_pdf : Carries "application/pdf" b ↔ [0x25, 0x50, 0x44, 0x46] <+: b := by
  simp [Carries, signature]

theorem carries_jpeg : Carries "image/jpeg" b ↔ [0xff, 0xd8, 0xff] <+: b := by
  simp [Carries, signature]

theorem carries_png :
    Carries "image/png" b ↔ [0x89, 0x50, 0x4e, 0x47, 0x0d, 0x0a, 0x1a, 0x0a] <+: b := by
  simp [Carries, signature]

theorem carries_webp :
    Carries "image/webp" b ↔
      [0x52, 0x49, 0x46, 0x46] <+: b ∧ [0x57, 0x45, 0x42, 0x50] <+: b.drop 8 := by
  have parts : signature "image/webp" =
      some [(0, [0x52, 0x49, 0x46, 0x46]), (8, [0x57, 0x45, 0x42, 0x50])] := by decide
  simp only [Carries, parts, Option.some.injEq, exists_eq_left', List.forall_mem_cons,
    List.drop_zero, List.not_mem_nil, false_imp_iff, implies_true, and_true]

theorem carries_other {mime : String} (pdf : mime ≠ "application/pdf") (jpeg : mime ≠ "image/jpeg")
    (png : mime ≠ "image/png") (webp : mime ≠ "image/webp") : ¬Carries mime b := by
  simp [Carries, signature, pdf, jpeg, png, webp]

/-- The check is that of the signatures, but that no WebP file passes. -/
theorem magicBytesMatchMime_iff (b : Bytes) (mime : String) :
    magicBytesMatchMime b mime = true ↔
      4 ≤ b.length ∧ Carries mime b ∧ mime ≠ "image/webp" := by
  rw [magicBytesMatchMime]
  by_cases short : b.length < 4
  · rw [if_pos short]
    exact ⟨fun accepted => absurd accepted Bool.false_ne_true, fun carries => by omega⟩
  · rw [if_neg short]
    simp only [show 4 ≤ b.length from Nat.le_of_not_lt short, true_and]
    by_cases pdf : mime = "application/pdf"
    · subst pdf
      rw [if_pos rfl, isText_head_iff [0x25, 0x50, 0x44, 0x46] (by decide) rfl, ← carries_pdf]
      exact (and_iff_left (by decide)).symm
    · rw [if_neg pdf]
      by_cases jpeg : mime = "image/jpeg"
      · subst jpeg
        rw [if_pos rfl, hex_head_iff [0xff, 0xd8, 0xff] (by decide) (by decide), ← carries_jpeg]
        exact (and_iff_left (by decide)).symm
      · rw [if_neg jpeg]
        by_cases png : mime = "image/png"
        · subst png
          rw [if_pos rfl, hex_head_iff [0x89, 0x50, 0x4e, 0x47, 0x0d, 0x0a, 0x1a, 0x0a] (by decide)
            (by decide), ← carries_png]
          exact (and_iff_left (by decide)).symm
        · rw [if_neg png]
          by_cases webp : mime = "image/webp"
          · subst webp
            have never : ¬12 ≤ ((b.take 8).take 12).length := by
              rw [List.length_take, List.length_take]
              omega
            rw [if_pos rfl, decide_eq_false never, Bool.and_false]
            exact ⟨fun accepted => absurd accepted Bool.false_ne_true, fun h => absurd rfl h.2⟩
          · rw [if_neg webp]
            refine ⟨fun accepted => absurd accepted Bool.false_ne_true, fun h => ?_⟩
            exact absurd h.1 (carries_other pdf jpeg png webp)

end Formats

section Check
variable {env : Env} {file : MulterFile}

theorem checkFile_ok_iff :
    (∃ f, checkFile (some file) = .ok f) ↔
      magicBytesMatchMime file.buffer file.mimetype = true := by
  rw [checkFile]
  split
  · next accepted => exact ⟨fun _ => accepted, fun _ => ⟨file, rfl⟩⟩
  · next rejected =>
      constructor
      · intro passes
        obtain ⟨f, passed⟩ := passes
        cases passed
      · exact fun accepted => absurd accepted rejected

theorem upload_rejected (rejected : ¬magicBytesMatchMime file.buffer file.mimetype = true)
    (env : Env) (t : Uuid) (userId : String) (g : UploadGenerated) (faults : UploadFaults)
    (s : Stores) :
    upload env t userId (some file) g faults s =
      (.error (.badRequest "File content does not match declared type"), s) := by
  rw [upload, checkFile, if_neg rejected]

/-- The content check is exact for every file but those that are WebP. -/
theorem content_checked_iff (env : Env) (file : MulterFile) :
    ContentChecked env file ↔
      ¬(file.mimetype = "image/webp" ∧ Carries "image/webp" file.buffer) := by
  constructor
  · rintro checked ⟨webp, carries⟩
    have long : 4 ≤ file.buffer.length := (carries_webp.mp carries).1.length_le
    have passes := checked.accepts.mpr ⟨long, webp ▸ carries⟩
    rw [checkFile_ok_iff, magicBytesMatchMime_iff] at passes
    exact passes.2.2 webp
  · intro other
    have same : magicBytesMatchMime file.buffer file.mimetype = true ↔
        4 ≤ file.buffer.length ∧ Carries file.mimetype file.buffer := by
      rw [magicBytesMatchMime_iff]
      refine ⟨fun h => ⟨h.1, h.2.1⟩, fun h => ⟨h.1, h.2, fun webp => other ⟨webp, webp ▸ h.2⟩⟩⟩
    refine ⟨checkFile_ok_iff.trans same, fun lacks t userId g faults s => ?_⟩
    exact upload_rejected (fun accepted => lacks (same.mp accepted)) env t userId g faults s

end Check

namespace Sample

/-- The first bytes of a WebP file: RIFF, the size, WEBP, and a chunk. -/
def photo : MulterFile where
  originalname := "photo.webp"
  mimetype := "image/webp"
  buffer := [0x52, 0x49, 0x46, 0x46, 0x24, 0x00, 0x00, 0x00, 0x57, 0x45, 0x42, 0x50, 0x56, 0x50,
    0x38, 0x20]

end Sample

/-- A WebP file is rejected although it carries its signature. -/
theorem webp_rejected :
    checkFile (some Sample.photo) =
        .error (.badRequest "File content does not match declared type") ∧
      ¬ContentChecked Sample.env Sample.photo := by
  have rejected : checkFile (some Sample.photo) =
      .error (.badRequest "File content does not match declared type") := by decide +kernel
  refine ⟨rejected, fun checked => ?_⟩
  obtain ⟨f, passes⟩ := checked.accepts.mpr
    ⟨by decide, carries_webp.mpr ⟨by decide, by decide⟩⟩
  rw [rejected] at passes
  cases passes

end IdpSaas
