import IdpSaas.Ocr.Server
import Mathlib.Logic.Function.Basic

/-!
The OCR service on its disk. A handler makes a directory of its own, writes the upload
into it, has the command read it and leave its output beside it, and reads that back; no
response waits for the removal of the directory. Names are drawn by the environment, and
a call that fails may leave anything in the handler's directory.
-/

namespace IdpSaas
namespace Ocr
open Machine

/-- The files of a directory, by name. -/
abbrev Directory := String → Option (List UInt8)

def Directory.empty : Directory := fun _ => none

/-- Directories by path. -/
abbrev Disk := String → Option Directory

/-- The output files that the command leaves for an image. -/
structure Recognition where
  txt : Option (List UInt8)
  tsv : Option (List UInt8)
  deriving DecidableEq, Repr

/-- The command and the decoder. `tmpPrefix` is `path.join(os.tmpdir(), 'ocr-')`, and
`cannotOpen` what the command says when there is no image. -/
structure Host where
  language : String
  tmpPrefix : String
  tesseract : List UInt8 → Recognition
  utf8 : List UInt8 → String
  cannotOpen : Failure

/-- `tmpDir`, and the id in the name of `inputPath`. -/
structure Place where
  tmpDir : String
  uuid : String
  deriving DecidableEq, Repr

def Place.input (p : Place) : String := "in-" ++ p.uuid

structure Locals where
  buffer : List UInt8
  place : Option Place
  deriving DecidableEq, Repr

/-- How an awaited call ends; the texts are what it draws when it makes a directory. -/
inductive Outcome
  | done (suffix uuid : String)
  | failed (failure : Failure) (left : Directory)

/-- `removals` are the directories whose removal has been started. -/
structure Workspace where
  process : State
  locals : Nat → Option Locals
  disk : Disk
  removals : List String

def Workspace.init (disk : Disk) : Workspace := ⟨.init, fun _ => none, disk, []⟩

inductive Work
  | request (id : Nat) (upload : Upload)
  | settle (id now : Nat) (outcome : Outcome)
  | removed (dir : String) (left : Option Directory)

/-- What a call has done, and how it settles. -/
structure Call where
  locals : Locals
  disk : Disk
  failure : Option Failure
  text : String

def noEntry (path : String) : Failure :=
  ⟨"ENOENT: no such file or directory, open '" ++ path ++ "'", ""⟩

/-- Where the command leaves its output. Output that is not written stays as it was. -/
def Directory.recognised (files : Directory) (r : Recognition) : Directory := fun name =>
  if name = "out.txt" then r.txt.or (files name)
  else if name = "out.tsv" then r.tsv.or (files name)
  else files name

section Calls
variable (host : Host)

/-- The calls on the handler's own directory: what they leave in it, and how they settle. -/
def inDirectory (buffer : List UInt8) (p : Place) (files : Directory) :
    Outcome → HandlerPc → Directory × Option Failure × String
  | .failed err left, .writeFile _ | .failed err left, .runTesseract _ => (left, some err, "")
  | .failed err _, _ => (files, some err, "")
  | .done _ _, .writeFile _ => (Function.update files p.input (some buffer), none, "")
  | .done _ _, .runTesseract _ =>
      match files p.input with
      | some image => (files.recognised (host.tesseract image), none, "")
      | none => (files, some host.cannotOpen, "")
  | .done _ _, .readText _ => (files, read files (p.tmpDir ++ "/out.txt") "out.txt")
  | .done _ _, .readTsv _ _ => (files, read files (p.tmpDir ++ "/out.tsv") "out.tsv")
  | .done _ _, _ => (files, none, "")
where
  read (files : Directory) (path name : String) : Option Failure × String :=
    match files name with
    | some bytes => (none, host.utf8 bytes)
    | none => (some (noEntry path), "")

/-- The call that a handler waits for. A name that is taken is drawn again. -/
def call (disk : Disk) (l : Locals) (outcome : Outcome) (pc : HandlerPc) : Option Call :=
  match pc, l.place with
  | .mkdtemp, _ =>
      match outcome with
      | .failed err _ => some ⟨l, disk, some err, ""⟩
      | .done suffix uuid =>
          let p : Place := ⟨host.tmpPrefix ++ suffix, uuid⟩
          match disk p.tmpDir with
          | some _ => none
          | none =>
              some ⟨{ l with place := some p }, Function.update disk p.tmpDir (some Directory.empty), none, ""⟩
  | .ended, _ | _, none => none
  | pc, some p =>
      match disk p.tmpDir with
      | none => some ⟨l, disk, some (noEntry p.tmpDir), ""⟩
      | some files =>
          let r := inDirectory host l.buffer p files outcome pc
          some ⟨l, Function.update disk p.tmpDir (some r.1), r.2.1, r.2.2⟩

end Calls

namespace Workspace
variable (host : Host) (w : Workspace)

def request (id : Nat) (upload : Upload) : Workspace × Option (Nat × Response) :=
  if w.process.up = true ∧ w.process.handlers id = none then
    let r := Ocr.step host.language w.process (.request id upload)
    match upload with
    | .file buffer =>
        ({ w with process := r.1, locals := Function.update w.locals id (some ⟨buffer, none⟩) }, r.2)
    | .missing | .failed _ => ({ w with process := r.1 }, r.2)
  else (w, none)

/-- The call settles, and the handler goes on to its next one. In the turn that it
responds it starts to remove its directory. -/
def settle (id now : Nat) (outcome : Outcome) : Workspace × Option (Nat × Response) :=
  match w.process.up, w.process.handlers id, w.locals id with
  | true, some pc, some l =>
      match call host w.disk l outcome pc with
      | none => (w, none)
      | some c =>
          let r := Ocr.step host.language w.process (.settle id ⟨now, c.failure, c.text⟩)
          let tmpDir := c.locals.place.map Place.tmpDir
          ({ process := r.1
             locals := Function.update w.locals id (some c.locals)
             disk := c.disk
             removals := w.removals ++ if r.2.isSome then tmpDir.toList else [] }, r.2)
  | _, _, _ => (w, none)

/-- A removal ends; `left` is what it could not remove. -/
def removed (dir : String) (left : Option Directory) : Workspace :=
  if w.process.up = true ∧ dir ∈ w.removals then
    { w with disk := Function.update w.disk dir left, removals := w.removals.erase dir }
  else w

def step : Work → Workspace × Option (Nat × Response)
  | .request id upload => w.request host id upload
  | .settle id now outcome => w.settle host id now outcome
  | .removed dir left => (w.removed dir left, none)

end Workspace

/-- The handler has a directory. -/
def HandlerPc.working : HandlerPc → Bool
  | .mkdtemp | .ended => false
  | _ => true

/-- What a handler relies on in its directory, at each of its awaits. -/
def Ready (host : Host) (buffer : List UInt8) (p : Place) (files : Directory) : HandlerPc → Prop
  | .writeFile _ => files = Directory.empty
  | .runTesseract _ => files = Function.update Directory.empty p.input (some buffer)
  | .readText _ =>
      files "out.txt" = (host.tesseract buffer).txt ∧ files "out.tsv" = (host.tesseract buffer).tsv
  | .readTsv _ text =>
      files "out.tsv" = (host.tesseract buffer).tsv ∧
        ∃ txt, (host.tesseract buffer).txt = some txt ∧ text = Text.trim (host.utf8 txt).toList
  | .mkdtemp | .ended => False

/-- The response reports what the command makes of the image; without a TSV that can be
read there is no confidence. -/
def Reads (host : Host) (image : List UInt8) (response : Response) : Prop :=
  ∃ txt startedAt now confidence, (host.tesseract image).txt = some txt ∧
    response = recognised host.language startedAt now (Text.trim (host.utf8 txt).toList) confidence ∧
    (confidence = .finite 0 ∨
      ∃ tsv, (host.tesseract image).tsv = some tsv ∧ confidence = parseConfidence (host.utf8 tsv))

/-- A response that an upload may get. -/
def Fits (host : Host) : Upload → Response → Prop
  | .failed message, response => response = ⟨400, .error message⟩
  | .missing, response => response = ⟨400, .error "Multipart field \"file\" is required"⟩
  | .file image, response => Reads host image response ∨ ∃ message, response = ocrFailed message

section Handlers
variable {host : Host} {buffer : List UInt8} {p : Place} {files : Directory} {pc : HandlerPc}

theorem input_ne_output (p : Place) : p.input ≠ "out.txt" ∧ p.input ≠ "out.tsv" := by
  have starts : ∀ name : String, name.toList.head? ≠ some 'i' → p.input ≠ name := by
    intro name other same
    apply other
    rw [← same, Place.input, String.toList_append]
    rfl
  exact ⟨starts _ (by decide), starts _ (by decide)⟩

theorem Ready.working (h : Ready host buffer p files pc) : pc.working = true := by
  cases pc with
  | mkdtemp | ended => exact h.elim
  | _ => rfl

/-- The command finds the upload and leaves its reading of it. -/
theorem recognised_ready (host : Host) (buffer : List UInt8) (p : Place) (startedAt : Nat)
    (suffix uuid : String) :
    ∃ files', inDirectory host buffer p (Function.update Directory.empty p.input (some buffer))
        (.done suffix uuid) (.runTesseract startedAt) = (files', none, "") ∧
      Ready host buffer p files' (.readText startedAt) := by
  obtain ⟨notTxt, notTsv⟩ := input_ne_output p
  refine ⟨Directory.recognised (Function.update Directory.empty p.input (some buffer))
    (host.tesseract buffer), ?_, ?_, ?_⟩
  · simp only [inDirectory, Function.update_self]
  · simp [Directory.recognised, Function.update_of_ne notTxt.symm, Directory.empty]
  · simp [Directory.recognised, Function.update_of_ne notTsv.symm, Directory.empty]

/-- From a directory that is as it should be, a handler goes on to one that is, or responds. -/
theorem handler_ready (ready : Ready host buffer p files pc) (now : Nat) (outcome : Outcome) :
    let r := inDirectory host buffer p files outcome pc
    (∃ pc', handler host.language ⟨now, r.2.1, r.2.2⟩ pc = .next pc' ∧
        Ready host buffer p r.1 pc') ∨
      ∃ response, handler host.language ⟨now, r.2.1, r.2.2⟩ pc = .respond response ∧
        Fits host (.file buffer) response := by
  cases pc with
  | mkdtemp | ended => exact ready.elim
  | writeFile startedAt =>
      cases outcome with
      | failed err left => exact Or.inr ⟨_, rfl, Or.inr ⟨_, rfl⟩⟩
      | done suffix uuid =>
          refine Or.inl ⟨.runTesseract startedAt, rfl, ?_⟩
          rw [show files = Directory.empty from ready]
          rfl
  | runTesseract startedAt =>
      cases outcome with
      | failed err left => exact Or.inr ⟨_, rfl, Or.inr ⟨_, rfl⟩⟩
      | done suffix uuid =>
          obtain ⟨files', left, next⟩ := recognised_ready host buffer p startedAt suffix uuid
          rw [show files = Function.update Directory.empty p.input (some buffer) from ready, left]
          exact Or.inl ⟨.readText startedAt, rfl, next⟩
  | readText startedAt =>
      obtain ⟨text, tsv⟩ := ready
      cases outcome with
      | failed err left => exact Or.inr ⟨_, rfl, Or.inr ⟨_, rfl⟩⟩
      | done suffix uuid =>
          simp only [inDirectory, inDirectory.read]
          cases found : files "out.txt" with
          | none => exact Or.inr ⟨_, rfl, Or.inr ⟨_, rfl⟩⟩
          | some bytes => exact Or.inl ⟨.readTsv startedAt _, rfl, tsv, bytes, text ▸ found, rfl⟩
  | readTsv startedAt text =>
      obtain ⟨tsv, txt, written, rfl⟩ := ready
      refine Or.inr ⟨_, rfl, Or.inl ⟨txt, startedAt, now, _, written, rfl, ?_⟩⟩
      cases outcome with
      | failed err left => exact Or.inl rfl
      | done suffix uuid =>
          simp only [inDirectory, inDirectory.read]
          cases found : files "out.tsv" with
          | none => exact Or.inl rfl
          | some bytes => exact Or.inr ⟨bytes, tsv ▸ found, rfl⟩

end Handlers

/-- The directory is that of a handler that works in it. -/
def Workspace.Uses (w : Workspace) (id : Nat) (dir : String) : Prop :=
  ∃ pc l p, w.process.handlers id = some pc ∧ pc.working = true ∧ w.locals id = some l ∧
    l.place = some p ∧ p.tmpDir = dir

/-- Every handler finds its own directory as it left it, and no directory has two owners:
two handlers, or a handler and a removal. -/
structure Workspace.Sound (host : Host) (w : Workspace) : Prop where
  ready : ∀ id pc, w.process.handlers id = some pc → pc.working = true → ∃ l p files,
    w.locals id = some l ∧ l.place = some p ∧ w.disk p.tmpDir = some files ∧
      Ready host l.buffer p files pc
  apart : ∀ i j dir, w.Uses i dir → w.Uses j dir → i = j
  removing : ∀ id dir, w.Uses id dir → dir ∉ w.removals
  once : w.removals.Nodup
  there : ∀ dir ∈ w.removals, w.disk dir ≠ none

/-- What one event does to a sound workspace. -/
inductive Workspace.Move (host : Host) (w : Workspace) :
    Work → Workspace → Option (Nat × Response) → Prop
  | idle (e : Work)
      (known : ∀ id upload, e = .request id upload → w.process.up = true →
        w.process.handlers id ≠ none) :
      Move host w e w none
  | refused (id : Nat) (upload : Upload) (response : Response) (up : w.process.up = true)
      (new : w.process.handlers id = none) (fits : Fits host upload response) :
      Move host w (.request id upload) { w with process := w.process.at id .ended }
        (some (id, response))
  | received (id : Nat) (buffer : List UInt8) (up : w.process.up = true)
      (new : w.process.handlers id = none) :
      Move host w (.request id (.file buffer))
        { w with
          process := w.process.at id .mkdtemp
          locals := Function.update w.locals id (some ⟨buffer, none⟩) } none
  | down (id now : Nat) (outcome : Outcome) :
      Move host w (.settle id now outcome)
        { w with process := { w.process with up := false } } none
  | made (id now : Nat) (outcome : Outcome) (l : Locals) (p : Place)
      (waits : w.process.handlers id = some .mkdtemp) (own : w.locals id = some l)
      (free : w.disk p.tmpDir = none) :
      Move host w (.settle id now outcome)
        { w with
          process := w.process.at id (.writeFile now)
          locals := Function.update w.locals id (some { l with place := some p })
          disk := Function.update w.disk p.tmpDir (some Directory.empty) } none
  | advanced (id now : Nat) (outcome : Outcome) (l : Locals) (p : Place) (pc pc' : HandlerPc)
      (files : Directory) (waits : w.process.handlers id = some pc) (working : pc.working = true)
      (own : w.locals id = some l) (place : l.place = some p)
      (ready : Ready host l.buffer p files pc') :
      Move host w (.settle id now outcome)
        { w with
          process := w.process.at id pc'
          disk := Function.update w.disk p.tmpDir (some files) } none
  | responded (id now : Nat) (outcome : Outcome) (l : Locals) (p : Place) (pc : HandlerPc)
      (files : Directory) (response : Response) (waits : w.process.handlers id = some pc)
      (working : pc.working = true) (own : w.locals id = some l) (place : l.place = some p)
      (fits : Fits host (.file l.buffer) response) :
      Move host w (.settle id now outcome)
        { w with
          process := w.process.at id .ended
          disk := Function.update w.disk p.tmpDir (some files)
          removals := w.removals ++ [p.tmpDir] } (some (id, response))
  | removed (dir : String) (left : Option Directory) (mem : dir ∈ w.removals) :
      Move host w (.removed dir left)
        { w with disk := Function.update w.disk dir left, removals := w.removals.erase dir } none

namespace Workspace
variable {host : Host} {w : Workspace}

theorem request_move (id : Nat) (upload : Upload) :
    w.Move host (.request id upload) (w.request host id upload).1 (w.request host id upload).2 := by
  rw [request]
  split
  · next h =>
      obtain ⟨up, new⟩ := h
      rw [step_request up new]
      cases upload with
      | file buffer => exact .received id buffer up new
      | missing => exact .refused id .missing _ up new rfl
      | failed message => exact .refused id (.failed message) _ up new rfl
  · next h =>
      refine .idle _ fun i u same up new => h ?_
      cases same
      exact ⟨up, new⟩

/-- A handler in its directory: its call settles on the directory that it relies on. -/
theorem settle_working (sound : w.Sound host) {id : Nat} {pc : HandlerPc} {l : Locals}
    (up : w.process.up = true) (waits : w.process.handlers id = some pc)
    (working : pc.working = true) (own : w.locals id = some l) (now : Nat) (outcome : Outcome) :
    w.Move host (.settle id now outcome) (w.settle host id now outcome).1
      (w.settle host id now outcome).2 := by
  obtain ⟨l', p, files, own', place, there, ready⟩ := sound.ready id pc waits working
  obtain rfl : l' = l := Option.some.inj (own'.symm.trans own)
  have called : call host w.disk l' outcome pc =
      some ⟨l', Function.update w.disk p.tmpDir
        (some (inDirectory host l'.buffer p files outcome pc).1),
        (inDirectory host l'.buffer p files outcome pc).2.1,
        (inDirectory host l'.buffer p files outcome pc).2.2⟩ := by
    cases pc with
    | mkdtemp | ended => cases working
    | _ => simp only [call, place, there]
  have kept : Function.update w.locals id (some l') = w.locals := by
    rw [← own', Function.update_eq_self]
  rw [settle, up, waits, own]
  dsimp only
  rw [called]
  dsimp only
  rw [step_settle up waits, Ocr.settle, kept, place]
  cases handler_ready ready now outcome with
  | inl next =>
      obtain ⟨pc', turn, ready'⟩ := next
      rw [turn]
      simp only [Option.isSome_none, Bool.false_eq_true, if_false, List.append_nil]
      exact .advanced id now outcome l' p pc pc' _ waits working own place ready'
  | inr answer =>
      obtain ⟨response, turn, fits⟩ := answer
      rw [turn]
      exact .responded id now outcome l' p pc _ response waits working own place fits

theorem settle_mkdtemp {id : Nat} {l : Locals} (up : w.process.up = true)
    (waits : w.process.handlers id = some .mkdtemp) (own : w.locals id = some l) (now : Nat)
    (outcome : Outcome) :
    w.Move host (.settle id now outcome) (w.settle host id now outcome).1
      (w.settle host id now outcome).2 := by
  rw [settle, up, waits, own]
  dsimp only
  cases outcome with
  | failed err left =>
      have kept : Function.update w.locals id (some l) = w.locals := by
        rw [← own, Function.update_eq_self]
      simp only [call]
      rw [step_settle up waits, Ocr.settle, handler, kept]
      simp only [Option.isSome_none, Bool.false_eq_true, if_false, List.append_nil]
      exact .down id now _
  | done suffix uuid =>
      simp only [call]
      cases free : w.disk (host.tmpPrefix ++ suffix) with
      | some files => exact .idle _ fun _ _ same => by cases same
      | none =>
          dsimp only
          rw [step_settle up waits, Ocr.settle, handler]
          simp only [Option.isSome_none, Bool.false_eq_true, if_false, List.append_nil]
          exact .made id now _ l ⟨_, uuid⟩ waits own free

theorem settle_move (sound : w.Sound host) (id now : Nat) (outcome : Outcome) :
    w.Move host (.settle id now outcome) (w.settle host id now outcome).1
      (w.settle host id now outcome).2 := by
  have idle : ∀ r, w.settle host id now outcome = r → r = (w, none) →
      w.Move host (.settle id now outcome) r.1 r.2 := by
    rintro r - rfl
    exact .idle _ fun _ _ same => by cases same
  cases up : w.process.up with
  | false => exact idle _ rfl (by rw [settle, up])
  | true =>
      cases waits : w.process.handlers id with
      | none => exact idle _ rfl (by rw [settle, up, waits])
      | some pc =>
          cases own : w.locals id with
          | none => exact idle _ rfl (by rw [settle, up, waits, own])
          | some l =>
              cases pc with
              | mkdtemp => exact settle_mkdtemp up waits own now outcome
              | ended =>
                  refine idle _ rfl ?_
                  simp only [settle, up, waits, own, call]
              | writeFile | runTesseract | readText | readTsv =>
                  exact settle_working sound up waits rfl own now outcome

theorem step_move (sound : w.Sound host) (e : Work) :
    w.Move host e (w.step host e).1 (w.step host e).2 := by
  cases e with
  | request id upload => exact request_move id upload
  | settle id now outcome => exact settle_move sound id now outcome
  | removed dir left =>
      rw [step, removed]
      split
      · next h => exact .removed dir left h.2
      · exact .idle _ fun _ _ same => by cases same

end Workspace
end Ocr
end IdpSaas
