import IdpSaas.Lib.Machine
import IdpSaas.Ocr.Confidence

/-!
The OCR service: `POST /ocr` behind the upload middleware, one handler for each request,
suspended at its awaits, and all of them in one process. What is rejected inside the
`try` is answered; a rejection before it ends the process.
-/

namespace IdpSaas
namespace Ocr
open Machine

/-- What the upload middleware has made of a request. -/
inductive Upload
  | file (buffer : List UInt8)
  | missing
  | failed (message : String)

/-- What an awaited call is rejected with; only a command has written to `stderr`. -/
structure Failure where
  message : String
  stderr : String
  deriving DecidableEq, Repr

/-- How an awaited call settles, and when. A file that is read has a text. -/
structure Settled where
  now : Nat
  failure : Option Failure
  text : String

structure OcrResult where
  text : String
  language : String
  confidence : Numeral.Number
  pageCount : Nat
  wordCount : Nat
  durationMs : Int
  deriving DecidableEq, Repr

inductive Body
  | error (message : String)
  | result (result : OcrResult)
  deriving DecidableEq, Repr

structure Response where
  status : Nat
  body : Body
  deriving DecidableEq, Repr

inductive HandlerPc
  | mkdtemp
  | writeFile (startedAt : Nat)
  | runTesseract (startedAt : Nat)
  | readText (startedAt : Nat)
  | readTsv (startedAt : Nat) (text : List Char)
  | ended
  deriving DecidableEq, Repr

structure State where
  up : Bool
  handlers : Nat → Option HandlerPc

def State.init : State := ⟨true, fun _ => none⟩

inductive Event
  | request (id : Nat) (upload : Upload)
  | settle (id : Nat) (settled : Settled)

def Event.id : Event → Nat
  | .request id _ | .settle id _ => id

/-- What a handler does when its call settles. -/
inductive Turn
  | next (pc : HandlerPc)
  | respond (response : Response)
  | unhandledRejection

def wordCount (text : List Char) : Nat :=
  ((text.splitOnP Text.isSpace).filter fun word => word ≠ []).length

/-- The `catch` of the handler. -/
def ocrFailed (message : String) : Response := ⟨500, .error message⟩

/-- `runTesseract` rejects with what the command has written, or else with its error. -/
def tesseractFailed (f : Failure) : String :=
  "tesseract failed: " ++ if f.stderr = "" then f.message else f.stderr

def recognised (language : String) (startedAt now : Nat) (text : List Char)
    (confidence : Numeral.Number) : Response where
  status := 200
  body := .result
    { text := String.ofList text
      language := language
      confidence := confidence
      pageCount := 1
      wordCount := if text = [] then 0 else wordCount text
      durationMs := (now : Int) - startedAt }

def handler (language : String) (settled : Settled) : HandlerPc → Turn
  | .mkdtemp =>
      match settled.failure with
      | some _ => .unhandledRejection
      | none => .next (.writeFile settled.now)
  | .writeFile startedAt =>
      match settled.failure with
      | some err => .respond (ocrFailed err.message)
      | none => .next (.runTesseract startedAt)
  | .runTesseract startedAt =>
      match settled.failure with
      | some err => .respond (ocrFailed (tesseractFailed err))
      | none => .next (.readText startedAt)
  | .readText startedAt =>
      match settled.failure with
      | some err => .respond (ocrFailed err.message)
      | none => .next (.readTsv startedAt (Text.trim settled.text.toList))
  | .readTsv startedAt text =>
      let confidence := match settled.failure with
        | some _ => .finite 0
        | none => parseConfidence settled.text
      .respond (recognised language startedAt settled.now text confidence)
  | .ended => .next .ended

def State.at (s : State) (id : Nat) (pc : HandlerPc) : State :=
  { s with handlers := fun i => if i = id then some pc else s.handlers i }

/-- A request past the middleware. An upload error goes to the error middleware. -/
def receive (s : State) (id : Nat) : Upload → State × Option (Nat × Response)
  | .failed message => (s.at id .ended, some (id, ⟨400, .error message⟩))
  | .missing => (s.at id .ended, some (id, ⟨400, .error "Multipart field \"file\" is required"⟩))
  | .file _ => (s.at id .mkdtemp, none)

def settle (language : String) (s : State) (id : Nat) (settled : Settled) (pc : HandlerPc) :
    State × Option (Nat × Response) :=
  match handler language settled pc with
  | .next pc' => (s.at id pc', none)
  | .respond response => (s.at id .ended, some (id, response))
  | .unhandledRejection => ({ s with up := false }, none)

/-- An ended process does nothing any more. -/
def step (language : String) (s : State) (e : Event) : State × Option (Nat × Response) :=
  if s.up then
    match e, s.handlers e.id with
    | .request id upload, none => receive s id upload
    | .settle id settled, some pc => settle language s id settled pc
    | .request _ _, some _ | .settle _ _, none => (s, none)
  else (s, none)

/-- A temporary directory is made whenever one is asked for. -/
def MakesDirectories (s : State) : Event → Prop
  | .settle id settled => s.handlers id = some .mkdtemp → settled.failure = none
  | .request _ _ => True

/-- The one response that a request should get, once enough of its calls have settled. -/
def expected (language : String) : Upload → List Settled → Option Response
  | .failed message, _ => some ⟨400, .error message⟩
  | .missing, _ => some ⟨400, .error "Multipart field \"file\" is required"⟩
  | .file _, made :: wrote :: rest =>
      match wrote.failure, rest with
      | some err, _ => some ⟨500, .error err.message⟩
      | none, [] => none
      | none, ran :: rest =>
          match ran.failure, rest with
          | some err, _ => some ⟨500, .error (tesseractFailed err)⟩
          | none, [] => none
          | none, txt :: rest =>
              match txt.failure, rest with
              | some err, _ => some ⟨500, .error err.message⟩
              | none, [] => none
              | none, tsv :: _ =>
                  some (recognised language made.now tsv.now (Text.trim txt.text.toList)
                    (match tsv.failure with
                      | some _ => .finite 0
                      | none => parseConfidence tsv.text))
  | .file _, [] | .file _, [_] => none

def settledOf (id : Nat) (es : List Event) : List Settled :=
  es.filterMap fun e => match e with
    | .settle i settled => if i = id then some settled else none
    | .request _ _ => none

/-- A request as the events have it: what was uploaded, and the calls that settled since. -/
def arrival (id : Nat) : List Event → Option (Upload × List Settled)
  | [] => none
  | .request i upload :: es => if i = id then some (upload, settledOf id es) else arrival id es
  | .settle _ _ :: es => arrival id es

def responsesTo (id : Nat) (sent : List (Event × Nat × Response)) : List Response :=
  (sent.filter fun a => a.1.id = id).map fun a => a.2.2

/-- What the handler answers in the end, as its calls settle. -/
def outcome (language : String) : HandlerPc → List Settled → Option Response
  | _, [] => none
  | pc, settled :: rest =>
      match handler language settled pc with
      | .next pc' => outcome language pc' rest
      | .respond response => some response
      | .unhandledRejection => none

section Handlers
variable {language : String}

theorem outcome_ended (settled : List Settled) : outcome language .ended settled = none := by
  induction settled with
  | nil => rfl
  | cons r rest ih => exact ih

theorem outcome_eq_expected (buffer : List UInt8) {settled : List Settled}
    (made : ∀ r, settled.head? = some r → r.failure = none) :
    outcome language .mkdtemp settled = expected language (.file buffer) settled := by
  cases settled with
  | nil => rfl
  | cons first rest =>
      simp only [outcome, handler, made first rfl]
      cases rest with
      | nil => rfl
      | cons wrote rest =>
          simp only [outcome, handler, expected]
          cases wrote.failure with
          | some err => rfl
          | none =>
              cases rest with
              | nil => rfl
              | cons ran rest =>
                  simp only [outcome, handler]
                  cases ran.failure with
                  | some err => rfl
                  | none =>
                      cases rest with
                      | nil => rfl
                      | cons txt rest =>
                          simp only [outcome, handler]
                          cases txt.failure with
                          | some err => rfl
                          | none => cases rest <;> rfl

theorem expected_isSome (language : String) (upload : Upload) {settled : List Settled}
    (enough : 5 ≤ settled.length) : ∃ response, expected language upload settled = some response := by
  cases upload with
  | failed message => exact ⟨_, rfl⟩
  | missing => exact ⟨_, rfl⟩
  | file buffer =>
      match settled, enough with
      | made :: wrote :: ran :: txt :: tsv :: rest, _ =>
          simp only [expected]
          cases wrote.failure with
          | some err => exact ⟨_, rfl⟩
          | none =>
              dsimp only
              cases ran.failure with
              | some err => exact ⟨_, rfl⟩
              | none =>
                  dsimp only
                  cases txt.failure with
                  | some err => exact ⟨_, rfl⟩
                  | none => exact ⟨_, rfl⟩

end Handlers

section Steps
variable {language : String} {s : State} {id : Nat}

theorem at_own (pc : HandlerPc) : (s.at id pc).handlers id = some pc := if_pos rfl

theorem at_other {i : Nat} (other : i ≠ id) (pc : HandlerPc) :
    (s.at i pc).handlers id = s.handlers id := if_neg other.symm

theorem step_request (up : s.up = true) (new : s.handlers id = none) (upload : Upload) :
    step language s (.request id upload) = receive s id upload := by
  simp only [step, up, if_true, Event.id, new]

theorem step_request_known (up : s.up = true) {pc : HandlerPc} (known : s.handlers id = some pc)
    (upload : Upload) : step language s (.request id upload) = (s, none) := by
  simp only [step, up, if_true, Event.id, known]

theorem step_settle (up : s.up = true) {pc : HandlerPc} (known : s.handlers id = some pc)
    (settled : Settled) :
    step language s (.settle id settled) = settle language s id settled pc := by
  simp only [step, up, if_true, Event.id, known]

theorem step_settle_unknown (up : s.up = true) (unknown : s.handlers id = none)
    (settled : Settled) : step language s (.settle id settled) = (s, none) := by
  simp only [step, up, if_true, Event.id, unknown]

/-- A handler that can make its directory rejects nothing unhandled. -/
theorem handler_handled (language : String) {settled : Settled} {pc : HandlerPc}
    (made : pc = .mkdtemp → settled.failure = none) :
    handler language settled pc ≠ .unhandledRejection := by
  cases pc with
  | mkdtemp => simp [handler, made rfl]
  | writeFile startedAt | runTesseract startedAt | readText startedAt =>
      cases fails : settled.failure <;> simp [handler, fails]
  | readTsv startedAt text => simp [handler]
  | ended => simp [handler]

/-- What one event does to the process: nothing, or it moves the handler of its request. -/
theorem step_cases (language : String) (up : s.up = true) {e : Event} (made : MakesDirectories s e) :
    step language s e = (s, none) ∨
      ∃ pc response, step language s e = (s.at e.id pc, response) := by
  cases e with
  | request i upload =>
      cases found : s.handlers i with
      | some pc => exact Or.inl (step_request_known up found upload)
      | none =>
          rw [step_request up found]
          cases upload with
          | file buffer => exact Or.inr ⟨_, _, rfl⟩
          | missing => exact Or.inr ⟨_, _, rfl⟩
          | failed message => exact Or.inr ⟨_, _, rfl⟩
  | settle i settled =>
      cases found : s.handlers i with
      | none => exact Or.inl (step_settle_unknown up found settled)
      | some pc =>
          have handled := handler_handled language fun first : pc = .mkdtemp =>
            made (found.trans (congrArg some first))
          rw [step_settle up found, settle]
          cases turn : handler language settled pc with
          | next pc' => exact Or.inr ⟨_, _, rfl⟩
          | respond response => exact Or.inr ⟨_, _, rfl⟩
          | unhandledRejection => exact absurd turn handled

theorem step_up (language : String) (s : State) (e : Event) (up : s.up = true)
    (made : MakesDirectories s e) : (step language s e).1.up = true := by
  rcases step_cases language up made with idle | ⟨pc, response, moved⟩
  · rw [idle]
    exact up
  · rw [moved]
    exact up

theorem step_other (language : String) (up : s.up = true) {e : Event} (made : MakesDirectories s e)
    (other : e.id ≠ id) : (step language s e).1.handlers id = s.handlers id := by
  rcases step_cases language up made with idle | ⟨pc, response, moved⟩
  · rw [idle]
  · rw [moved, at_other other]

end Steps

section Runs
variable {language : String} {s : State} {id : Nat} {e : Event} {es : List Event}

theorem responsesTo_own (own : e.id = id) :
    responsesTo id (answers (step language) s (e :: es)) =
      ((step language s e).2.map Prod.snd).toList ++
        responsesTo id (answers (step language) (step language s e).1 es) := by
  rw [responsesTo, answers, List.filter_append, List.map_append]
  cases (step language s e).2 with
  | none => rfl
  | some response => simp [responsesTo, own]

theorem responsesTo_other (other : e.id ≠ id) :
    responsesTo id (answers (step language) s (e :: es)) =
      responsesTo id (answers (step language) (step language s e).1 es) := by
  rw [responsesTo, answers, List.filter_append, List.map_append]
  cases (step language s e).2 with
  | none => rfl
  | some response => simp [responsesTo, other]

theorem settledOf_other (other : e.id ≠ id) : settledOf id (e :: es) = settledOf id es := by
  cases e with
  | request i upload => rfl
  | settle i settled => exact List.filterMap_cons_none (if_neg other)

theorem settledOf_own (settled : Settled) :
    settledOf id (.settle id settled :: es) = settled :: settledOf id es :=
  List.filterMap_cons_some (if_pos rfl)

theorem arrival_other (other : e.id ≠ id) : arrival id (e :: es) = arrival id es := by
  cases e with
  | request i upload => exact if_neg other
  | settle i settled => rfl

/-- The first call of a handler that waits for its directory does not fail. -/
theorem first_settled (up : s.up = true) (waits : s.handlers id = some .mkdtemp)
    (along : Along (step language) MakesDirectories s es) :
    ∀ r, (settledOf id es).head? = some r → r.failure = none := by
  induction es generalizing s with
  | nil => exact fun r first => nomatch first
  | cons e es ih =>
      have later := step_up language s e up along.1
      by_cases own : e.id = id
      · cases e with
        | request i upload =>
            obtain rfl : i = id := own
            refine ih later ?_ along.2
            rw [step_request_known up waits]
            exact waits
        | settle i settled =>
            obtain rfl : i = id := own
            intro r first
            rw [settledOf_own] at first
            exact Option.some.inj first ▸ along.1 waits
      · rw [settledOf_other own]
        exact ih later ((step_other language up along.1 own).trans waits) along.2

/-- What a request still gets: by its handler, or once it arrives. -/
def awaited (language : String) (s : State) (id : Nat) (es : List Event) : Option Response :=
  match s.handlers id with
  | none => (arrival id es).bind fun a => expected language a.1 a.2
  | some pc => outcome language pc (settledOf id es)

theorem awaited_some {pc : HandlerPc} (known : s.handlers id = some pc) :
    awaited language s id es = outcome language pc (settledOf id es) := by
  rw [awaited, known]

theorem awaited_none (unknown : s.handlers id = none) :
    awaited language s id es = (arrival id es).bind fun a => expected language a.1 a.2 := by
  rw [awaited, unknown]

/-- One event either answers a request, and it is not answered again, or leaves what it gets. -/
theorem awaited_step (up : s.up = true)
    (along : Along (step language) MakesDirectories s (e :: es)) (own : e.id = id) :
    (awaited language s id (e :: es)).toList =
      ((step language s e).2.map Prod.snd).toList ++
        (awaited language (step language s e).1 id es).toList := by
  cases e with
  | request i upload =>
      obtain rfl : i = id := own
      cases found : s.handlers i with
      | some pc =>
          rw [step_request_known up found, awaited_some found, awaited_some found]
          rfl
      | none =>
          rw [step_request up found, awaited_none found, arrival, if_pos rfl, Option.bind_some]
          cases upload with
          | failed message =>
              rw [receive, awaited_some (at_own _), outcome_ended]
              rfl
          | missing =>
              rw [receive, awaited_some (at_own _), outcome_ended]
              rfl
          | file buffer =>
              have first := first_settled (step_up language s _ up along.1)
                (by rw [step_request up found]; exact at_own _) along.2
              rw [receive, awaited_some (at_own _), outcome_eq_expected buffer first]
              rfl
  | settle i settled =>
      obtain rfl : i = id := own
      cases found : s.handlers i with
      | none =>
          rw [step_settle_unknown up found, awaited_none found, awaited_none found]
          rfl
      | some pc =>
          have handled := handler_handled language fun first : pc = .mkdtemp =>
            along.1 (found.trans (congrArg some first))
          rw [step_settle up found, awaited_some found, settledOf_own, outcome, settle]
          cases turn : handler language settled pc with
          | next pc' =>
              dsimp only
              rw [awaited_some (at_own _)]
              rfl
          | respond response =>
              dsimp only
              rw [awaited_some (at_own _), outcome_ended]
              rfl
          | unhandledRejection => exact absurd turn handled

/-- Along a run that makes its directories a request gets what it should, and no more. -/
theorem responsesTo_eq (up : s.up = true) (along : Along (step language) MakesDirectories s es) :
    responsesTo id (answers (step language) s es) = (awaited language s id es).toList := by
  induction es generalizing s with
  | nil =>
      rw [awaited]
      cases s.handlers id <;> rfl
  | cons e es ih =>
      have later := ih (step_up language s e up along.1) along.2
      by_cases own : e.id = id
      · rw [responsesTo_own own, later, awaited_step up along own]
      · have kept := step_other language up along.1 own
        rw [responsesTo_other own, later, awaited, awaited, kept, settledOf_other own,
          arrival_other own]

/-- While no directory fails to be made the process stays up, and each request gets the
one response that its own calls make it: when enough of them have settled, exactly one. -/
theorem every_request_answered (language : String) (es : List Event)
    (along : Along (step language) MakesDirectories .init es) :
    (run (step language) .init es).up = true ∧
      ∀ id, responsesTo id (answers (step language) .init es) =
          ((arrival id es).bind fun a => expected language a.1 a.2).toList ∧
        ∀ upload settled, arrival id es = some (upload, settled) → 5 ≤ settled.length →
          ∃ response, responsesTo id (answers (step language) .init es) = [response] := by
  refine ⟨run_invariant (step language) (step_up language) rfl along, fun id => ?_⟩
  have responses : responsesTo id (answers (step language) .init es) =
      ((arrival id es).bind fun a => expected language a.1 a.2).toList := responsesTo_eq rfl along
  refine ⟨responses, fun upload settled arrived enough => ?_⟩
  obtain ⟨response, answered⟩ := expected_isSome language upload enough
  exact ⟨response, by rw [responses, arrived, Option.bind_some, answered]; rfl⟩

end Runs

namespace Sample

def done (text : String) : Settled := ⟨0, none, text⟩

def fails (message : String) : Settled := ⟨0, some ⟨message, ""⟩, ""⟩

/-- A scan that is recognised while another one fails and a third is missing. -/
def busy : List Event :=
  [.request 0 (.file [0xff]), .request 1 (.file []), .settle 0 (done ""), .settle 1 (done ""),
    .settle 0 (done ""), .request 2 .missing, .settle 1 (fails "ENOSPC: no space left on device"),
    .settle 0 (done ""), .settle 0 (done " Invoice No. 12\n"), .settle 0 (done "")]

/-- No directory can be made for the second scan. -/
def full : List Event :=
  [.request 0 (.file [0xff]), .request 1 (.file []), .settle 0 (done ""), .settle 0 (done ""),
    .settle 1 (fails "ENOSPC: no space left on device, mkdtemp"), .settle 0 (done ""),
    .settle 0 (done " Invoice No. 12\n"), .settle 0 (done "")]

instance (s : State) (e : Event) : Decidable (MakesDirectories s e) :=
  match e with
  | .settle _ _ => inferInstanceAs (Decidable (_ → _))
  | .request _ _ => inferInstanceAs (Decidable True)

end Sample

theorem every_request_answered_busy :
    ∃ response, responsesTo 0 (answers (step "eng") .init Sample.busy) = [response] :=
  ((every_request_answered "eng" Sample.busy (by decide +kernel)).2 0).2 (.file [0xff])
    (settledOf 0 Sample.busy) rfl (by decide +kernel)

/-- The directory that cannot be made takes the process down, and with it the responses of
both requests; with the directory the first would have been answered. -/
theorem failed_directory_ends_process :
    (run (step "eng") .init Sample.full).up = false ∧
      responsesTo 0 (answers (step "eng") .init Sample.full) = [] ∧
      responsesTo 1 (answers (step "eng") .init Sample.full) = [] ∧
      ((arrival 0 Sample.full).bind fun a => expected "eng" a.1 a.2).isSome = true := by
  decide +kernel

end Ocr
end IdpSaas
