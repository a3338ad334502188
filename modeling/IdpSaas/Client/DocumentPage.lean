import IdpSaas.Lib.Polling
import IdpSaas.Schema

/-!
The page of one document. It fetches the document when it opens, and every two seconds
while the document shown is neither COMPLETED nor FAILED; a 401 signs out.
-/

namespace IdpSaas
namespace DocumentPage
open Polling

/-- What the page reads of a document. -/
structure Doc where
  id : String
  originalName : String
  mimeType : String
  sizeBytes : Nat
  status : DocumentStatus
  errorMessage : Option String
  extractedData : Option Json
  createdAt : Time
  processingStartedAt : Option Time
  processedAt : Option Time
  deriving DecidableEq, Repr

def Doc.of (d : Document) : Doc where
  id := d.id
  originalName := d.originalName
  mimeType := d.mimeType
  sizeBytes := d.sizeBytes
  status := d.status
  errorMessage := d.errorMessage
  extractedData := d.extractedData
  createdAt := d.createdAt
  processingStartedAt := d.processingStartedAt
  processedAt := d.processedAt

/-- What `apiFetch` throws; a message that is one text counts as a list of one. -/
structure ApiError where
  statusCode : Option Nat
  message : List String
  deriving DecidableEq, Repr

/-- The effects of `doc` set the interval unless it is in a terminal state, and the `catch` of
`fetchDoc` goes to the login page on a 401. -/
def policy : Policy Doc ApiError where
  polls doc := !(doc.status == .completed || doc.status == .failed)
  redirects err := err.statusCode == some 401

/-- The first effect: without an access token the page goes to the login page. -/
def opened (accessToken : Bool) (source : Except ApiError Doc) : Poller Doc ApiError :=
  if accessToken then Poller.opened source
  else { Poller.opened source with requests := [], sent := 0, redirected := true }

inductive Section
  | extractedData (data : Json)
  | processingFailed (text : String)
  | inProgress
  deriving DecidableEq, Repr

inductive View
  | error (text : String)
  | loading
  | document (doc : Doc) (section_ : Section)
  deriving DecidableEq, Repr

/-- The texts of `false`, 0 and the empty string. -/
def falsy (data : Json) : Bool := ["false", "0", "\"\""].contains data.val

def sectionOf (doc : Doc) : Section :=
  match doc.status, doc.extractedData.filter fun data => !falsy data with
  | .completed, some data => .extractedData data
  | .failed, _ => .processingFailed (doc.errorMessage.getD "No error details available.")
  | _, _ => .inProgress

def errorText (err : ApiError) : String := ", ".intercalate err.message

/-- An error hides the document, unless its text is empty. -/
def render (s : Poller Doc ApiError) : View :=
  match (s.error.map errorText).filter (· ≠ ""), s.shown with
  | some text, _ => .error text
  | none, none => .loading
  | none, some doc => .document doc (sectionOf doc)

theorem render_of_error_eq_none {s : Poller Doc ApiError} (error : s.error = none) :
    render s = s.shown.elim .loading fun doc => .document doc (sectionOf doc) := by
  rw [render, error]
  cases s.shown <;> rfl

theorem polls_eq_false {doc : Doc} :
    policy.polls doc = false ↔ doc.status = .completed ∨ doc.status = .failed := by
  simp only [policy, Bool.not_eq_false', Bool.or_eq_true, beq_iff_eq]

theorem opened_sound (accessToken : Bool) (source : Except ApiError Doc) :
    (opened accessToken source).Sound policy := by
  cases accessToken with
  | true => exact Poller.Sound.opened policy source
  | false =>
      refine ⟨fun _ _ => rfl, fun _ _ => Or.inl rfl, fun a known _ => ?_⟩
      cases known with
      | inl shown => cases shown
      | inr there => cases there

end DocumentPage
end IdpSaas
