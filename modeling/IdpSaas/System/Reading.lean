import IdpSaas.Documents.Pages
import IdpSaas.Documents.Query
import IdpSaas.System.SignedIn

/-!
The routes that only read, behind the same guards. They answer from the database as it
is; what an upload has been answered with can be read from then on.
-/

namespace IdpSaas
open Owned DocumentsService Machine

/-- The API with its routes that read: which texts the pipe takes for a UUID, how a query
is read that is no UTF-8, and the order in which rows come. -/
structure Site extends Api where
  isUUID : String → Bool
  lossy : List Char → String
  order : RowOrder

/-- A route that reads. What follows the path of a list begins with its question mark. -/
inductive ReadRoute
  | me
  | list (suffix : List Char)
  | document (id : String)
  deriving DecidableEq, Repr

def ReadRoute.path : ReadRoute → String
  | .me => "/auth/me"
  | .list suffix => "/documents" ++ String.ofList suffix
  | .document id => "/documents/" ++ id

/-- What follows `/documents`: a query, or one segment that is written without escapes. -/
def documentsRoute : List Char → Option ReadRoute
  | [] => some (.list [])
  | c :: rest =>
      if c = '?' then some (.list (c :: rest))
      else if c = '/' ∧ !rest.isEmpty ∧
          rest.all fun d => d != '/' && d != '?' && d != '#' && d != '%' then
        some (.document (String.ofList rest))
      else none

namespace Site
variable (site : Site) (m : Moment)

def readRoute (request : Fetch.Request MulterFile) : Option ReadRoute :=
  if request.method = none ∨ request.method = some "GET" then
    if request.url = site.base ++ "/auth/me" then some .me
    else ((site.base ++ "/documents").toList.isPrefixOf? request.url.toList).bind documentsRoute
  else none

def contextJson (user : AuthContext) : JsonValue :=
  .object
    [ ("userId", .string user.userId),
      ("tenantId", .string user.tenantId),
      ("email", .string user.email),
      ("role", .string user.role.name),
      ("authMethod", .string user.authMethod) ]

def count (n : Nat) : JsonValue := .number (.finite n)

def pageJson (page : DocumentPage) : JsonValue :=
  .object
    [ ("items", .array (page.items.map site.documentJson)),
      ("pagination", .object
        [ ("page", count page.page),
          ("pageSize", count page.pageSize),
          ("total", count page.total),
          ("totalPages", count page.totalPages) ]) ]

/-- `forTenant` throws without a tenant. -/
def withTenant (user : AuthContext) (handler : Uuid → Except Exception JsonValue) :
    Except Exception JsonValue :=
  match Api.tenantUuid user.tenantId with
  | none => .error (.guard (.thrown (.internal ⟨none⟩)))
  | some t => handler t

/-- The pipes of a route, and its handler. -/
def handleRead (user : AuthContext) (db : Database) : ReadRoute → Except Exception JsonValue
  | .me => .ok (contextJson user)
  | .list suffix =>
      match ListDocumentsQueryDto.receive site.lossy (suffix.drop 1) with
      | .error messages => .error (.invalid messages)
      | .ok query =>
          withTenant user fun t => .ok (site.pageJson
            (listResponse query (listItems t.scope db query site.order)
              (listTotal t.scope db query)))
  | .document id =>
      if site.isUUID id then
        withTenant user fun t => Api.outcome site.documentJson (findOne t.scope db id)
      else .error (.guard (.thrown (.badRequest "Validation failed (uuid is expected)")))

/-- The routes that read carry no metadata, like that of an upload. -/
def readOutcome (request : Fetch.Request MulterFile) (db : Database) (route : ReadRoute) :
    Except Exception JsonValue :=
  match site.enter m .upload request db with
  | .error e => .error e
  | .ok none => .error (.guard (.thrown (.internal ⟨none⟩)))
  | .ok (some user) => site.handleRead user db route

def read (request : Fetch.Request MulterFile) (db : Database) : Fetch.Response :=
  match site.readRoute request with
  | none => m.read
  | some route =>
      site.respond m (site.apiPrefix ++ route.path) 200 (site.readOutcome m request db route)

/-- The moment of a request, with what is read in it. -/
def reading (request : Fetch.Request MulterFile) (db : Database) : Moment :=
  { m with read := site.read m request db }

def step (b : Backend) : Backend.Event → Backend × Option Fetch.Response
  | .request request m =>
      Backend.step site.toApi b (.request request (site.reading m request b.stores.db))
  | e => Backend.step site.toApi b e

end Site

section Routes
variable {site : Site} {m : Moment} {request : Fetch.Request MulterFile}

/-- A route that reads is none of the others. -/
theorem endpoint_of_readRoute {route : ReadRoute} (routed : site.readRoute request = some route) :
    site.endpoint request = none := by
  rw [Site.readRoute] at routed
  split at routed
  · next get =>
      have other : request.method ≠ some "POST" := by
        cases get with
        | inl none => simp [none]
        | inr get => simp [get]
      rw [Api.endpoint, if_pos other]
  · cases routed

theorem isPrefixOf?_append {α : Type} [BEq α] [LawfulBEq α] (l r : List α) :
    l.isPrefixOf? (l ++ r) = some r := by
  induction l with
  | nil => rfl
  | cons a l ih => simp [List.isPrefixOf?, ih]

/-- What the client gets below `/documents` goes to one of its routes. -/
theorem readRoute_documents (suffix : String) (storage : Fetch.Storage) :
    site.readRoute (Fetch.firstRequest site.web ("/documents" ++ suffix) ⟨none, [], none⟩ storage) =
      documentsRoute suffix.toList := by
  have url : (Fetch.firstRequest site.web ("/documents" ++ suffix)
      (⟨none, [], none⟩ : Fetch.RequestInit MulterFile) storage).url =
        site.base ++ ("/documents" ++ suffix) := rfl
  have other : site.base ++ ("/documents" ++ suffix) ≠ site.base ++ "/auth/me" := by
    rw [ne_eq, String.append_right_inj]
    intro same
    have second := congrArg (fun s : String => s.toList[1]?) same
    simp at second
  have method : (Fetch.firstRequest site.web ("/documents" ++ suffix)
      (⟨none, [], none⟩ : Fetch.RequestInit MulterFile) storage).method = none := rfl
  rw [Site.readRoute, if_pos (Or.inl method), url, if_neg other]
  simp only [String.toList_append, ← List.append_assoc, isPrefixOf?_append, Option.bind_some]

/-- `getDocument` reaches the route of its document, `listDocuments` that of the list. -/
theorem readRoute_document (u : Uuid) (storage : Fetch.Storage) :
    site.readRoute (Fetch.firstRequest site.web ("/documents" ++ ("/" ++ u.val)) ⟨none, [], none⟩
      storage) = some (.document u.val) := by
  have plain : u.val.toList.all (fun d => d != '/' && d != '?' && d != '#' && d != '%') = true := by
    refine List.all_eq_true.mpr fun c hc => ?_
    have allowed := u.digits c hc
    simp only [Bool.and_eq_true, bne_iff_ne]
    refine ⟨⟨⟨?_, ?_⟩, ?_⟩, ?_⟩
    all_goals
      rintro rfl
      exact absurd allowed (by decide)
  have some : (!u.val.toList.isEmpty) = true := by
    cases empty : u.val.toList with
    | nil =>
        have length := u.length
        rw [empty] at length
        cases length
    | cons => rfl
  rw [readRoute_documents, String.toList_append]
  simp only [show "/".toList = ['/'] from rfl, List.singleton_append, documentsRoute]
  rw [if_neg (by decide), if_pos ⟨trivial, some, plain⟩, String.ofList_toList]

theorem readRoute_list (params : ListParams) (storage : Fetch.Storage) :
    ∃ suffix, suffix.drop 1 = params.query ∧
      site.readRoute (Fetch.firstRequest site.web params.path ⟨none, [], none⟩ storage) =
        some (.list suffix) := by
  rw [ListParams.path]
  split
  · next unset => exact ⟨[], unset.symm, readRoute_documents "" storage⟩
  · refine ⟨'?' :: params.query, rfl, ?_⟩
    have query : (String.ofList params.query).toList = params.query := String.toList_ofList
    rw [readRoute_documents, String.toList_append, query]
    rfl

/-- Reading changes nothing, and what is read does not enter what is done. -/
theorem Site.step_stores (b : Backend) (e : Backend.Event) :
    (site.step b e).1 = (Backend.step site.toApi b e).1 := by
  cases e with
  | request request m =>
      simp only [Site.step, Backend.step, Api.serve]
      cases site.endpoint request with
      | none => rfl
      | some e => cases e <;> rfl
  | worker | setUserStatus | setTenantStatus => rfl

theorem Site.run_stores (b : Backend) (es : List Backend.Event) :
    run site.step b es = run (Backend.step site.toApi) b es := by
  induction es generalizing b with
  | nil => rfl
  | cons e es ih => rw [run, run, site.step_stores, ih]

theorem Site.step_read {b : Backend} {route : ReadRoute}
    (routed : site.readRoute request = some route) :
    (site.step b (.request request m)).2 =
      some (site.respond m (site.apiPrefix ++ route.path) 200
        (site.readOutcome m request b.stores.db route)) := by
  simp only [Site.step, Backend.step, Api.serve, endpoint_of_readRoute routed, Site.reading,
    Site.read, routed]

/-- What is no read is answered as it was. -/
theorem Site.step_served {b : Backend} {e : Endpoint} (routed : site.endpoint request = some e) :
    (site.step b (.request request m)).2 = some (site.serve m request b.stores).1 := by
  simp only [Site.step, Backend.step, Api.serve, routed]
  cases e <;> rfl

end Routes

section Documents
variable {env : Env} {t : Uuid} {userId : String} {g : UploadGenerated} {s : Stores}
  {r : Except HttpError Document × Stores}

theorem UploadOutcome.documents (h : UploadOutcome env t userId g s r) :
    r.2.db.documents = s.db.documents ∨
      ∃ f, (∀ d ∈ s.db.documents, d.id ≠ g.documentUuid.val) ∧
        r.2.db.documents = s.db.documents ++ [newDocument env t userId f g] := by
  cases h with
  | refused | written => exact Or.inl rfl
  | created f new | queued f new => exact Or.inr ⟨f, new, rfl⟩

/-- What an upload returns is there, under the id generated for it. -/
theorem UploadOutcome.returned (h : UploadOutcome env t userId g s r) {d : Document}
    (ok : r.1 = .ok d) :
    d ∈ r.2.db.documents ∧ d.id = g.documentUuid.val ∧ d.tenantId = t.val := by
  cases h with
  | refused | written | created => cases ok
  | queued f new =>
      cases ok
      exact ⟨List.mem_append_right _ (List.mem_singleton.mpr rfl), rfl, rfl⟩

end Documents

section Submissions
variable {api : Api} {m : Moment}

theorem Served.documents {s s' : Stores} (served : Served api m s s') :
    s'.db.documents = s.db.documents ∨
      ∃ d : Document, (∀ d' ∈ s.db.documents, d'.id ≠ d.id) ∧
        s'.db.documents = s.db.documents ++ [d] := by
  cases served with
  | same | noted => exact Or.inl rfl
  | registered text dto taken =>
      by_cases free : AuthService.KeysFree api.auth m.registering (RegisterDto.of dto) s.db
      · rw [AuthService.register_free free]
        exact Or.inl rfl
      · obtain ⟨e, refused⟩ := AuthService.register_refused m.now free
        rw [refused]
        exact Or.inl rfl
  | uploaded payload user t file =>
      cases (upload_outcome api.storage t user.userId file m.uploading m.faults s).documents with
      | inl same => exact Or.inl same
      | inr added =>
          obtain ⟨f, new, added⟩ := added
          exact Or.inr ⟨_, new, added⟩

/-- Workers add no documents, and leave in them what uploads have set. -/
theorem Backend.worker_submissions (b : Backend) (t : Uuid) (a : WorkerAction) :
    (Backend.step api b (.worker t a)).1.system.submissions = b.system.submissions := by
  have tr := step_transition api.storage b.system ⟨t, a.action⟩
  change State.submissions (IdpSaas.step api.storage b.system ⟨t, a.action⟩).1 = _
  generalize (IdpSaas.step api.storage b.system ⟨t, a.action⟩).1 = s at tr ⊢
  generalize acted : (⟨t, a.action⟩ : IdpSaas.Event) = e at tr
  cases tr with
  | idle | listed | received | refused | saved | enqueued | delivered | crashed => rfl
  | worked => exact written_submissions _ _ _ _
  | created =>
      have other := congrArg IdpSaas.Event.action acted
      cases a <;> cases other

/-- Documents that are added have new ids, and what uploads have set of the others stays. -/
theorem Backend.step_submissions (api : Api) (b : Backend) (e : Event) :
    (Backend.step api b e).1.system.submissions = b.system.submissions ∨
      ∃ d : Document, (∀ d' ∈ b.stores.db.documents, d'.id ≠ d.id) ∧
        (Backend.step api b e).1.system.submissions = b.system.submissions ++ [d.submission] := by
  cases e with
  | request request m =>
      have served : Served api m b.stores (Backend.step api b (.request request m)).1.stores :=
        serve_served
      cases served.documents with
      | inl same => exact Or.inl (congrArg (List.map Document.submission) same)
      | inr added =>
          obtain ⟨d, new, added⟩ := added
          refine Or.inr ⟨d, new, (congrArg (List.map Document.submission) added).trans ?_⟩
          rw [List.map_append]
          rfl
  | worker t a => exact Or.inl (worker_submissions b t a)
  | setUserStatus | setTenantStatus => exact Or.inl rfl

/-- The ids of documents are unique. -/
def Backend.DocumentIds (b : Backend) : Prop := (b.system.submissions.map Submission.id).Nodup

theorem Backend.DocumentIds.step {b : Backend} (h : b.DocumentIds) (e : Event) :
    (Backend.step api b e).1.DocumentIds := by
  rw [DocumentIds]
  cases step_submissions api b e with
  | inl same => rwa [same]
  | inr added =>
      obtain ⟨d, new, added⟩ := added
      rw [added]
      refine nodup_map_concat h fun r mem => ?_
      obtain ⟨d', mem', rfl⟩ := mem_submissions.mp mem
      exact new d' mem'

theorem Backend.run_documentIds {b : Backend} (h : b.DocumentIds) (es : List Event) :
    (run (Backend.step api) b es).DocumentIds :=
  run_invariant _ (fun _ e h _ => h.step e) h (along_true _ _ _)

theorem Backend.run_submissions (api : Api) (b : Backend) (es : List Event) :
    b.system.submissions <+: (run (Backend.step api) b es).system.submissions := by
  induction es generalizing b with
  | nil => exact List.prefix_refl _
  | cons e es ih =>
      refine List.IsPrefix.trans ?_ (ih _)
      cases step_submissions api b e with
      | inl same => rw [same]
      | inr added =>
          obtain ⟨d, -, added⟩ := added
          rw [added]
          exact List.prefix_append _ _

end Submissions
section Reads
variable {site : Site} {m : Moment} {request : Fetch.Request MulterFile} {s : Stores}

/-- An upload that is accepted was sent by a user of a tenant, and returns its document. -/
theorem uploaded_of_ok {api : Api} (routed : api.endpoint request = some .upload)
    (ok : (api.serve m request s).1.ok = true) :
    ∃ user t file d,
      upload api.storage t user file m.uploading m.faults s = (.ok d, (api.serve m request s).2) ∧
      (api.serve m request s).1 =
        ⟨202, api.reason 202, some ((api.documentJson d).stringify api.format)⟩ := by
  simp only [Api.serve, routed] at ok ⊢
  obtain ⟨v, handled⟩ := (respond_ok_iff Endpoint.upload.success _).mp ok
  simp only [Api.handle] at handled ⊢
  cases entered : api.enter m .upload request s.db with
  | error e =>
      rw [entered] at handled
      cases handled
  | ok user =>
      simp only [entered, Api.upload] at handled ⊢
      split at handled
      · cases handled
      · next u t _ =>
          split at handled
          · cases handled
          · next passed =>
              obtain ⟨d, uploaded, -⟩ := outcome_ok handled
              refine ⟨u.userId, t, _, d, Prod.ext uploaded rfl, ?_⟩
              simp only [uploaded, Api.outcome]
              rfl

/-- An upload past its checks is accepted, when none of its calls fails. -/
theorem upload_accepted {api : Api} {f : MulterFile} {user : AuthContext} {t : Uuid}
    (routed : api.endpoint request = some .upload) (sent : request.body = some (.formData f))
    (entered : api.enter m .upload request s.db = .ok (some user)) (own : user.tenantId = t.val)
    (passed : api.parseFile f = none) (checked : checkFile (some f) = .ok f)
    (undisturbed : m.faults = ⟨none, none, none⟩)
    (new : ∀ d ∈ s.db.documents, d.id ≠ m.uploading.documentUuid.val) :
    (api.serve m request s).1.ok = true := by
  have uuid : Api.tenantUuid user.tenantId = some t := by
    rw [own, Api.tenantUuid, dif_pos t.isUuid]
  have creates : Creates m.uploading ⟨none, none, none⟩ s.db := ⟨rfl, new⟩
  simp only [Api.serve, routed]
  refine (respond_ok_iff Endpoint.upload.success _).mpr ?_
  simp only [Api.handle, entered, Api.upload, Option.bind_some, uuid, Option.map_some, sent, passed,
    undisturbed, upload, checked, saveOr]
  rw [createOr_ok creates]
  exact ⟨_, rfl⟩

/-- What the route of a document answers to a user. -/
def Site.answers (site : Site) (m : Moment) (id : String) (outcome : Except Exception JsonValue) :
    Fetch.Response :=
  site.respond m (site.apiPrefix ++ (ReadRoute.document id).path) 200 outcome

/-- Users of the tenant read the document that the upload has made, whatever has become of
it; for the others it is not there. -/
structure Site.Readable (site : Site) (b : Backend) (r : Submission) : Prop where
  own : ∀ (request : Fetch.Request MulterFile) (m : Moment) (user : AuthContext),
    site.readRoute request = some (.document r.id) →
    site.enter m .upload request b.stores.db = .ok (some user) → user.tenantId = r.tenantId →
    ∃ d ∈ b.stores.db.documents, d.submission = r ∧
      (site.step b (.request request m)).2 =
        some (site.answers m r.id (.ok (site.documentJson d)))
  others : ∀ (request : Fetch.Request MulterFile) (m : Moment) (user : AuthContext),
    site.readRoute request = some (.document r.id) →
    site.enter m .upload request b.stores.db = .ok (some user) → user.tenantId ≠ r.tenantId →
    isUuid user.tenantId = true →
    (site.step b (.request request m)).2 =
      some (site.answers m r.id (.error (.guard (.thrown (.notFound "Document not found")))))

/-- What a user is answered for an id is looked up among the documents of its tenant. -/
theorem Site.answer_document {b : Backend} {id : String} {user : AuthContext} {t : Uuid}
    (routed : site.readRoute request = some (.document id)) (valid : site.isUUID id = true)
    (entered : site.enter m .upload request b.stores.db = .ok (some user))
    (own : user.tenantId = t.val) :
    (site.step b (.request request m)).2 =
      some (site.answers m id
        (match b.stores.db.documents.find? (selects t.val id) with
          | some d => .ok (site.documentJson d)
          | none => .error (.guard (.thrown (.notFound "Document not found"))))) := by
  have uuid : Api.tenantUuid user.tenantId = some t := by
    rw [own, Api.tenantUuid, dif_pos t.isUuid]
  rw [Site.step_read routed, Site.answers, Site.readOutcome, entered]
  simp only [Site.handleRead, valid, if_true, Site.withTenant, uuid, findOne, findUnique_eq]
  change some (site.respond _ _ _ (Api.outcome _
    (match b.stores.db.documents.find? (selects t.val id) with
      | some d => _
      | none => _))) = _
  cases b.stores.db.documents.find? (selects t.val id) <;> rfl

theorem Site.readable_of_mem {b : Backend} (ids : b.DocumentIds) {r : Submission} {t : Uuid}
    (mem : r ∈ b.system.submissions) (valid : site.isUUID r.id = true)
    (own : r.tenantId = t.val) : site.Readable b r := by
  obtain ⟨d, hd, rfl⟩ := mem_submissions.mp mem
  have unique : ∀ d' ∈ b.stores.db.documents, d'.id = d.id → d' = d := by
    rw [Backend.DocumentIds, State.submissions, List.map_map] at ids
    exact fun d' hd' same => List.inj_on_of_nodup_map ids hd' hd same
  constructor
  · intro request m user routed entered same
    have here : b.stores.db.documents.find? (selects t.val d.submission.id) = some d :=
      find?_of_unique hd (selects_iff.mpr ⟨own, rfl⟩) fun d' hd' found =>
        unique d' hd' (selects_iff.mp found).2
    refine ⟨d, hd, rfl, ?_⟩
    rw [Site.answer_document routed valid entered (same.trans own), here]
  · intro request m user routed entered other isUuid
    let t' : Uuid := ⟨user.tenantId, isUuid⟩
    have absent : b.stores.db.documents.find? (selects t'.val d.submission.id) = none := by
      rw [List.find?_eq_none]
      intro d' hd' found
      obtain ⟨foreign, same⟩ := selects_iff.mp found
      rw [unique d' hd' same] at foreign
      exact other foreign.symm
    have answered := Site.answer_document (t := t') routed valid entered rfl
    rw [answered, absent]

/-- What an upload is answered with can be read from then on by its tenant, and by no other,
with the request that the client makes of its id, whatever is requested and processed
meanwhile. -/
theorem accepted_upload_readable (site : Site) (tenants : List Tenant) (users : List User)
    (apiKeys : List ApiKey) (before : List Backend.Event) (request : Fetch.Request MulterFile)
    (m : Moment) (uuid : site.isUUID m.uploading.documentUuid.val = true)
    (routed : site.endpoint request = some .upload) (response : Fetch.Response)
    (answered : (site.step (run site.step (.init tenants users apiKeys) before)
      (.request request m)).2 = some response) (accepted : response.ok = true) :
    ∃ d : Document, d.id = m.uploading.documentUuid.val ∧
      response =
        ⟨202, site.reason 202, some ((site.documentJson d).stringify site.format)⟩ ∧
      (∀ storage, site.readRoute (Fetch.firstRequest site.web ("/documents" ++ ("/" ++ d.id))
        ⟨none, [], none⟩ storage) = some (.document d.id)) ∧
      ∀ between, site.Readable (run site.step (.init tenants users apiKeys)
        (before ++ .request request m :: between)) d.submission := by
  let b := run site.step (.init tenants users apiKeys) before
  let m' := site.reading m request b.stores.db
  have served : response = (site.serve m' request b.stores).1 := (Option.some.inj answered).symm
  obtain ⟨user, t, file, d, uploaded, body⟩ := uploaded_of_ok routed (served ▸ accepted)
  have outcome := upload_outcome site.storage t user file m'.uploading m'.faults b.stores
  rw [uploaded] at outcome
  obtain ⟨mem, id, own⟩ := outcome.returned rfl
  refine ⟨d, id, served.trans body, fun storage => ?_, fun between => ?_⟩
  · rw [id]
    exact readRoute_document _ storage
  let after := (site.step b (.request request m)).1
  have there : d.submission ∈ after.system.submissions := List.mem_map_of_mem mem
  have reached : run site.step (.init tenants users apiKeys)
      (before ++ .request request m :: between) = run site.step after between :=
    run_append _ _ _ _
  have start : (Backend.init tenants users apiKeys).DocumentIds := List.nodup_nil
  have ids : (run site.step (.init tenants users apiKeys)
      (before ++ .request request m :: between)).DocumentIds := by
    rw [site.run_stores]
    exact Backend.run_documentIds start _
  refine Site.readable_of_mem (t := t) ids ?_ ?_ own
  · rw [reached, site.run_stores]
    exact (Backend.run_submissions site.toApi after between).subset there
  · rw [show d.submission.id = d.id from rfl, id]
    exact uuid

end Reads
namespace ListParams
variable (params : ListParams)

/-- The documents of the tenant in the status that is asked for, if one is. -/
def asked (t : Uuid) (d : Document) : Bool :=
  d.tenantId == t.val && params.status.all fun s => s == "" || d.status.name == s

/-- The page that is asked for, of 20 documents unless another number is. -/
def shown (order : RowOrder) (t : Uuid) (documents : List Document) : DocumentPage :=
  let rows := documents.filter (params.asked t)
  let page := (params.page.filter (· ≠ 0)).getD 1
  let size := (params.pageSize.filter (· ≠ 0)).getD 20
  { items := ((order.arrange rows).drop ((page - 1) * size)).take size
    page := page
    pageSize := size
    total := rows.length
    totalPages := (rows.length + size - 1) / size }

variable {params}

theorem name_inj {a b : DocumentStatus} (same : a.name = b.name) : a = b := by
  cases a <;> cases b <;> first | rfl | exact absurd same (by decide)

theorem Reaches.filter {query : ListDocumentsQueryDto} (reaches : params.Reaches query)
    (t : Uuid) (d : Document) :
    ((listWhere query).withTenantId t.val).holds d = params.asked t d := by
  have status := reaches.status
  rw [holds_listWhere, asked]
  cases asked : query.status with
  | none =>
      rw [asked, Option.map_none, eq_comm, Option.filter_eq_none_iff] at status
      cases given : params.status with
      | none => rfl
      | some s =>
          have empty : s = "" := by simpa using status s given
          simp [empty]
  | some a =>
      rw [asked, Option.map_some, eq_comm, Option.filter_eq_some_iff, decide_eq_true_eq] at status
      have same : (d.status == a) = (d.status.name == a.name) := by
        rw [Bool.eq_iff_iff, beq_iff_eq, beq_iff_eq]
        exact ⟨congrArg _, name_inj⟩
      simp only [status.1, Option.all_some, same, beq_eq_false_iff_ne.mpr status.2, Bool.false_or]

theorem Reaches.response {query : ListDocumentsQueryDto} (reaches : params.Reaches query)
    (order : RowOrder) (t : Uuid) (db : Database) :
    listResponse query (listItems t.scope db query order) (listTotal t.scope db query) =
      params.shown order t db.documents := by
  have rows : db.documents.filter ((listWhere query).withTenantId t.val).holds =
      db.documents.filter (params.asked t) := List.filter_congr fun d _ => reaches.filter t d
  rw [listResponse, listItems_eq, listTotal_eq, show t.scope.tenantId = t.val from rfl, rows,
    reaches.page, reaches.pageSize]
  rfl

end ListParams

/-- A list that the client asks for is answered with the page it asks for, or with messages
where there is no such page or status. -/
theorem list_request_answered (site : Site) (params : ListParams)
    (small : ∀ n ∈ params.page, n < 2 ^ 53) (small' : ∀ n ∈ params.pageSize, n < 2 ^ 53)
    (storage : Fetch.Storage) (b : Backend) (m : Moment) (user : AuthContext) (t : Uuid)
    (entered : site.enter m .upload
      (Fetch.firstRequest site.web params.path ⟨none, [], none⟩ storage) b.stores.db =
        .ok (some user))
    (own : user.tenantId = t.val) :
    ∃ url outcome, (site.step b (.request
        (Fetch.firstRequest site.web params.path ⟨none, [], none⟩ storage) m)).2 =
          some (site.respond m url 200 outcome) ∧
      (params.Valid →
        outcome = .ok (site.pageJson (params.shown site.order t b.stores.db.documents))) ∧
      (¬params.Valid → ∃ messages, messages ≠ [] ∧ outcome = .error (.invalid messages)) := by
  obtain ⟨suffix, query, routed⟩ := readRoute_list params storage
  have uuid : Api.tenantUuid user.tenantId = some t := by
    rw [own, Api.tenantUuid, dif_pos t.isUuid]
  obtain ⟨valid, reaches⟩ := ListParams.list_query_reaches site.lossy params small small'
  refine ⟨_, _, Site.step_read routed, ?_, ?_⟩
  · intro asked
    obtain ⟨dto, received⟩ := valid.mp asked
    simp only [Site.readOutcome, entered, Site.handleRead, query, received, Site.withTenant, uuid,
      (reaches dto received).response]
  · intro refused
    cases received : ListDocumentsQueryDto.receive site.lossy params.query with
    | ok dto => exact absurd (valid.mpr ⟨dto, received⟩) refused
    | error messages =>
        refine ⟨messages, ListDocumentsQueryDto.messages_ne_nil received, ?_⟩
        simp only [Site.readOutcome, entered, Site.handleRead, query, received]

namespace Site.Sample
open Api.Sample IdpSaas.Sample Backend.Sample

def site : Site :=
  { Api.Sample.api with
    isUUID := isUuid
    lossy := fun _ => ""
    order := .showing (l := []) (s := []) ⟨List.Perm.refl _, List.Pairwise.nil⟩ }

/-- The storage of a page with the token of the registration. -/
def storage : Fetch.Storage := ⟨some token, none, none⟩

/-- The stores that the registration has left. -/
def registered : Stores := (Api.Sample.api.serve dawn registers (Backend.init [] [] []).stores).2

theorem keyed_registered : registered.db.Keyed := by
  have served : Served Api.Sample.api dawn (Backend.init [] [] []).stores registered := serve_served
  exact (Backend.served_accounts served).keyed ⟨List.nodup_nil, List.nodup_nil, List.nodup_nil, List.nodup_nil⟩

/-- The page of the user who has registered gets past the guards. -/
theorem entered (path : String) (init : Fetch.RequestInit MulterFile) (m : Moment)
    (now : m.now = 0) (free : m.limited = false) :
    ∃ user, user.tenantId = acme.val ∧
      Api.Sample.api.enter m .upload (Fetch.firstRequest Api.Sample.api.web path init storage)
        registered.db = .ok (some user) := by
  obtain ⟨session, -, -, served⟩ := registers_session
  have active := registers_ok.2
  have keyed := keyed_registered
  rw [registered, served] at keyed ⊢
  rw [served] at active
  have valid := keyed.validates auth (List.mem_singleton.mpr rfl) active
  have verified : auth.jwt.verify auth.accessSecret (m.now / 1000) token =
      some ⟨⟨"user", acme.val, .owner⟩, 0, 900⟩ := by
    rw [now]
    exact (auth.jwt.verify_sign _ _ _ _).trans (if_pos ⟨rfl, by decide⟩)
  have header := Fetch.firstRequest_bearer Api.Sample.api.web path init
    (show storage.access = some token from rfl) (Backend.Sample.bears.nonempty _ _)
  exact ⟨_, rfl, enter_bearer header (Backend.Sample.bears.found _ _) verified valid free⟩

def backend : Backend := ⟨registered, .empty⟩

/-- The dashboard asks for 50 documents. -/
def fifty : ListParams := ⟨none, some 50, none⟩

/-- The upload of the morning is accepted. -/
theorem upload_ok :
    (Api.Sample.api.serve (moment file2 doc2)
      (Backend.Sample.request (.uploadDocument scan) storage) registered).1.ok = true := by
  obtain ⟨user, own, passed⟩ := entered "/documents/upload"
    ((ApiCall.uploadDocument scan).init Api.Sample.api) (moment file2 doc2) rfl rfl
  have empty : registered.db.documents = [] := by
    obtain ⟨session, -, -, served⟩ := registers_session
    rw [registered, served]
  refine upload_accepted (f := scan) (endpoint_of_url rfl rfl) rfl passed own ?_ rfl rfl ?_
  · decide +kernel
  · rw [empty]
    exact fun _ h => absurd h List.not_mem_nil

end Site.Sample

open Backend.Sample IdpSaas.Sample in
theorem accepted_upload_readable_morning :
    ∃ d : Document, d.id = doc2.val ∧
      Site.Sample.site.Readable (run Site.Sample.site.step (.init [] [] [])
        ([.request registers dawn] ++
          [.request (request (.uploadDocument scan) Site.Sample.storage) (moment file2 doc2)]))
        d.submission := by
  let upload := request (.uploadDocument scan) Site.Sample.storage
  have routed : Site.Sample.site.endpoint upload = some .upload := endpoint_of_url rfl rfl
  have stores : (run Site.Sample.site.step (.init [] [] []) [.request registers dawn]).stores =
      Site.Sample.registered := by
    rw [Site.run_stores]
    simp only [run, Backend.step]
    rfl
  have accepted : (Site.Sample.site.serve (moment file2 doc2) upload
      (run Site.Sample.site.step (.init [] [] []) [.request registers dawn]).stores).1.ok = true := by
    rw [stores]
    exact Site.Sample.upload_ok
  obtain ⟨d, id, -, -, readable⟩ := accepted_upload_readable Site.Sample.site [] [] []
    [.request registers dawn] upload (moment file2 doc2) doc2.isUuid routed _
    (Site.step_served routed) accepted
  exact ⟨d, id, readable []⟩

theorem list_request_answered_dashboard :
    ∃ url, (Site.Sample.site.step Site.Sample.backend (.request
      (Fetch.firstRequest Site.Sample.site.web Site.Sample.fifty.path ⟨none, [], none⟩
        Site.Sample.storage) Backend.Sample.dawn)).2 =
          some (Site.Sample.site.respond Backend.Sample.dawn url 200 (.ok (Site.Sample.site.pageJson
            (Site.Sample.fifty.shown Site.Sample.site.order IdpSaas.Sample.acme
              Site.Sample.backend.stores.db.documents)))) := by
  obtain ⟨user, own, entered⟩ := Site.Sample.entered Site.Sample.fifty.path ⟨none, [], none⟩
    Backend.Sample.dawn rfl rfl
  have valid : Site.Sample.fifty.Valid :=
    ⟨fun n h => by cases h; decide, fun _ h => by cases h⟩
  obtain ⟨url, outcome, answered, page, -⟩ := list_request_answered Site.Sample.site
    Site.Sample.fifty (fun _ h => by cases h) (fun n h => by cases h; decide) Site.Sample.storage
    Site.Sample.backend Backend.Sample.dawn user IdpSaas.Sample.acme entered own
  rw [page valid] at answered
  exact ⟨url, answered⟩

end IdpSaas
