import IdpSaas.Client.DocumentPage
import IdpSaas.System.Terminal

/-!
A document page open in a browser while the system runs. Its requests read the row at
some moment between being sent and being answered, and their answers may overtake each
other. While the deliveries of the document keep apart, a page that has come to rest shows
its outcome, and it always comes to rest once the document has one.
-/

namespace IdpSaas
open Owned DocumentsService Machine Polling
open DocumentPage (Doc ApiError View errorText policy render sectionOf)

/-- What the route of a document answers, past the guards. -/
def documentRoute (t : Uuid) (id : String) (db : Database) : Except ApiError Doc :=
  match DocumentsService.findOne t.scope db id with
  | .ok d => .ok (Doc.of d)
  | .error _ => .error ⟨some 404, ["Document not found"]⟩

/-- The system, and the page of one document of the tenant. -/
structure Watch where
  system : State
  page : Poller Doc ApiError

namespace Watch

inductive Event
  | system (e : IdpSaas.Event)
  | page (e : Polling.Event Doc ApiError)

section Machine
variable (env : Env) (t : Uuid) (id : String)

def opened (system : State) (accessToken : Bool) : Watch :=
  ⟨system, DocumentPage.opened accessToken (documentRoute t id system.db)⟩

/-- What the server would answer changes with the database, and with nothing else. -/
def step (w : Watch) : Event → Watch × Option ApiError
  | .system e =>
      let system := (IdpSaas.step env w.system e).1
      (⟨system, (w.page.step policy (.source (documentRoute t id system.db))).1⟩, none)
  | .page (.source _) => (w, none)
  | .page e => (⟨w.system, (w.page.step policy e).1⟩, (w.page.step policy e).2)

end Machine

def KeepsApart (id : String) (w : Watch) : Event → Prop
  | .system e => IdpSaas.KeepsApart id w.system e
  | .page _ => True

/-- An event of the page alone, by which it goes on. -/
def Event.goesOn : Event → Prop
  | .system _ => False
  | .page e => e.goesOn

/-- What a page shows that has nothing left to do: an error, nothing, or the tenant's row as it
is now, which has an outcome. -/
inductive Rests (t : Uuid) (id : String) (w : Watch) : View → Prop
  | error (err : ApiError) (there : w.page.error = some err) : Rests t id w (.error (errorText err))
  | textless (err : ApiError) (there : w.page.error = some err) (empty : errorText err = "") :
      Rests t id w .loading
  | redirected (away : w.page.redirected = true) : Rests t id w .loading
  | document (d : Document) (row : d ∈ w.system.db.documents) (own : d.tenantId = t.val)
      (same : d.id = id) (finished : d.status = .completed ∨ d.status = .failed) :
      Rests t id w (.document (Doc.of d) (sectionOf (Doc.of d)))

end Watch

section Rows
variable {env : Env} {s s' : State} {e : Event} {id : String}

/-- While it is settled, a finished row changes in nothing but its count of retries. -/
theorem Settled.row_after {d d' : Document} (settled : Settled d.id s) (co : Coherent s)
    (tr : Transition env s e s') (hd : d ∈ s.db.documents) (terminal : d.status.terminal = true)
    (hd' : d' ∈ s'.db.documents) (same : d'.id = d.id) :
    d' = d ∨ d' = DocumentWrite.increment.apply d := by
  have unchanged : d' ∈ s.db.documents → d' = d := fun old => co.row_unique old hd same
  cases tr with
  | idle | listed | received | refused | saved | enqueued | delivered | crashed =>
      exact Or.inl (unchanged hd')
  | created t uuid now c stored mem own pc free =>
      cases List.mem_append.mp hd' with
      | inl old => exact Or.inl (unchanged old)
      | inr new =>
          rw [List.mem_singleton.mp new] at same
          exact absurd same.symm (free d hd)
  | worked t fate dl wrote exchange pc mem own move =>
      cases wrote with
      | none => exact Or.inl (unchanged hd')
      | some w =>
          obtain ⟨old, hold, kept, change⟩ := co.mem_written mem hd'
          obtain rfl := co.row_unique hold hd (kept.symm.trans same)
          cases change with
          | inr other => exact Or.inl other.2
          | inl own =>
              have quiet := (Move.settled move (settled old hold rfl terminal dl mem own.1.symm)).2
              cases quiet with
              | inl none => cases none
              | inr some =>
                  cases some
                  exact Or.inr own.2

theorem documentRoute_eq_ok {t : Uuid} {db : Database} {doc : Doc} :
    documentRoute t id db = .ok doc ↔
      ∃ d, db.documents.find? (selects t.val id) = some d ∧ Doc.of d = doc := by
  rw [documentRoute, findOne, findUnique_eq, show t.scope.tenantId = t.val from rfl]
  cases db.documents.find? (selects t.val id) with
  | none =>
      constructor
      · intro h
        cases h
      · intro ⟨_, h, _⟩
        cases h
  | some d =>
      constructor
      · intro h
        exact ⟨d, rfl, Except.ok.inj h⟩
      · intro ⟨_, h, same⟩
        cases h
        rw [← same]

/-- The route's answer is settled once the document has an outcome. -/
theorem Settled.route_kept (settled : Settled id s) (co : Coherent s) (tr : Transition env s e s')
    {t : Uuid} {doc : Doc} (found : documentRoute t id s.db = .ok doc)
    (final : policy.polls doc = false) : documentRoute t id s'.db = .ok doc := by
  obtain ⟨d, row, rfl⟩ := documentRoute_eq_ok.mp found
  have hd := List.mem_of_find?_eq_some row
  obtain ⟨own, rfl⟩ := selects_iff.mp (List.find?_some row)
  have terminal : d.status.terminal = true := by
    cases DocumentPage.polls_eq_false.mp final with
    | inl completed => rw [show d.status = .completed from completed]; rfl
    | inr failed => rw [show d.status = .failed from failed]; rfl
  obtain ⟨d', hd', same⟩ := tr.row_kept ⟨d, hd, rfl⟩
  have co' := co.preserved tr
  have after := settled.row_after co tr hd terminal hd' same
  refine documentRoute_eq_ok.mpr ⟨d', find?_of_unique hd' ?_ fun x hx selected => ?_, ?_⟩
  · refine selects_iff.mpr ⟨?_, same⟩
    cases after with
    | inl kept => rw [kept, own]
    | inr counted => rw [counted, DocumentWrite.apply_tenantId, own]
  · exact co'.row_unique hx hd' ((selects_iff.mp selected).2.trans same.symm)
  · cases after with
    | inl kept => rw [kept]
    | inr counted => rw [counted]; rfl

end Rows

namespace Watch
variable {env : Env} {t : Uuid} {id : String} {w : Watch}

/-- The page's source is the route's answer, and both sides keep their invariants. -/
structure Sound (t : Uuid) (id : String) (w : Watch) : Prop where
  coherent : Coherent w.system
  settled : Settled id w.system
  source : w.page.source = documentRoute t id w.system.db
  page : w.page.Sound policy

theorem Sound.opened {system : State} (coherent : Coherent system) (settled : Settled id system)
    (accessToken : Bool) : Sound t id (opened t id system accessToken) where
  coherent := coherent
  settled := settled
  source := by cases accessToken <;> rfl
  page := DocumentPage.opened_sound accessToken _

/-- An event of the page alone leaves what the server would answer. -/
theorem page_source (s : Poller Doc ApiError) {e : Polling.Event Doc ApiError}
    (own : ∀ value, e ≠ .source value) : (s.step policy e).1.source = s.source := by
  have change := s.step_change policy e
  revert change
  generalize (s.step policy e).1 = s'
  intro change
  cases change with
  | moved value => exact absurd rfl (own value)
  | idle | served | failed | took | dropped | sentAway | refused | asked | ran | closed => rfl

theorem settles_of_own {s : Poller Doc ApiError} {e : Polling.Event Doc ApiError}
    (own : ∀ value, e ≠ .source value) : s.Settles policy e := by
  cases e with
  | source value => exact absurd rfl (own value)
  | serve | fail | arrive | tick | effects | close => trivial

theorem Sound.preserved (env : Env) (sound : Sound t id w) (e : Event) (apart : w.KeepsApart id e) :
    Sound t id (w.step env t id e).1 := by
  cases e with
  | system e =>
      have tr := step_transition env w.system e
      refine ⟨sound.coherent.preserved tr, sound.settled.preserved sound.coherent apart tr, rfl, ?_⟩
      refine sound.page.preserved (w.page.step_change policy _) fun doc was final => ?_
      exact sound.settled.route_kept sound.coherent tr (sound.source.symm.trans was) final
  | page e =>
      have moves : (∀ value, e ≠ .source value) →
          Sound t id ⟨w.system, (w.page.step policy e).1⟩ := fun own =>
        ⟨sound.coherent, sound.settled, (page_source w.page own).trans sound.source,
          sound.page.preserved (w.page.step_change policy e) (settles_of_own own)⟩
      cases e with
      | source value => exact sound
      | serve | fail | arrive | tick | effects | close => exact moves fun _ h => by cases h

theorem Sound.run (sound : Sound t id w) {es : List Event}
    (apart : Along (step env t id) (KeepsApart id) w es) :
    Sound t id (Machine.run (step env t id) w es) :=
  run_invariant (step env t id) (fun _ e sound apart => sound.preserved env e apart) sound apart

/-- Events of the page alone act on the page alone. -/
theorem run_page (env : Env) (t : Uuid) (id : String) (system : State)
    (page : Poller Doc ApiError) {es : List (Polling.Event Doc ApiError)}
    (own : ∀ e ∈ es, e.goesOn) :
    Machine.run (step env t id) ⟨system, page⟩ (es.map .page) =
      ⟨system, Machine.run (Poller.step policy) page es⟩ := by
  induction es generalizing page with
  | nil => rfl
  | cons e es ih =>
      have one : (step env t id ⟨system, page⟩ (.page e)).1 =
          ⟨system, (page.step policy e).1⟩ := by
        cases e with
        | source value => exact (own _ List.mem_cons_self).elim
        | serve | fail | arrive | tick | effects | close => rfl
      rw [List.map_cons, Machine.run, Machine.run, one]
      exact ih _ fun e mem => own e (List.mem_cons_of_mem _ mem)

/-- A page that is done stays as it is, and sends nothing. -/
theorem Sound.done (sound : Sound t id w) {doc : Doc} (done : w.page.Done policy doc)
    {es : List Event} (apart : Along (step env t id) (KeepsApart id) w es) :
    (Machine.run (step env t id) w es).page.shown = some doc ∧
      (Machine.run (step env t id) w es).page.error = none ∧
      (Machine.run (step env t id) w es).page.sent = w.page.sent := by
  have kept := run_invariant (step env t id)
    (fun w' e (h : Sound t id w' ∧ w'.page.Done policy doc ∧ w'.page.sent = w.page.sent) apart => by
      obtain ⟨sound, done, sent⟩ := h
      refine ⟨sound.preserved env e apart, ?_⟩
      have next : ∀ e, w'.page.Settles policy e →
          (w'.page.step policy e).1.Done policy doc ∧
            (w'.page.step policy e).1.sent = w.page.sent := fun e settles => by
        obtain ⟨next, same⟩ := done.preserved (w'.page.step_change policy e) settles
        exact ⟨next, same.trans sent⟩
      cases e with
      | system e =>
          refine next _ fun doc was final => ?_
          exact sound.settled.route_kept sound.coherent (step_transition env w'.system e)
            (sound.source.symm.trans was) final
      | page e =>
          cases e with
          | source value => exact ⟨done, sent⟩
          | serve | fail | arrive | tick | effects | close => exact next _ trivial)
    ⟨sound, done, rfl⟩ apart
  exact ⟨kept.2.1.shown, kept.2.1.error, kept.2.2⟩

end Watch

section Page
variable (env : Env) (tenants : List Tenant) (users : List User) (apiKeys : List ApiKey)
  (before : List Event) (t : Uuid) (id : String) (accessToken : Bool) (es : List Watch.Event)

/-- The page that is opened after a run, and then watched, is sound. -/
theorem watched_sound
    (apart : Along (step env) (KeepsApart id) (State.init tenants users apiKeys) before)
    (watched : Along (Watch.step env t id) (Watch.KeepsApart id)
      (.opened t id (run (step env) (State.init tenants users apiKeys) before) accessToken) es) :
    Watch.Sound t id (run (Watch.step env t id)
      (.opened t id (run (step env) (State.init tenants users apiKeys) before) accessToken) es) := by
  obtain ⟨coherent, settled⟩ := Settled.run (Coherent.init tenants users apiKeys)
    (Settled.init tenants users apiKeys id) apart
  exact (Watch.Sound.opened coherent settled accessToken).run watched

/-- A page that has come to rest shows the outcome of its document as it is now, unless it
shows an error or has been sent to the login page. -/
theorem page_rests_on_outcome
    (apart : Along (step env) (KeepsApart id) (State.init tenants users apiKeys) before)
    (watched : Along (Watch.step env t id) (Watch.KeepsApart id)
      (.opened t id (run (step env) (State.init tenants users apiKeys) before) accessToken) es) :
    let w := run (Watch.step env t id)
      (.opened t id (run (step env) (State.init tenants users apiKeys) before) accessToken) es
    w.page.Quiet → w.Rests t id (render w.page) := by
  intro w quiet
  have sound := watched_sound env tenants users apiKeys before t id accessToken es apart watched
  rw [render]
  cases error : (w.page.error.map errorText).filter (· ≠ "") with
  | some text =>
      obtain ⟨err, there, rfl⟩ := Option.map_eq_some_iff.mp (Option.filter_eq_some_iff.mp error).1
      exact .error err there
  | none =>
      cases sound.page.quiet quiet with
      | inl nothing =>
          obtain ⟨cause, none⟩ := nothing
          rw [none]
          cases cause with
          | inl away => exact .redirected away
          | inr failed =>
              obtain ⟨err, there⟩ := Option.isSome_iff_exists.mp failed
              have texts : ∀ err, w.page.error = some err → errorText err = "" := by
                simpa using error
              exact .textless err there (texts err there)
      | inr rested =>
          obtain ⟨doc, shown, final, source⟩ := rested
          rw [shown]
          obtain ⟨d, row, rfl⟩ := documentRoute_eq_ok.mp (sound.source.symm.trans source)
          obtain ⟨own, same⟩ := selects_iff.mp (List.find?_some row)
          exact .document d (List.mem_of_find?_eq_some row) own same
            (DocumentPage.polls_eq_false.mp final)

/-- Once the document has an outcome, an open page without an error can always go on, by
itself, to show it; and then it shows it for good and sends no further request, whatever
else happens. -/
theorem page_comes_to_rest
    (apart : Along (step env) (KeepsApart id) (State.init tenants users apiKeys) before)
    (watched : Along (Watch.step env t id) (Watch.KeepsApart id)
      (.opened t id (run (step env) (State.init tenants users apiKeys) before) accessToken) es) :
    let w := run (Watch.step env t id)
      (.opened t id (run (step env) (State.init tenants users apiKeys) before) accessToken) es
    ∀ d ∈ w.system.db.documents, d.tenantId = t.val → d.id = id →
      (d.status = .completed ∨ d.status = .failed) →
      w.page.closed = false → w.page.redirected = false → w.page.error = none →
      (∀ err, some (.error err) ∉ w.page.requests) →
      ∃ more, (∀ e ∈ more, e.goesOn) ∧ ∀ later,
        Along (Watch.step env t id) (Watch.KeepsApart id) (run (Watch.step env t id) w more) later →
          render (run (Watch.step env t id) w (more ++ later)).page =
            .document (Doc.of d) (sectionOf (Doc.of d)) ∧
          (run (Watch.step env t id) w (more ++ later)).page.sent =
            (run (Watch.step env t id) w more).page.sent := by
  intro w d hd own same finished opened stays error answers
  have sound : Watch.Sound t id w :=
    watched_sound env tenants users apiKeys before t id accessToken es apart watched
  have final : policy.polls (Doc.of d) = false := DocumentPage.polls_eq_false.mpr finished
  have row : documentRoute t id w.system.db = .ok (Doc.of d) := by
    refine documentRoute_eq_ok.mpr ⟨d, find?_of_unique hd (selects_iff.mpr ⟨own, same⟩) ?_, rfl⟩
    intro d' hd' selected
    exact sound.coherent.row_unique hd' hd ((selects_iff.mp selected).2.trans same.symm)
  have live : w.page.Live policy (Doc.of d) :=
    ⟨sound.page, sound.source.trans row, opened, stays, error, answers⟩
  obtain ⟨more, plain, done, -⟩ := live.comes_to_rest final
  have moved := Watch.run_page env t id w.system w.page plain
  refine ⟨more.map .page, fun e mem => ?_, fun later apart => ?_⟩
  · obtain ⟨e', mem', rfl⟩ := List.mem_map.mp mem
    exact plain e' mem'
  · have alone : Along (Watch.step env t id) (Watch.KeepsApart id) w (more.map .page) := by
      have pages : ∀ e ∈ more.map Watch.Event.page, ∃ e', e = .page e' := fun e mem =>
        (List.mem_map.mp mem).imp fun _ h => h.2.symm
      refine (along_of_mem (Watch.step env t id) w pages).mono _ fun _ e page => ?_
      obtain ⟨e', rfl⟩ := page
      trivial
    have rested := sound.run alone
    rw [run_append]
    rw [show run (Watch.step env t id) w (more.map .page) = _ from moved] at apart rested ⊢
    obtain ⟨shown, error, sent⟩ := rested.done done apart
    refine ⟨?_, sent⟩
    rw [DocumentPage.render_of_error_eq_none error, shown]
    rfl

end Page

namespace Watch.Sample
open IdpSaas.Sample

instance (id : String) (w : Watch) : (e : Event) → Decidable (w.KeepsApart id e)
  | .system e => inferInstanceAs (Decidable (IdpSaas.KeepsApart id w.system e))
  | .page _ => isTrue trivial

/-- The page is opened after the upload, and polls until the worker is done. -/
def events : List Event :=
  [.page (.serve 0), .page (.arrive 0), .page .effects, .page .tick] ++
    (processed acme doc1).map .system ++
    [.page (.serve 0), .page (.arrive 0), .page .effects]

end Watch.Sample

open Sample in
theorem page_rests_on_outcome_polled :
    let w := run (Watch.step env acme doc1.val)
      (.opened acme doc1.val (run (step env) (State.init [] [] []) (uploaded acme file1 doc1)) true)
      Watch.Sample.events
    w.page.Quiet ∧ w.Rests acme doc1.val (render w.page) := by
  have quiet : (run (Watch.step env acme doc1.val)
      (.opened acme doc1.val (run (step env) (State.init [] [] []) (uploaded acme file1 doc1)) true)
      Watch.Sample.events).page.Quiet :=
    ⟨List.isEmpty_iff.mp (by decide +kernel), by decide +kernel, by decide +kernel, by decide +kernel⟩
  exact ⟨quiet, page_rests_on_outcome env [] [] [] (uploaded acme file1 doc1) acme doc1.val true
    Watch.Sample.events (by decide +kernel) (by decide +kernel) quiet⟩

open Sample in
theorem page_comes_to_rest_loading :
    let w := run (Watch.step env acme doc1.val)
      (.opened acme doc1.val
        (run (step env) (State.init [] [] []) (uploaded acme file1 doc1 ++ processed acme doc1)) true)
      []
    ∃ more, (∀ e ∈ more, Watch.Event.goesOn e) ∧ ∀ later,
        Along (Watch.step env acme doc1.val) (Watch.KeepsApart doc1.val)
          (run (Watch.step env acme doc1.val) w more) later →
          render (run (Watch.step env acme doc1.val) w (more ++ later)).page =
              .document (Doc.of readRow) (sectionOf (Doc.of readRow)) ∧
          (run (Watch.step env acme doc1.val) w (more ++ later)).page.sent =
            (run (Watch.step env acme doc1.val) w more).page.sent :=
  page_comes_to_rest env [] [] [] (uploaded acme file1 doc1 ++ processed acme doc1) acme doc1.val
    true [] (by decide +kernel) trivial readRow (by decide +kernel) rfl rfl (Or.inl rfl) rfl rfl rfl
    fun err there => by cases List.mem_singleton.mp there

end IdpSaas
