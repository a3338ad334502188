import IdpSaas.System.Coherence

/-!
Whether COMPLETED and FAILED are final. The handler does not look at the status it
overwrites, so a delivery that overlaps a finished one, or comes after it, resets the
document. They are final for a document whose deliveries keep apart: its job is not
delivered once it is finished, and it is not finished while another of its deliveries
may still write a status.
-/

namespace IdpSaas
open Owned DocumentsService ProcessingProcessor Machine

def DocumentStatus.terminal : DocumentStatus → Bool
  | .completed | .failed => true
  | .pending | .processing => false

/-- The columns that a finished document keeps. -/
def Document.outcome (d : Document) :
    DocumentStatus × Option Json × Option Time × Option String :=
  (d.status, d.extractedData, d.processedAt, d.errorMessage)

/-- Writes that finish a document. -/
def DocumentWrite.finishes : DocumentWrite → Bool
  | .rejected | .completed _ _ | .failed _ => true
  | .processing _ | .increment => false

/-- The handler is about to finish its document. -/
def HandlerPc.finishing : HandlerPc → Bool
  | .updateRejected _ | .updateCompleted _ | .updateFailed _ => true
  | _ => false

/-- The handler may still write a status. After a failure it does so only in the
final attempt. -/
def HandlerPc.mayWrite (final : Bool) : HandlerPc → Bool
  | .incrementRetry _ => final
  | .returned _ | .threw _ | .crashed => false
  | _ => true

def Delivery.unsettled (dl : Delivery) : Bool :=
  dl.pc.mayWrite (isFinalAttempt dl.job dl.attemptsMade)

/-- The deliveries of a document keep apart: none of them once it is finished, and no
finishing write while another one is unsettled. -/
def KeepsApart (id : String) (s : State) (e : Event) : Prop :=
  match e.action with
  | .deliver _ documentId _ =>
      documentId = id → ∀ d ∈ s.db.documents, d.id = id → d.status.terminal = false
  | .work key _ =>
      ∀ dl ∈ s.deliveries.find? e.tenant.val key, dl.job.documentId = id → dl.pc.finishing = true →
        ∀ other ∈ s.deliveries.entries, other.job.documentId = id →
          other.unsettled = true → address other = address dl
  | _ => True

instance (id : String) (s : State) : (e : Event) → Decidable (KeepsApart id s e)
  | ⟨_, .deliver _ documentId _⟩ =>
      inferInstanceAs (Decidable (documentId = id →
        ∀ d ∈ s.db.documents, d.id = id → d.status.terminal = false))
  | ⟨t, .work key _⟩ =>
      inferInstanceAs (Decidable (∀ dl ∈ s.deliveries.find? t.val key, dl.job.documentId = id →
        dl.pc.finishing = true → ∀ other ∈ s.deliveries.entries, other.job.documentId = id →
          other.unsettled = true → address other = address dl))
  | ⟨_, .upload ..⟩ | ⟨_, .storageSave ..⟩ | ⟨_, .documentCreate ..⟩ | ⟨_, .queueAdd ..⟩
  | ⟨_, .list ..⟩ | ⟨_, .findMany ..⟩ | ⟨_, .count ..⟩ | ⟨_, .findOne ..⟩ | ⟨_, .crash ..⟩ =>
      isTrue trivial

/-- Once it is finished, the document has no unsettled delivery. -/
def Settled (id : String) (s : State) : Prop :=
  ∀ d ∈ s.db.documents, d.id = id → d.status.terminal = true →
    ∀ dl ∈ s.deliveries, dl.job.documentId = id → dl.unsettled = false

theorem outcome_increment (d : Document) :
    (DocumentWrite.increment.apply d).outcome = d.outcome := rfl

section Moves
variable {env : Env} {job : Job} {n : Nat} {db : Database} {files : Files}
  {pc pc' : HandlerPc} {wrote : Option DocumentWrite} {exchange : Option (OcrRequest × OcrReply)}

/-- A settled delivery stays settled and writes no status. -/
theorem Move.settled (move : Move env job n db files pc wrote exchange pc')
    (h : pc.mayWrite (isFinalAttempt job n) = false) :
    pc'.mayWrite (isFinalAttempt job n) = false ∧ (wrote = none ∨ wrote = some .increment) := by
  cases move with
  | found | claimed | claimedPdf | rejected | read | answered | unanswered | completed | unread
  | uncompleted | failed => cases h
  | countedFinal err final => exact absurd final (by simpa [HandlerPc.mayWrite] using h)
  | counted err more => exact ⟨rfl, Or.inr rfl⟩
  | threw pc err live => exact ⟨rfl, Or.inl rfl⟩
  | idle pc done => exact ⟨h, Or.inl rfl⟩

/-- A finishing write is the delivery's last. -/
theorem Move.finished {w : DocumentWrite}
    (move : Move env job n db files pc (some w) exchange pc') (h : w.finishes = true) :
    pc.finishing = true ∧ pc'.mayWrite (isFinalAttempt job n) = false := by
  cases move with
  | claimed | claimedPdf | countedFinal | counted => cases h
  | rejected | completed | failed => exact ⟨rfl, rfl⟩

end Moves

section Steps
variable {env : Env} {s s' : State} {e : Event} {id : String}

theorem Settled.worked (settled : Settled id s) (co : Coherent s) {dl : Delivery}
    (mem : dl ∈ s.deliveries) {wrote : Option DocumentWrite}
    {exchange : Option (OcrRequest × OcrReply)} {pc : HandlerPc}
    (move : Move env dl.job dl.attemptsMade s.db s.files dl.pc wrote exchange pc)
    (apart : dl.job.documentId = id → dl.pc.finishing = true → ∀ other ∈ s.deliveries.entries,
      other.job.documentId = id → other.unsettled = true → address other = address dl)
    {d' : Document}
    (hd' : d' ∈ (wrote.elim s.db (s.db.write dl.job.tenantId dl.job.documentId)).documents)
    (same : d'.id = id) (terminal : d'.status.terminal = true) :
    (∀ other ∈ s.deliveries, address other ≠ address dl → other.job.documentId = id →
        other.unsettled = false) ∧
      (dl.job.documentId = id → pc.mayWrite (isFinalAttempt dl.job dl.attemptsMade) = false) := by
  have kept : ∀ d ∈ s.db.documents, d.id = id → d.status.terminal = true →
      (∀ other ∈ s.deliveries, address other ≠ address dl → other.job.documentId = id →
        other.unsettled = false) ∧
      (dl.job.documentId = id →
        pc.mayWrite (isFinalAttempt dl.job dl.attemptsMade) = false) := by
    intro d hd same ht
    refine ⟨fun other ho _ hid => settled d hd same ht other ho hid, fun hid => ?_⟩
    exact (Move.settled move (settled d hd same ht dl mem hid)).1
  cases wrote with
  | none => exact kept d' hd' same terminal
  | some w =>
      obtain ⟨d, hd, there, change⟩ := co.mem_written mem hd'
      cases change with
      | inr other =>
          rw [other.2] at terminal
          exact kept d hd (there.symm.trans same) terminal
      | inl own =>
          cases fin : w.finishes with
          | true =>
              have last := Move.finished move fin
              refine ⟨fun other ho addr hid => ?_, fun _ => last.2⟩
              cases un : other.unsettled with
              | false => rfl
              | true =>
                  exact absurd (apart (own.1.symm.trans (there.symm.trans same)) last.1 other ho hid
                    un) addr
          | false =>
              rw [own.2] at terminal
              cases w with
              | processing now => cases terminal
              | increment => exact kept d hd (there.symm.trans same) terminal
              | rejected | completed | failed => cases fin

theorem Settled.preserved (settled : Settled id s) (co : Coherent s) (apart : KeepsApart id s e)
    (tr : Transition env s e s') : Settled id s' := by
  intro d' hd' same terminal dl' hdl' hid
  cases tr with
  | idle | listed | received | refused | saved | enqueued =>
      exact settled d' hd' same terminal dl' hdl' hid
  | created t uuid now c stored mem own pc free =>
      cases List.mem_append.mp hd' with
      | inl old => exact settled d' old same terminal dl' hdl' hid
      | inr new =>
          rw [List.mem_singleton.mp new] at terminal
          cases terminal
  | delivered t key job attemptsMade mem own free =>
      cases Table.of_mem_insert hdl' with
      | inl old => exact settled d' hd' same terminal dl' old hid
      | inr new =>
          subst new
          have running := apart hid d' hd' same
          rw [terminal] at running
          cases running
  | worked t fate dl wrote exchange pc mem own move =>
      have found : s.deliveries.find? t.val dl.key = some dl :=
        Table.find?_eq_some.mpr ⟨mem, address_eq.mpr ⟨own, rfl⟩⟩
      have ends := settled.worked co mem move (apart dl found) hd' same terminal
      cases Table.of_mem_put hdl' with
      | inl new => subst new; exact ends.2 hid
      | inr old => exact ends.1 dl' old.1 old.2 hid
  | crashed t dl mem live =>
      cases Table.of_mem_put hdl' with
      | inl new => subst new; rfl
      | inr old => exact settled d' hd' same terminal dl' old.1 hid

/-- While it is settled, an event does not change the outcome of a finished document. -/
theorem Settled.outcome_kept {d d' : Document} (settled : Settled d.id s) (co : Coherent s)
    (tr : Transition env s e s') (hd : d ∈ s.db.documents)
    (terminal : d.status.terminal = true) (hd' : d' ∈ s'.db.documents) (same : d'.id = d.id) :
    d'.outcome = d.outcome := by
  have unchanged : d' ∈ s.db.documents → d'.outcome = d.outcome :=
    fun old => by rw [co.row_unique old hd same]
  cases tr with
  | idle | listed | received | refused | saved | enqueued | delivered | crashed =>
      exact unchanged hd'
  | created t uuid now c stored mem own pc free =>
      cases List.mem_append.mp hd' with
      | inl old => exact unchanged old
      | inr new =>
          rw [List.mem_singleton.mp new] at same
          exact absurd same.symm (free d hd)
  | worked t fate dl wrote exchange pc mem own move =>
      cases wrote with
      | none => exact unchanged hd'
      | some w =>
          obtain ⟨old, hold, kept, change⟩ := co.mem_written mem hd'
          obtain rfl := co.row_unique hold hd (kept.symm.trans same)
          cases change with
          | inr other => rw [other.2]
          | inl own =>
              have quiet := (Move.settled move (settled old hold rfl terminal dl mem own.1.symm)).2
              have increment : w = .increment := by
                cases quiet with
                | inl none => cases none
                | inr some => exact Option.some.inj some
              rw [own.2, increment, outcome_increment]

end Steps

/-- The document is there, and its row has this outcome. -/
def State.Carries (s : State) (id : String)
    (outcome : DocumentStatus × Option Json × Option Time × Option String) : Prop :=
  (∃ d ∈ s.db.documents, d.id = id) ∧ ∀ d ∈ s.db.documents, d.id = id → d.outcome = outcome

theorem Transition.row_kept {env : Env} {s s' : State} {e : Event} (tr : Transition env s e s')
    {id : String} (h : ∃ d ∈ s.db.documents, d.id = id) : ∃ d ∈ s'.db.documents, d.id = id := by
  obtain ⟨d, hd, rfl⟩ := h
  obtain ⟨d', hd', same⟩ :=
    mem_submissions.mp (tr.submissions_grow _ (mem_submissions.mpr ⟨d, hd, rfl⟩))
  exact ⟨d', hd', congrArg Submission.id same⟩

theorem Settled.carries {env : Env} {s s' : State} {e : Event} {id : String}
    (settled : Settled id s) (co : Coherent s) (tr : Transition env s e s')
    {outcome : DocumentStatus × Option Json × Option Time × Option String}
    (terminal : outcome.1.terminal = true) (h : s.Carries id outcome) : s'.Carries id outcome := by
  refine ⟨tr.row_kept h.1, ?_⟩
  intro d' hd' same
  obtain ⟨d, hd, rfl⟩ := h.1
  have now := h.2 d hd rfl
  subst now
  exact settled.outcome_kept co tr hd terminal hd' same

/-- Along a run in which the document's deliveries keep apart it stays settled. -/
theorem Settled.run {env : Env} {s : State} {id : String} (co : Coherent s) (settled : Settled id s)
    {es : List Event} (apart : Along (step env) (KeepsApart id) s es) :
    Coherent (run (step env) s es) ∧ Settled id (run (step env) s es) :=
  run_invariant (step env)
    (fun s e (h : Coherent s ∧ Settled id s) keep =>
      have tr := step_transition env s e
      ⟨h.1.preserved tr, h.2.preserved h.1 keep tr⟩)
    ⟨co, settled⟩ apart

theorem Settled.init (tenants : List Tenant) (users : List User) (apiKeys : List ApiKey)
    (id : String) : Settled id (State.init tenants users apiKeys) := fun _ hd => nomatch hd

/-- In a run in which the deliveries of a document keep apart, it keeps its status, result,
processing time and error message for good once it is COMPLETED or FAILED. -/
theorem terminal_outcome_final (env : Env) (tenants : List Tenant) (users : List User)
    (apiKeys : List ApiKey) (es later : List Event) :
    ∀ d ∈ (run (step env) (State.init tenants users apiKeys) es).db.documents,
      Along (step env) (KeepsApart d.id) (State.init tenants users apiKeys) (es ++ later) →
        d.status = .completed ∨ d.status = .failed →
          (run (step env) (State.init tenants users apiKeys) (es ++ later)).Carries
            d.id d.outcome := by
  intro d hd apart finished
  have terminal : d.outcome.1.terminal = true := by
    change d.status.terminal = true
    cases finished with
    | inl h => rw [h]; rfl
    | inr h => rw [h]; rfl
  rw [along_append] at apart
  have first := Settled.run (Coherent.init tenants users apiKeys)
    (Settled.init tenants users apiKeys d.id) apart.1
  have here : (run (step env) (State.init tenants users apiKeys) es).Carries d.id d.outcome :=
    ⟨⟨d, hd, rfl⟩, fun d' hd' same => by rw [first.1.row_unique hd' hd same]⟩
  rw [run_append]
  exact (run_invariant (step env)
    (fun s e (h : (Coherent s ∧ Settled d.id s) ∧ s.Carries d.id d.outcome) keep =>
      have tr := step_transition env s e
      ⟨⟨h.1.1.preserved tr, h.1.2.preserved h.1.1 keep tr⟩, h.1.2.carries h.1.1 tr terminal h.2⟩)
    ⟨first, here⟩ apart.2).2

section Redelivery
open Sample

/-- A first delivery has completed the document when its job is delivered again. -/
theorem redelivery_reopens_completed :
    ¬ ∀ d ∈ (run (step env) (State.init [] [] [])
        (uploaded acme file1 doc1 ++ processed acme doc1)).db.documents,
      d.status = .completed ∨ d.status = .failed →
        (run (step env) (State.init [] [] [])
          (uploaded acme file1 doc1 ++ processed acme doc1 ++
            [⟨acme, .deliver 1 doc1.val 0⟩, ⟨acme, .work 1 reads⟩, ⟨acme, .work 1 reads⟩])).Carries
          d.id d.outcome := by
  have before : (run (step env) (State.init [] [] [])
      (uploaded acme file1 doc1 ++ processed acme doc1)).db.documents.map
        Document.status = [.completed] := by decide +kernel
  have after : (run (step env) (State.init [] [] [])
      (uploaded acme file1 doc1 ++ processed acme doc1 ++
        [⟨acme, .deliver 1 doc1.val 0⟩, ⟨acme, .work 1 reads⟩,
          ⟨acme, .work 1 reads⟩])).db.documents.map Document.status = [.processing] := by
    decide +kernel
  intro final
  obtain ⟨d, hd, completed⟩ := List.mem_map.mp (before ▸ List.mem_singleton.mpr rfl)
  obtain ⟨⟨d', hd', same⟩, outcome⟩ := final d hd (Or.inl completed)
  have reopened := List.mem_singleton.mp (after ▸ List.mem_map_of_mem hd')
  have kept := congrArg Prod.fst (outcome d' hd' same)
  change d'.status = d.status at kept
  rw [reopened, completed] at kept
  cases kept

theorem terminal_outcome_final_other_tenant :
    (run (step env) (State.init [] [] []) (uploaded acme file1 doc1 ++ processed acme doc1 ++
      (uploaded globex file2 doc2 ++ processed globex doc2))).Carries readRow.id readRow.outcome :=
  terminal_outcome_final env [] [] [] (uploaded acme file1 doc1 ++ processed acme doc1)
    (uploaded globex file2 doc2 ++ processed globex doc2) readRow (by decide +kernel)
    (by decide +kernel) (Or.inl rfl)

end Redelivery
end IdpSaas
