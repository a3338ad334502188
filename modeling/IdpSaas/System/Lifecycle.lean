import IdpSaas.System.Coherence

/-!
The status of a document and the columns that go with it, under any schedule of
uploads and deliveries. What a row must satisfy depends on whether any delivery has
written it and on how many have executed the increment; each of the handler's
updates preserves it, and so does every event.
-/

namespace IdpSaas
open Owned DocumentsService ProcessingProcessor Machine

/-- What a row satisfies when `touched` says whether deliveries have written it and
`increments` how many of them have counted a failure. -/
structure RowConsistent (touched : Prop) (increments : Nat) (d : Document) : Prop where
  completed : d.status = .completed → d.extractedData ≠ none ∧ d.processedAt ≠ none ∧
    d.processingStartedAt ≠ none ∧ d.errorMessage = none
  failed : d.status = .failed → d.errorMessage ≠ none ∧ d.processingStartedAt ≠ none
  pending : d.status = .pending ↔ ¬touched
  unwritten : ¬touched → d.processingStartedAt = none ∧ d.processedAt = none ∧
    d.extractedData = none ∧ d.errorMessage = none ∧ d.retryCount = 0
  started : touched → d.processingStartedAt ≠ none
  retryCount : d.retryCount = increments

/-- Only the first update of a delivery may be the first to write the row. -/
theorem RowConsistent.apply {touched : Prop} {n : Nat} {d : Document}
    (h : RowConsistent touched n d) {w : DocumentWrite}
    (first : touched ∨ ∃ now, w = .processing now) :
    RowConsistent True (n + if w = .increment then 1 else 0) (w.apply d) := by
  have started : (∃ now, w = .processing now) ∨ d.processingStartedAt ≠ none :=
    first.elim (fun t => Or.inr (h.started t)) Or.inl
  have count := h.retryCount
  cases w with
  | processing now =>
      exact ⟨nofun, nofun, by simp [DocumentWrite.apply], fun h => absurd trivial h,
        fun _ => by simp [DocumentWrite.apply], by simpa [DocumentWrite.apply] using count⟩
  | rejected =>
      have claimed := started.resolve_left nofun
      exact ⟨nofun, fun _ => ⟨by simp [DocumentWrite.apply], claimed⟩,
        by simp [DocumentWrite.apply], fun h => absurd trivial h, fun _ => claimed,
        by simpa [DocumentWrite.apply] using count⟩
  | completed now data =>
      have claimed := started.resolve_left nofun
      exact ⟨fun _ => ⟨by simp [DocumentWrite.apply], by simp [DocumentWrite.apply], claimed, rfl⟩,
        nofun, by simp [DocumentWrite.apply], fun h => absurd trivial h, fun _ => claimed,
        by simpa [DocumentWrite.apply] using count⟩
  | increment =>
      have written : touched := first.resolve_right nofun
      exact ⟨h.completed, h.failed, by simpa [DocumentWrite.apply, written] using h.pending,
        fun h => absurd trivial h, fun _ => h.started written,
        by simpa [DocumentWrite.apply] using count⟩
  | failed message =>
      have claimed := started.resolve_left nofun
      exact ⟨nofun, fun _ => ⟨by simp [DocumentWrite.apply], claimed⟩,
        by simp [DocumentWrite.apply], fun h => absurd trivial h, fun _ => claimed,
        by simpa [DocumentWrite.apply] using count⟩

/-- Some delivery has written the row. -/
def Touched (T : Table Delivery) (id : String) : Prop :=
  ∃ dl ∈ T, dl.job.documentId = id ∧ dl.writes ≠ []

def Delivery.counts (id : String) (dl : Delivery) : Bool :=
  decide (dl.job.documentId = id ∧ DocumentWrite.increment ∈ dl.writes)

/-- How many deliveries of the document have executed the increment. -/
def increments (T : Table Delivery) (id : String) : Nat := T.count (Delivery.counts id)

/-- Past the PROCESSING update. -/
def HandlerPc.claimed : HandlerPc → Bool
  | .updateRejected _ | .readFile _ | .runOcr _ _ | .updateCompleted _ | .incrementRetry _
  | .updateFailed _ => true
  | _ => false

/-- Past the increment. -/
def HandlerPc.counted : HandlerPc → Bool
  | .updateFailed _ | .returned _ | .threw _ | .crashed => true
  | _ => false

/-- A delivery past its claim has written its row; it counts a failure at most once. -/
structure Delivery.Consistent (dl : Delivery) : Prop where
  claimed : dl.pc.claimed = true → dl.writes ≠ []
  counted : DocumentWrite.increment ∈ dl.writes → dl.pc.counted = true

structure Lifecycle (s : State) : Prop where
  coherent : Coherent s
  deliveries : ∀ dl ∈ s.deliveries, dl.Consistent
  rows : ∀ d ∈ s.db.documents,
    RowConsistent (Touched s.deliveries d.id) (increments s.deliveries d.id) d

theorem Move.consistent {env : Env} {dl : Delivery} {db : Database} {files : Files}
    {wrote : Option DocumentWrite} {exchange : Option (OcrRequest × OcrReply)}
    {pc : HandlerPc}
    (move : Move env dl.job dl.attemptsMade db files dl.pc wrote exchange pc)
    (h : dl.Consistent) : (dl.after pc wrote exchange).Consistent := by
  obtain ⟨key, job, attemptsMade, pc₀, writes, ex⟩ := dl
  obtain ⟨claimed, counted⟩ := h
  cases move <;>
    refine ⟨fun hc => ?_, fun hi => ?_⟩ <;>
    simp_all [Delivery.after, HandlerPc.claimed, HandlerPc.counted, HandlerPc.ended]

section Tables
variable {T : Table Delivery} {dl : Delivery} {pc : HandlerPc} {wrote : Option DocumentWrite}
  {exchange : Option (OcrRequest × OcrReply)} {id : String}

theorem touched_put (mem : dl ∈ T) :
    Touched (T.put (dl.after pc wrote exchange)) id ↔
      Touched T id ∨ (dl.job.documentId = id ∧ wrote ≠ none) := by
  constructor
  · rintro ⟨x, hx, same, hw⟩
    cases Table.of_mem_put hx with
    | inr old => exact Or.inl ⟨x, old.1, same, hw⟩
    | inl new =>
        subst new
        cases wrote with
        | none => exact Or.inl ⟨dl, mem, same, by simpa [Delivery.after] using hw⟩
        | some w => exact Or.inr ⟨same, Option.some_ne_none w⟩
  · intro h
    cases h with
    | inl h =>
        refine Table.exists_put mem rfl (fun written => ?_) h
        exact ⟨written.1, List.append_ne_nil_of_left_ne_nil written.2 _⟩
    | inr h =>
        refine ⟨_, Table.mem_put_self mem rfl, h.1, ?_⟩
        cases wrote with
        | none => exact absurd rfl h.2
        | some w => simp [Delivery.after]

/-- An increment of a delivery that had made none counts once, for its own document. -/
theorem increments_put (mem : dl ∈ T)
    (once : wrote = some .increment → DocumentWrite.increment ∉ dl.writes) :
    increments (T.put (dl.after pc wrote exchange)) id =
      increments T id + if dl.job.documentId = id ∧ wrote = some .increment then 1 else 0 := by
  have count := Table.count_put (Delivery.counts id) mem
    (show address dl = address (dl.after pc wrote exchange) from rfl)
  have new : Delivery.counts id (dl.after pc wrote exchange) =
      (Delivery.counts id dl || decide (dl.job.documentId = id ∧ wrote = some .increment)) := by
    have writes : DocumentWrite.increment ∈ dl.writes ++ wrote.toList ↔
        DocumentWrite.increment ∈ dl.writes ∨ wrote = some .increment := by
      rw [List.mem_append, Option.mem_toList]
    simp only [Delivery.counts, Delivery.after, writes, and_or_left, Bool.decide_or]
  rw [new] at count
  change increments _ id + _ = increments T id + _ at count
  by_cases hit : dl.job.documentId = id ∧ wrote = some .increment
  · have old : Delivery.counts id dl = false := by
      simp [Delivery.counts, once hit.2]
    simp only [old, hit, and_self, decide_true, Bool.false_or, if_true, Bool.false_eq_true,
      if_false] at count ⊢
    exact count
  · simp only [hit, decide_false, Bool.or_false, if_false] at count ⊢
    omega

theorem touched_insert (key : Nat) (job : Job) (n : Nat) :
    (Touched (T.insert ⟨key, job, n, .findUnique, [], []⟩) id ↔ Touched T id) := by
  constructor
  · rintro ⟨x, hx, same, hw⟩
    cases Table.of_mem_insert hx with
    | inl old => exact ⟨x, old, same, hw⟩
    | inr new => subst new; exact absurd rfl hw
  · rintro ⟨x, hx, same, hw⟩
    exact ⟨x, Table.mem_insert_of_mem hx, same, hw⟩

end Tables
section Preservation
variable {env : Env} {s s' : State} {e : Event}

/-- Whatever a delivery writes first is the claim of its document. -/
theorem Move.first_write {env : Env} {dl : Delivery} {db : Database} {files : Files}
    {w : DocumentWrite} {exchange : Option (OcrRequest × OcrReply)} {pc : HandlerPc}
    (move : Move env dl.job dl.attemptsMade db files dl.pc (some w) exchange pc)
    (h : dl.Consistent) : dl.writes ≠ [] ∨ ∃ now, w = .processing now := by
  have claimed := h.claimed
  revert claimed
  generalize hpc : dl.pc = pc₀ at move
  intro claimed
  cases move with
  | claimed d now image => exact Or.inr ⟨now, rfl⟩
  | claimedPdf d now pdf => exact Or.inr ⟨now, rfl⟩
  | rejected | completed | countedFinal | counted | failed => exact Or.inl (claimed rfl)

theorem Move.increments_once {env : Env} {dl : Delivery} {db : Database} {files : Files}
    {wrote : Option DocumentWrite} {exchange : Option (OcrRequest × OcrReply)} {pc : HandlerPc}
    (move : Move env dl.job dl.attemptsMade db files dl.pc wrote exchange pc)
    (h : dl.Consistent) (hw : wrote = some .increment) :
    DocumentWrite.increment ∉ dl.writes := by
  intro again
  have counted := h.counted again
  revert counted
  generalize dl.pc = pc₀ at move
  intro counted
  subst hw
  cases move <;> cases counted

/-- A row that no delivery names has not been touched. -/
theorem Coherent.untouched (co : Coherent s) {id : String}
    (free : ∀ d ∈ s.db.documents, d.id ≠ id) (dl : Delivery) (hdl : dl ∈ s.deliveries) :
    dl.job.documentId ≠ id := by
  intro same
  obtain ⟨r, hr, hid, _⟩ := co.queued dl.job (co.delivered dl hdl)
  obtain ⟨d, hd, rfl⟩ := mem_submissions.mp hr
  exact free d hd (hid.trans same)

theorem Lifecycle.worked {dl : Delivery} {wrote : Option DocumentWrite}
    {exchange : Option (OcrRequest × OcrReply)} {pc : HandlerPc} (h : Lifecycle s)
    (mem : dl ∈ s.deliveries)
    (move : Move env dl.job dl.attemptsMade s.db s.files dl.pc wrote exchange pc)
    (d' : Document)
    (hd' : d' ∈ (wrote.elim s.db (s.db.write dl.job.tenantId dl.job.documentId)).documents) :
    RowConsistent (Touched (s.deliveries.put (dl.after pc wrote exchange)) d'.id)
      (increments (s.deliveries.put (dl.after pc wrote exchange)) d'.id) d' := by
  have own := h.deliveries dl mem
  rw [propext (touched_put mem), increments_put mem (Move.increments_once move own)]
  cases wrote with
  | none => simpa using h.rows d' hd'
  | some w =>
      obtain ⟨d, hd, modified⟩ := mem_modify.mp hd'
      rw [h.coherent.selects_eq mem hd] at modified
      have row := h.rows d hd
      by_cases same : d.id = dl.job.documentId
      · rw [if_pos (decide_eq_true same)] at modified
        subst modified
        have first := (Move.first_write move own).imp_left fun hw =>
          (⟨dl, mem, same.symm, hw⟩ : Touched s.deliveries d.id)
        simpa [same] using row.apply first
      · rw [if_neg (by simpa using same)] at modified
        subst modified
        have other : ¬dl.job.documentId = d.id := fun h => same h.symm
        simpa [other] using row

theorem Lifecycle.rows_step (h : Lifecycle s) (tr : Transition env s e s') :
    ∀ d ∈ s'.db.documents,
      RowConsistent (Touched s'.deliveries d.id) (increments s'.deliveries d.id) d := by
  intro d' hd'
  cases tr with
  | idle | listed | received | refused | saved | enqueued => exact h.rows d' hd'
  | created t uuid now c stored mem own pc free =>
      cases List.mem_append.mp hd' with
      | inl old => exact h.rows d' old
      | inr new =>
          rw [List.mem_singleton.mp new]
          have unnamed := h.coherent.untouched free
          have untouched : ¬Touched s.deliveries uuid.val := by
            rintro ⟨dl, hdl, same, _⟩
            exact unnamed dl hdl same
          have zero : increments s.deliveries uuid.val = 0 := by
            apply List.countP_eq_zero.mpr
            intro dl hdl
            simp [Delivery.counts, unnamed dl hdl]
          change RowConsistent (Touched s.deliveries uuid.val)
            (increments s.deliveries uuid.val) (c.newDocument stored uuid now)
          rw [zero]
          exact ⟨nofun, nofun, iff_of_true rfl untouched, fun _ => ⟨rfl, rfl, rfl, rfl, rfl⟩,
            fun t => absurd t untouched, rfl⟩
  | delivered t key job attemptsMade mem own free =>
      have row := h.rows d' hd'
      have count : increments (s.deliveries.insert ⟨key, job, attemptsMade, .findUnique, [], []⟩)
          d'.id = increments s.deliveries d'.id := by
        rw [← own] at free
        rw [increments, Table.count_insert _ free]
        simp [Delivery.counts, increments]
      rw [count, propext (touched_insert key job attemptsMade)]
      exact row
  | worked t fate dl wrote exchange pc mem own move => exact h.worked mem move d' hd'
  | crashed t dl mem live =>
      have row := h.rows d' hd'
      rw [Delivery.after_none, propext (touched_put mem), increments_put mem (fun h => by cases h)]
      simpa using row

theorem Lifecycle.deliveries_step (h : Lifecycle s) (tr : Transition env s e s') :
    ∀ dl ∈ s'.deliveries, dl.Consistent := by
  cases tr with
  | idle | listed | received | refused | saved | created | enqueued => exact h.deliveries
  | delivered t key job attemptsMade mem own free =>
      exact Table.forall_insert h.deliveries ⟨nofun, nofun⟩
  | worked t fate dl wrote exchange pc mem own move =>
      exact Table.forall_put h.deliveries (Move.consistent move (h.deliveries dl mem))
  | crashed t dl mem live => exact Table.forall_put h.deliveries ⟨nofun, fun _ => rfl⟩

theorem Lifecycle.preserved (h : Lifecycle s) (tr : Transition env s e s') : Lifecycle s' :=
  ⟨h.coherent.preserved tr, h.deliveries_step tr, h.rows_step tr⟩

/-- A row that was written stays written. -/
theorem Transition.touched (tr : Transition env s e s') {id : String}
    (h : Touched s.deliveries id) : Touched s'.deliveries id := by
  cases tr with
  | idle | listed | received | refused | saved | created | enqueued => exact h
  | delivered t key job attemptsMade mem own free =>
      exact (touched_insert key job attemptsMade).mpr h
  | worked t fate dl wrote exchange pc mem own move => exact (touched_put mem).mpr (Or.inl h)
  | crashed t dl mem live =>
      rw [Delivery.after_none]
      exact (touched_put mem).mpr (Or.inl h)

end Preservation

theorem Lifecycle.init (tenants : List Tenant) (users : List User) (apiKeys : List ApiKey) :
    Lifecycle (State.init tenants users apiKeys) where
  coherent := Coherent.init tenants users apiKeys
  deliveries dl hdl := absurd hdl (Table.not_mem_empty dl)
  rows _ hd := nomatch hd

theorem Lifecycle.reachable (env : Env) (tenants : List Tenant) (users : List User)
    (apiKeys : List ApiKey) (es : List Event) :
    Lifecycle (run (step env) (State.init tenants users apiKeys) es) :=
  run_preserves (fun _ _ _ h tr => h.preserved tr) (Lifecycle.init tenants users apiKeys) es

/-- In every reachable state the status of a document agrees with its result columns,
its retry count is the number of deliveries that have counted a failure, and a document
that has left PENDING does not come back to it. -/
theorem document_fields_consistent (env : Env) (tenants : List Tenant) (users : List User)
    (apiKeys : List ApiKey) (es : List Event) :
    ∀ d ∈ (run (step env) (State.init tenants users apiKeys) es).db.documents,
      (d.status = .completed → d.extractedData ≠ none ∧ d.processedAt ≠ none ∧
        d.processingStartedAt ≠ none ∧ d.errorMessage = none) ∧
      (d.status = .failed → d.errorMessage ≠ none ∧ d.processingStartedAt ≠ none) ∧
      (d.status = .pending →
        (∀ dl ∈ (run (step env) (State.init tenants users apiKeys) es).deliveries,
          dl.job.documentId = d.id → dl.writes = []) ∧
        d.processingStartedAt = none ∧ d.processedAt = none ∧ d.extractedData = none ∧
        d.errorMessage = none ∧ d.retryCount = 0) ∧
      (d.status ≠ .pending → ∀ later : List Event,
        ∀ d' ∈ (run (step env) (State.init tenants users apiKeys) (es ++ later)).db.documents,
          d'.id = d.id → d'.status ≠ .pending) ∧
      d.retryCount = increments
        (run (step env) (State.init tenants users apiKeys) es).deliveries d.id := by
  intro d hd
  have now := Lifecycle.reachable env tenants users apiKeys es
  have row := now.rows d hd
  refine ⟨row.completed, row.failed, ?_, ?_, row.retryCount⟩
  · intro pending
    have untouched := row.pending.mp pending
    refine ⟨fun dl hdl same => ?_, row.unwritten untouched⟩
    apply Classical.byContradiction
    intro hw
    exact untouched ⟨dl, hdl, same, hw⟩
  · intro left later d' hd' same pending'
    have touched : Touched (run (step env) (State.init tenants users apiKeys) es).deliveries d.id :=
      Classical.byContradiction fun h => left (row.pending.mpr h)
    have row' := (Lifecycle.reachable env tenants users apiKeys (es ++ later)).rows d' hd'
    apply row'.pending.mp pending'
    rw [same, run_append]
    exact run_preserves (fun _ _ _ h tr => tr.touched h) touched later

theorem document_fields_consistent_read :
    Sample.readRow.extractedData ≠ none ∧ Sample.readRow.processedAt ≠ none ∧
      Sample.readRow.processingStartedAt ≠ none ∧ Sample.readRow.errorMessage = none :=
  (document_fields_consistent Sample.env [] [] []
    (Sample.uploaded Sample.acme Sample.file1 Sample.doc1 ++
      Sample.processed Sample.acme Sample.doc1) Sample.readRow (by decide +kernel)).1 rfl

end IdpSaas
