import IdpSaas.Documents.Pages
import IdpSaas.System.State

/-!
Which database a list response describes. Its two queries run one after the other in any
order, and anything may happen in between: the items come from one state of the call and
the total from another. The two agree when the tenant's matching documents are the same
in both.
-/

namespace IdpSaas
open Owned DocumentsService

section Steps
variable (env : Env) (s : State) (t : Uuid)

/-- What an event does to the calls of `list`, and when it answers with a page. -/
inductive ListStep : Action → Table ListCall → Option Response → Prop
  | other (action : Action) (r : Option Response) (unpaged : ∀ p, r ≠ some (.page p)) :
      ListStep action s.lists r
  | begun (key : Nat) (query : ListDocumentsQueryDto) :
      ListStep (.list key query) (s.lists.insert ⟨t.val, key, query, none, none, false⟩) none
  | failed (action : Action) (c : ListCall) (mem : c ∈ s.lists) (err : JsError) :
      ListStep action (s.lists.put { c with ended := true }) (some (.error (.internal err)))
  | found (c : ListCall) (order : RowOrder) (mem : c ∈ s.lists) (own : c.tenantId = t.val) :
      ListStep (.findMany c.key order none)
        (s.lists.put { c with
          items := some (listItems t.scope s.db c.query order)
          ended := c.total.isSome })
        (c.total.map fun total =>
          .page (listResponse c.query (listItems t.scope s.db c.query order) total))
  | counted (c : ListCall) (mem : c ∈ s.lists) (own : c.tenantId = t.val) :
      ListStep (.count c.key none)
        (s.lists.put { c with
          total := some (listTotal t.scope s.db c.query)
          ended := c.items.isSome })
        (c.items.map fun items =>
          .page (listResponse c.query items (listTotal t.scope s.db c.query)))

theorem upload_lists (key : Nat) (userId : String) (file : Option MulterFile) :
    ListStep s t (.upload key userId file) (s.upload t key userId file).1.lists
      (s.upload t key userId file).2 := by
  rw [State.upload]
  repeat' split
  all_goals exact .other _ _ (by simp)

theorem storageSave_lists (key : Nat) (uuid : Uuid) (fails : Option JsError) :
    ListStep s t (.storageSave key uuid fails) (s.storageSave env t key uuid fails).1.lists
      (s.storageSave env t key uuid fails).2 := by
  rw [State.storageSave]
  repeat' split
  all_goals exact .other _ _ (by simp [State.refuse])

theorem documentCreate_lists (key : Nat) (uuid : Uuid) (now : Time) (fails : Option JsError) :
    ListStep s t (.documentCreate key uuid now fails)
      (s.documentCreate env t key uuid now fails).1.lists
      (s.documentCreate env t key uuid now fails).2 := by
  rw [State.documentCreate]
  repeat' split
  all_goals exact .other _ _ (by simp [State.refuse])

theorem queueAdd_lists (key : Nat) (fails : Option JsError) :
    ListStep s t (.queueAdd key fails) (s.queueAdd t key fails).1.lists
      (s.queueAdd t key fails).2 := by
  rw [State.queueAdd]
  repeat' split
  all_goals exact .other _ _ (by simp [State.refuse])

theorem list_lists (key : Nat) (query : ListDocumentsQueryDto) :
    ListStep s t (.list key query) (s.list t key query).1.lists (s.list t key query).2 := by
  rw [State.list]
  cases s.lists.find? t.val key with
  | some c => exact .other _ _ (by simp)
  | none => exact .begun key query

theorem findMany_lists (key : Nat) (order : RowOrder) (fails : Option JsError) :
    ListStep s t (.findMany key order fails) (s.findMany t key order fails).1.lists
      (s.findMany t key order fails).2 := by
  rw [State.findMany]
  cases called : s.lists.find? t.val key with
  | none => exact .other _ _ (by simp)
  | some c =>
      obtain ⟨mem, addr⟩ := Table.find?_eq_some.mp called
      obtain ⟨own, rfl⟩ := address_eq.mp addr
      dsimp only
      split
      · exact .failed _ c mem _
      · exact .found c order mem own
      · exact .other _ _ (by simp)

theorem count_lists (key : Nat) (fails : Option JsError) :
    ListStep s t (.count key fails) (s.count t key fails).1.lists (s.count t key fails).2 := by
  rw [State.count]
  cases called : s.lists.find? t.val key with
  | none => exact .other _ _ (by simp)
  | some c =>
      obtain ⟨mem, addr⟩ := Table.find?_eq_some.mp called
      obtain ⟨own, rfl⟩ := address_eq.mp addr
      dsimp only
      split
      · exact .failed _ c mem _
      · exact .counted c mem own
      · exact .other _ _ (by simp)

theorem findOne_lists (id : String) (fails : Option JsError) :
    ListStep s t (.findOne id fails) (s.findOne t id fails).1.lists (s.findOne t id fails).2 := by
  cases fails with
  | some err => exact .other _ _ (by simp [State.findOne])
  | none =>
      rw [State.findOne]
      cases DocumentsService.findOne t.scope s.db id with
      | error e => exact .other _ _ (by simp)
      | ok doc => exact .other _ _ (by simp)

theorem deliver_lists (key : Nat) (documentId : String) (attemptsMade : Nat) :
    ListStep s t (.deliver key documentId attemptsMade)
      (s.deliver t key documentId attemptsMade).1.lists
      (s.deliver t key documentId attemptsMade).2 := by
  rw [State.deliver]
  repeat' split
  all_goals exact .other _ _ (by simp)

theorem work_lists (key : Nat) (fate : Fate) :
    ListStep s t (.work key fate) (s.work env t key fate).1.lists (s.work env t key fate).2 := by
  rw [State.work]
  repeat' split
  all_goals exact .other _ _ (by simp)

theorem crash_lists (key : Nat) :
    ListStep s t (.crash key) (s.crash t key).1.lists (s.crash t key).2 := by
  rw [State.crash]
  repeat' split
  all_goals exact .other _ _ (by simp)

theorem step_lists (e : Event) :
    ListStep s e.tenant e.action (step env s e).1.lists (step env s e).2 := by
  obtain ⟨t, action⟩ := e
  cases action with
  | upload key userId file => exact upload_lists s t key userId file
  | storageSave key uuid fails => exact storageSave_lists env s t key uuid fails
  | documentCreate key uuid now fails => exact documentCreate_lists env s t key uuid now fails
  | queueAdd key fails => exact queueAdd_lists s t key fails
  | list key query => exact list_lists s t key query
  | findMany key order fails => exact findMany_lists s t key order fails
  | count key fails => exact count_lists s t key fails
  | findOne id fails => exact findOne_lists s t id fails
  | deliver key documentId attemptsMade => exact deliver_lists s t key documentId attemptsMade
  | work key fate => exact work_lists env s t key fate
  | crash key => exact crash_lists s t key

end Steps

section Observed
variable (env : Env) (start : State)

/-- A state that the run has been in since the events `begins`. -/
def During (begins es : List Event) (s : State) : Prop :=
  ∃ xs, begins <+: xs ∧ xs <+: es ∧ s = Machine.run (step env) start xs

/-- The results that a call has collected come from states since it began. -/
structure Observed (t : Uuid) (begins es : List Event) (c : ListCall) : Prop where
  own : c.tenantId = t.val
  begun : ⟨t, .list c.key c.query⟩ ∈ begins.getLast?
  earlier : begins <+: es
  items : ∀ items ∈ c.items, ∃ s order, During env start begins es s ∧
    items = listItems t.scope s.db c.query order
  total : ∀ total ∈ c.total, ∃ s, During env start begins es s ∧
    total = listTotal t.scope s.db c.query

variable {env start}

theorem During.later {begins es : List Event} {s : State} (h : During env start begins es s)
    (e : Event) : During env start begins (es ++ [e]) s := by
  obtain ⟨xs, begun, reached, rfl⟩ := h
  exact ⟨xs, begun, reached.trans (List.prefix_append _ _), rfl⟩

theorem During.now {begins es : List Event} (h : begins <+: es) :
    During env start begins es (Machine.run (step env) start es) :=
  ⟨es, h, List.prefix_refl es, rfl⟩

theorem Observed.later {t : Uuid} {begins es : List Event} {c : ListCall}
    (h : Observed env start t begins es c) (e : Event) :
    Observed env start t begins (es ++ [e]) c where
  own := h.own
  begun := h.begun
  earlier := h.earlier.trans (List.prefix_append _ _)
  items := fun items mem => by
    obtain ⟨s, order, reached, same⟩ := h.items items mem
    exact ⟨s, order, reached.later e, same⟩
  total := fun total mem => by
    obtain ⟨s, reached, same⟩ := h.total total mem
    exact ⟨s, reached.later e, same⟩

/-- All calls of a state have been observed so. -/
def Recorded (env : Env) (start : State) (es : List Event) (s : State) : Prop :=
  ∀ c ∈ s.lists, ∃ t begins, Observed env start t begins es c

theorem recorded_step (xs : List Event) (e : Event)
    (recorded : Recorded env start xs (Machine.run (step env) start xs)) :
    Recorded env start (xs ++ [e]) (step env (Machine.run (step env) start xs) e).1 := by
  have old : ∀ c ∈ (Machine.run (step env) start xs).lists,
      ∃ t begins, Observed env start t begins (xs ++ [e]) c := by
    intro c before
    obtain ⟨t, begins, observed⟩ := recorded c before
    exact ⟨t, begins, observed.later _⟩
  have listed := step_lists env (Machine.run (step env) start xs) e
  rw [Recorded]
  generalize (step env (Machine.run (step env) start xs) e).1.lists = lists at listed ⊢
  generalize (step env (Machine.run (step env) start xs) e).2 = r at listed
  obtain ⟨t, action⟩ := e
  cases listed with
  | other _ r unpaged => exact old
  | begun key query =>
      refine Table.forall_insert old
        ⟨t, xs ++ [⟨t, .list key query⟩], rfl, by simp, List.prefix_refl _, ?_, ?_⟩
      · exact fun items none => absurd none (Option.not_mem_none items)
      · exact fun total none => absurd none (Option.not_mem_none total)
  | failed _ c mem err =>
      obtain ⟨t', begins, observed⟩ := old c mem
      exact Table.forall_put old ⟨t', begins, observed.own, observed.begun, observed.earlier,
        observed.items, observed.total⟩
  | found c order mem own =>
      obtain ⟨t', begins, observed⟩ := recorded c mem
      obtain rfl : t' = t := Uuid.val_inj.mp (observed.own.symm.trans own)
      have later := observed.later ⟨t', .findMany c.key order none⟩
      refine Table.forall_put old
        ⟨t', begins, later.own, later.begun, later.earlier, ?_, later.total⟩
      intro items seen
      cases seen
      exact ⟨_, order, (During.now observed.earlier).later _, rfl⟩
  | counted c mem own =>
      obtain ⟨t', begins, observed⟩ := recorded c mem
      obtain rfl : t' = t := Uuid.val_inj.mp (observed.own.symm.trans own)
      have later := observed.later ⟨t', .count c.key none⟩
      refine Table.forall_put old
        ⟨t', begins, later.own, later.begun, later.earlier, later.items, ?_⟩
      intro total seen
      cases seen
      exact ⟨_, (During.now observed.earlier).later _, rfl⟩

/-- Every call of a run that began with none. -/
theorem recorded_reached (unlisted : start.lists = .empty) (es : List Event) :
    Recorded env start es (Machine.run (step env) start es) := by
  refine Machine.run_history (step env) (fun c mem => ?_) recorded_step es
  rw [unlisted] at mem
  exact absurd mem (Table.not_mem_empty c)

end Observed

section Response

theorem length_listItems (scope : TenantScope) (db : Database) (query : ListDocumentsQueryDto)
    (order : RowOrder) :
    (listItems scope db query order).length =
      min (pageSize query) (listTotal scope db query - (page query - 1) * pageSize query) := by
  rw [listItems_eq, listTotal_eq, List.length_take, List.length_drop, (order.perm _).length_eq]

/-- The page has the items of a state `s₁` of the call and the total of a state `s₂`, one
of them the state that its last query meets. With as many matching documents in both it
is the page of `s₁` alone. -/
def Snapshots (env : Env) (start : State) (xs : List Event) (e : Event) (p : DocumentPage) : Prop :=
  ∃ t key query begins order s₁ s₂,
    begins.getLast? = some ⟨t, .list key query⟩ ∧
    (e = ⟨t, .findMany key order none⟩ ∨ e = ⟨t, .count key none⟩) ∧
    During env start begins xs s₁ ∧ During env start begins xs s₂ ∧
    (s₁ = Machine.run (step env) start xs ∨ s₂ = Machine.run (step env) start xs) ∧
    p = listResponse query (listItems t.scope s₁.db query order) (listTotal t.scope s₂.db query) ∧
    p.items.length = min p.pageSize (listTotal t.scope s₁.db query - (p.page - 1) * p.pageSize) ∧
    (listTotal t.scope s₁.db query = listTotal t.scope s₂.db query →
      p = listResponse query (listItems t.scope s₁.db query order)
        (listTotal t.scope s₁.db query) ∧
      p.items.length = min p.pageSize (p.total - (p.page - 1) * p.pageSize))

variable {env : Env} {start : State} {xs : List Event} {e : Event}

theorem snapshots_of {t : Uuid} {key : Nat} {query : ListDocumentsQueryDto} {begins : List Event}
    {order : RowOrder} {s₁ s₂ : State} (begun : begins.getLast? = some ⟨t, .list key query⟩)
    (last : e = ⟨t, .findMany key order none⟩ ∨ e = ⟨t, .count key none⟩)
    (itemsDuring : During env start begins xs s₁) (totalDuring : During env start begins xs s₂)
    (now : s₁ = Machine.run (step env) start xs ∨ s₂ = Machine.run (step env) start xs) :
    Snapshots env start xs e
      (listResponse query (listItems t.scope s₁.db query order)
        (listTotal t.scope s₂.db query)) := by
  have length := length_listItems t.scope s₁.db query order
  refine ⟨t, key, query, begins, order, s₁, s₂, begun, last, itemsDuring, totalDuring, now, rfl,
    length, fun same => ?_⟩
  rw [← same]
  exact ⟨rfl, length⟩

/-- Every page that a run answers with is made of two snapshots of the database. -/
theorem list_response_snapshots (env : Env) (start : State) (unlisted : start.lists = .empty)
    (xs : List Event) (e : Event) (p : DocumentPage)
    (answered : (step env (Machine.run (step env) start xs) e).2 = some (.page p)) :
    Snapshots env start xs e p := by
  have recorded : Recorded env start xs (Machine.run (step env) start xs) :=
    recorded_reached unlisted xs
  have listed := step_lists env (Machine.run (step env) start xs) e
  rw [answered] at listed
  generalize (step env (Machine.run (step env) start xs) e).1.lists = lists at listed
  generalize paged : some (Response.page p) = r at listed
  obtain ⟨t, action⟩ := e
  cases listed with
  | other _ r unpaged => exact absurd paged.symm (unpaged p)
  | begun key query => cases paged
  | failed _ c at_c err => cases paged
  | found c order at_c own =>
      obtain ⟨t', begins, observed⟩ := recorded c at_c
      obtain rfl : t' = t := Uuid.val_inj.mp (observed.own.symm.trans own)
      obtain ⟨total, known, same⟩ := Option.map_eq_some_iff.mp paged.symm
      cases same
      obtain ⟨s₂, reached, rfl⟩ := observed.total total known
      exact snapshots_of observed.begun (Or.inl rfl) (During.now observed.earlier) reached
        (Or.inl rfl)
  | counted c at_c own =>
      obtain ⟨t', begins, observed⟩ := recorded c at_c
      obtain rfl : t' = t := Uuid.val_inj.mp (observed.own.symm.trans own)
      obtain ⟨items, known, same⟩ := Option.map_eq_some_iff.mp paged.symm
      cases same
      obtain ⟨s₁, order, reached, rfl⟩ := observed.items items known
      exact snapshots_of observed.begun (Or.inr rfl) reached (During.now observed.earlier)
        (Or.inr rfl)

end Response

namespace Sample

theorem unset_min : ∀ n ∈ (none : Option Nat), 1 ≤ n :=
  fun n hn => absurd hn (Option.not_mem_none n)

theorem unset_max : ∀ n ∈ (none : Option Nat), n ≤ 100 :=
  fun n hn => absurd hn (Option.not_mem_none n)

def firstPage : ListDocumentsQueryDto where
  status := none
  page := none
  pageSize := none
  page_min := unset_min
  pageSize_min := unset_min
  pageSize_max := unset_max

theorem row_arranged : Paging.Arranges Document.createdAt [row] [row] :=
  ⟨List.Perm.refl _, List.pairwise_singleton _ _⟩

def orderRow : RowOrder := RowOrder.showing row_arranged

/-- An upload between the two queries of a list. -/
def torn : List Event :=
  [⟨acme, .list 0 firstPage⟩, ⟨acme, .count 0 none⟩] ++ uploaded acme file1 doc1

end Sample

/-- The items include the new document, the total does not count it: no state has both. -/
theorem list_response_torn :
    (step Sample.env (Machine.run (step Sample.env) (.init [] [] []) Sample.torn)
        ⟨Sample.acme, .findMany 0 Sample.orderRow none⟩).2 =
          some (.page ⟨[Sample.row], 1, 20, 0, 0⟩) ∧
      ∀ (db : Database) (order : RowOrder),
        (⟨[Sample.row], 1, 20, 0, 0⟩ : DocumentPage) ≠
          listResponse Sample.firstPage (listItems Sample.acme.scope db Sample.firstPage order)
            (listTotal Sample.acme.scope db Sample.firstPage) := by
  refine ⟨by decide +kernel, fun db order same => ?_⟩
  have length := length_listItems Sample.acme.scope db Sample.firstPage order
  have items := congrArg (fun p => p.items.length) same
  have total := congrArg DocumentPage.total same
  simp only [listResponse] at items total
  rw [← items, ← total] at length
  simp at length

theorem list_response_snapshots_torn :
    Snapshots Sample.env (.init [] [] []) Sample.torn ⟨Sample.acme, .findMany 0 Sample.orderRow none⟩
      ⟨[Sample.row], 1, 20, 0, 0⟩ :=
  list_response_snapshots Sample.env (.init [] [] []) rfl Sample.torn _ _ (by decide +kernel)

end IdpSaas
