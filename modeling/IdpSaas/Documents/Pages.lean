import IdpSaas.Documents
import IdpSaas.Lib.Paging

/-!
The pages of `list` over a database that does not change. Rows are sorted by creation
time alone, and the database may order rows of one time anew for every query. Together
the pages show every matching document exactly once, whatever it does, exactly when no
two documents across a page boundary were created at the same time.
-/

namespace IdpSaas
open DocumentsService Paging

/-- The query for the page after `k` others. -/
def ListDocumentsQueryDto.atPage (query : ListDocumentsQueryDto) (k : Nat) :
    ListDocumentsQueryDto :=
  { query with
    page := some (k + 1)
    page_min := fun n hn => by
      cases hn
      omega }

/-- The tenant's documents, of the status asked for if there is one. -/
def matching (t : String) (query : ListDocumentsQueryDto) (db : Database) : List Document :=
  db.documents.filter fun d => d.tenantId == t && query.status.all fun status => d.status == status

/-- Their creation times, newest first. -/
def creationTimes (t : String) (query : ListDocumentsQueryDto) (db : Database) : List Time :=
  ((matching t query db).map Document.createdAt).mergeSort fun x y => decide (y ≤ x)

section Pages
variable {scope : TenantScope} {db : Database} {query : ListDocumentsQueryDto}

/-- `totalPages` of every response. -/
def totalPages (scope : TenantScope) (db : Database) (query : ListDocumentsQueryDto) : Nat :=
  (listResponse query [] (listTotal scope db query)).totalPages

/-- The items of all pages, each page ordered in its own way. -/
def shown (scope : TenantScope) (db : Database) (query : ListDocumentsQueryDto)
    (orders : Nat → RowOrder) : List Document :=
  (List.range (totalPages scope db query)).flatMap fun k =>
    listItems scope db (query.atPage k) (orders k)

structure PagesPartition (scope : TenantScope) (db : Database) (query : ListDocumentsQueryDto)
    (orders : Nat → RowOrder) : Prop where
  once : (shown scope db query orders).Perm (matching scope.tenantId query db)
  newestFirst : (shown scope db query orders).Pairwise fun a b => b.createdAt ≤ a.createdAt
  nonempty : ∀ k, listItems scope db (query.atPage k) (orders k) ≠ [] ↔
    k + 1 ≤ totalPages scope db query
  total : ∀ k, listTotal scope db (query.atPage k) = (matching scope.tenantId query db).length

theorem holds_listWhere (t : String) (query : ListDocumentsQueryDto) :
    ((listWhere query).withTenantId t).holds =
      fun d => d.tenantId == t && query.status.all fun status => d.status == status := by
  funext d
  rw [Where.holds_withTenantId]
  refine congrArg (d.tenantId == t && ·) ?_
  rw [listWhere]
  cases query.status with
  | none => rfl
  | some status =>
      exact @Where.holds_column Document _ Document.Column.status
        (fun x : DocumentStatus => x == status) d

theorem pageSize_pos (query : ListDocumentsQueryDto) : 0 < pageSize query := by
  rw [pageSize]
  cases given : query.pageSize with
  | none => decide
  | some n => exact query.pageSize_min n given

theorem listItems_page (scope : TenantScope) (db : Database) (query : ListDocumentsQueryDto)
    (k : Nat) (order : RowOrder) :
    listItems scope db (query.atPage k) order =
      page (pageSize query) k (order.arrange (matching scope.tenantId query db)) := by
  rw [listItems_eq, holds_listWhere]
  rfl

theorem listTotal_matching (scope : TenantScope) (db : Database) (query : ListDocumentsQueryDto) :
    listTotal scope db query = (matching scope.tenantId query db).length := by
  rw [listTotal_eq, holds_listWhere]
  rfl

theorem totalPages_eq (scope : TenantScope) (db : Database) (query : ListDocumentsQueryDto) :
    totalPages scope db query =
      pageCount (pageSize query) (matching scope.tenantId query db).length := by
  rw [totalPages, listTotal_matching]
  rfl

theorem shown_eq (scope : TenantScope) (db : Database) (query : ListDocumentsQueryDto)
    (orders : Nat → RowOrder) :
    shown scope db query orders =
      pages (pageSize query) (pageCount (pageSize query) (matching scope.tenantId query db).length)
        fun k => (orders k).arrange (matching scope.tenantId query db) := by
  rw [shown, totalPages_eq, pages]
  apply List.flatMap_congr
  intro k _
  exact listItems_page scope db query k (orders k)

theorem RowOrder.arranges (order : RowOrder) (l : List Document) :
    Arranges Document.createdAt l (order.arrange l) where
  perm := order.perm l
  sorted := by simpa using order.newestFirst l

/-- A database that returns the rows `l` in the order `s`. -/
def RowOrder.showing {l s : List Document} (h : Arranges Document.createdAt l s) : RowOrder where
  arrange x := if x = l then s else x.mergeSort fun a b => decide (b.createdAt ≤ a.createdAt)
  perm x := by
    split
    · next same => exact same ▸ h.perm
    · exact (arranges_mergeSort Document.createdAt x).perm
  newestFirst x := by
    split
    · simpa using h.sorted
    · simpa using (arranges_mergeSort Document.createdAt x).sorted

theorem RowOrder.arrange_showing {l s : List Document} (h : Arranges Document.createdAt l s) :
    (RowOrder.showing h).arrange l = s := if_pos rfl

/-- All but the first part holds of any pages. -/
theorem pagesPartition_iff_once {orders : Nat → RowOrder} :
    PagesPartition scope db query orders ↔
      (shown scope db query orders).Perm (matching scope.tenantId query db) := by
  constructor
  · exact PagesPartition.once
  · refine fun once => ⟨once, ?_, fun k => ?_, fun k => listTotal_matching scope db _⟩
    · rw [shown_eq]
      exact pages_sorted _ fun k => (orders k).arranges _
    · rw [listItems_page, page_ne_nil_iff (pageSize_pos query), ((orders k).perm _).length_eq,
        totalPages_eq]
      exact (lt_pageCount_iff (pageSize_pos query)).symm

/-- For documents with unique ids the pages partition the list, whatever the database
does, exactly when no creation time is shared across a page boundary. -/
theorem pages_partition_iff (scope : TenantScope) (db : Database) (query : ListDocumentsQueryDto)
    (ids : (db.documents.map Document.id).Nodup) :
    (∀ orders, PagesPartition scope db query orders) ↔
      NoTies (pageSize query) (creationTimes scope.tenantId query db) := by
  have nodup : (matching scope.tenantId query db).Nodup := (ids.of_map _).filter _
  have sorted := arranges_mergeSort Document.createdAt (matching scope.tenantId query db)
  rw [creationTimes, ← sorted.keys_sort, ← pages_perm_iff (pageSize_pos query) nodup sorted]
  constructor
  · intro all f hf
    have once := (all fun k => RowOrder.showing (hf k)).once
    rw [shown_eq] at once
    simpa only [RowOrder.arrange_showing] using once
  · intro all orders
    rw [pagesPartition_iff_once, shown_eq]
    exact all _ fun k => (orders k).arranges _

end Pages

namespace Sample

theorem acme_ne_empty : "acme" ≠ "" := by decide

def acmeScope : TenantScope := ⟨"acme", acme_ne_empty⟩

/-- Documents that were created in one millisecond. -/
def twin (id : String) : Document where
  id := id
  originalName := "scan.jpg"
  storagePath := "acme/scan.jpg"
  mimeType := "image/jpeg"
  sizeBytes := 4
  checksumSha256 := none
  status := .pending
  errorMessage := none
  retryCount := 0
  extractedData := none
  tenantId := "acme"
  uploadedById := "user"
  createdAt := 5
  processingStartedAt := none
  processedAt := none

def twins : Database := ⟨[], [], [], [twin "first", twin "second"]⟩

def oneByOne : ListDocumentsQueryDto where
  status := none
  page := none
  pageSize := some 1
  page_min := by simp
  pageSize_min := by simp
  pageSize_max := by simp

theorem twins_arranged : Arranges Document.createdAt twins.documents twins.documents where
  perm := List.Perm.refl _
  sorted := by decide

theorem twins_swapped : Arranges Document.createdAt twins.documents [twin "second", twin "first"] where
  perm := List.Perm.swap _ _ _
  sorted := by decide

/-- The first query returns the twins one way round, every later one the other. -/
def flipping (k : Nat) : RowOrder :=
  if k = 0 then RowOrder.showing twins_arranged else RowOrder.showing twins_swapped

/-- One of the documents was created later. -/
def apart : Database := ⟨[], [], [], [twin "first", { twin "second" with createdAt := 6 }]⟩

theorem apart_times : creationTimes "acme" oneByOne apart = [6, 5] := by
  have sorted : Arranges Document.createdAt (matching "acme" oneByOne apart)
      [{ twin "second" with createdAt := 6 }, twin "first"] :=
    ⟨List.Perm.swap _ _ _, by decide⟩
  exact sorted.keys_sort.symm

end Sample

/-- One of the twins is on both pages, and the other on none. -/
theorem pages_repeat_twin :
    shown Sample.acmeScope Sample.twins Sample.oneByOne Sample.flipping =
        [Sample.twin "first", Sample.twin "first"] ∧
      ¬PagesPartition Sample.acmeScope Sample.twins Sample.oneByOne Sample.flipping := by
  have items : shown Sample.acmeScope Sample.twins Sample.oneByOne Sample.flipping =
      [Sample.twin "first", Sample.twin "first"] := by decide +kernel
  refine ⟨items, fun partition => ?_⟩
  have once := partition.once
  rw [items] at once
  have lost : Sample.twin "second" ∈ [Sample.twin "first", Sample.twin "first"] :=
    once.mem_iff.mpr (by decide +kernel)
  exact absurd lost (by decide)

theorem pages_partition_apart :
    PagesPartition Sample.acmeScope Sample.apart Sample.oneByOne Sample.flipping := by
  refine (pages_partition_iff Sample.acmeScope Sample.apart Sample.oneByOne (by decide)).mpr ?_ _
  intro k positive inside
  rw [show Sample.acmeScope.tenantId = "acme" from rfl, Sample.apart_times] at inside ⊢
  obtain rfl : k = 1 := by
    have two : k * 1 < 2 := inside
    omega
  decide

end IdpSaas
