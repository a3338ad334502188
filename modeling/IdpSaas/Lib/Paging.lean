import Mathlib.Data.List.Nodup
import Mathlib.Data.List.Perm.Basic
import Mathlib.Order.Lattice

/-!
Pages cut out of a sorted list by offset. Every page is cut out of an arrangement of its
own: the rows sorted by descending key, with ties in any order. Together the pages always
show the keys of the whole list in order; they show each row once, whatever the
arrangements, exactly when no two rows across a page boundary tie.
-/

namespace Paging

universe u v
variable {α : Type u} {κ : Type v}

def page (size k : Nat) (s : List α) : List α := (s.drop (k * size)).take size

/-- The first `n` pages, the `k`-th cut out of `s k`. -/
def pages (size n : Nat) (s : Nat → List α) : List α :=
  (List.range n).flatMap fun k => page size k (s k)

/-- `⌈total / size⌉`. -/
def pageCount (size total : Nat) : Nat := (total + size - 1) / size

theorem lt_pageCount_iff {size : Nat} (pos : 0 < size) {k total : Nat} :
    k < pageCount size total ↔ k * size < total := by
  rw [pageCount, Nat.lt_iff_add_one_le, Nat.le_div_iff_mul_le pos, Nat.succ_mul]
  omega

theorem page_ne_nil_iff {size : Nat} (pos : 0 < size) {k : Nat} {s : List α} :
    page size k s ≠ [] ↔ k * size < s.length := by
  rw [← List.length_pos_iff, page, List.length_take, List.length_drop]
  omega

theorem mem_page {size k : Nat} {s : List α} {a : α} :
    a ∈ page size k s ↔ ∃ m, m < size ∧ s[k * size + m]? = some a := by
  rw [page, List.mem_iff_getElem?]
  constructor
  · rintro ⟨m, at_m⟩
    rw [List.getElem?_take] at at_m
    split at at_m
    · next inside => exact ⟨m, inside, by rwa [List.getElem?_drop] at at_m⟩
    · cases at_m
  · rintro ⟨m, inside, at_m⟩
    exact ⟨m, by rw [List.getElem?_take, if_pos inside, List.getElem?_drop, at_m]⟩

theorem map_page {β : Type v} (f : α → β) (size k : Nat) (s : List α) :
    (page size k s).map f = page size k (s.map f) := by
  rw [page, page, List.map_take, List.map_drop]

/-- Cut out of one list, the pages are what the list begins with. -/
theorem pages_same (size n : Nat) (s : List α) : pages size n (fun _ => s) = s.take (n * size) := by
  induction n with
  | zero => simp [pages]
  | succ n ih =>
      rw [pages] at ih ⊢
      rw [List.range_succ, List.flatMap_append, ih, List.flatMap_singleton, page, Nat.succ_mul,
        List.take_add]

theorem pages_all {size : Nat} (pos : 0 < size) (s : List α) :
    pages size (pageCount size s.length) (fun _ => s) = s := by
  rw [pages_same]
  apply List.take_of_length_le
  have beyond : ¬pageCount size s.length < pageCount size s.length := Nat.lt_irrefl _
  rw [lt_pageCount_iff pos] at beyond
  exact Nat.le_of_not_lt beyond

section Arrangements
variable [LinearOrder κ] {key : α → κ}

/-- All rows of `l`, by descending key. -/
structure Arranges (key : α → κ) (l s : List α) : Prop where
  perm : s.Perm l
  sorted : s.Pairwise fun a b => key b ≤ key a

/-- Position `i` separates greater keys from smaller ones. -/
def Strict (i : Nat) (keys : List κ) : Prop := ∀ x ∈ keys.take i, ∀ y ∈ keys.drop i, y < x

/-- The last key of a page is never the first of the next. -/
def NoTies (size : Nat) (keys : List κ) : Prop :=
  ∀ k, 1 ≤ k → k * size < keys.length → keys[k * size - 1]? ≠ keys[k * size]?

variable {l s s' : List α}

theorem Arranges.sorted_keys (h : Arranges key l s) :
    (s.map key).Pairwise fun x y => y ≤ x := List.pairwise_map.mpr h.sorted

/-- Only rows that tie differ between arrangements. -/
theorem Arranges.keys_eq (h : Arranges key l s) (h' : Arranges key l s') :
    s.map key = s'.map key := by
  refine List.Perm.eq_of_pairwise ?_ h.sorted_keys h'.sorted_keys
    ((h.perm.trans h'.perm.symm).map key)
  intro x y _ _ le ge
  exact le_antisymm ge le

theorem arranges_mergeSort (key : α → κ) (l : List α) :
    Arranges key l (l.mergeSort fun a b => decide (key b ≤ key a)) where
  perm := List.mergeSort_perm l _
  sorted := by
    have sorted : (l.mergeSort fun a b => decide (key b ≤ key a)).Pairwise
        fun a b => decide (key b ≤ key a) = true := by
      apply List.pairwise_mergeSort
      · exact fun a b c => by simpa using fun ba cb => le_trans cb ba
      · exact fun a b => by simpa using le_total (key b) (key a)
    simpa using sorted

theorem Arranges.keys_sort (h : Arranges key l s) :
    s.map key = (l.map key).mergeSort fun x y => decide (y ≤ x) := by
  have sorted := arranges_mergeSort id (l.map key)
  refine List.Perm.eq_of_pairwise ?_ h.sorted_keys sorted.sorted
    ((h.perm.map key).trans sorted.perm.symm)
  intro x y _ _ le ge
  exact le_antisymm ge le

/-- What stands before a strict position is known by its keys. -/
theorem take_eq_filter {i : Nat} (strict : Strict i (s.map key)) :
    s.take i = s.filter fun a => decide (key a ∈ (s.map key).take i) := by
  have before : (s.take i).filter (fun a => decide (key a ∈ (s.map key).take i)) = s.take i := by
    rw [List.filter_eq_self]
    intro a mem
    rw [decide_eq_true_eq, ← List.map_take]
    exact List.mem_map_of_mem mem
  have after : (s.drop i).filter (fun a => decide (key a ∈ (s.map key).take i)) = [] := by
    rw [List.filter_eq_nil_iff]
    intro a mem
    rw [decide_eq_true_eq]
    intro earlier
    have later : key a ∈ (s.map key).drop i := by
      rw [← List.map_drop]
      exact List.mem_map_of_mem mem
    exact lt_irrefl _ (strict _ earlier _ later)
  calc s.take i
      = (s.take i).filter (fun a => decide (key a ∈ (s.map key).take i)) ++
          (s.drop i).filter (fun a => decide (key a ∈ (s.map key).take i)) := by
        rw [before, after, List.append_nil]
    _ = s.filter fun a => decide (key a ∈ (s.map key).take i) := by
        rw [← List.filter_append, List.take_append_drop]

theorem Arranges.take_perm (h : Arranges key l s) (h' : Arranges key l s') {i : Nat}
    (strict : Strict i (s.map key)) : (s.take i).Perm (s'.take i) := by
  have strict' := strict
  rw [h.keys_eq h'] at strict'
  rw [take_eq_filter strict, take_eq_filter strict', h.keys_eq h']
  exact (h.perm.trans h'.perm.symm).filter _

/-- A page between strict positions holds the same rows in every arrangement. -/
theorem Arranges.page_perm (h : Arranges key l s) (h' : Arranges key l s') {size k : Nat}
    (begins : Strict (k * size) (s.map key)) (ends : Strict (k * size + size) (s.map key)) :
    (page size k s).Perm (page size k s') := by
  have start := h.take_perm h' begins
  have both := h.take_perm h' ends
  rw [List.take_add, List.take_add] at both
  exact (List.perm_append_left_iff _).mp (both.trans (start.symm.append_right _))

theorem getElem_le_of_sorted {keys : List κ} (sorted : keys.Pairwise fun x y => y ≤ x) {m n : Nat}
    (le : m ≤ n) (hn : n < keys.length) : keys[n] ≤ keys[m] := by
  rcases Nat.eq_or_lt_of_le le with rfl | lt
  · exact le_refl _
  · exact List.pairwise_iff_getElem.mp sorted m n (Nat.lt_trans lt hn) hn lt

theorem strict_of_noTies {size : Nat} {keys : List κ} (sorted : keys.Pairwise fun x y => y ≤ x)
    (noTies : NoTies size keys) (k : Nat) : Strict (k * size) keys := by
  intro x hx y hy
  obtain ⟨m, hm, rfl⟩ := List.mem_take_iff_getElem.mp hx
  obtain ⟨n, hn, rfl⟩ := List.mem_drop_iff_getElem.mp hy
  have before : m < k * size := by omega
  have inside : k * size < keys.length := by omega
  have later : 1 ≤ k := Nat.one_le_iff_ne_zero.mpr fun zero => by simp [zero] at before
  have differ := noTies k later inside
  rw [List.getElem?_eq_getElem (by omega), List.getElem?_eq_getElem inside, ne_eq,
    Option.some.injEq] at differ
  calc keys[k * size + n]
      ≤ keys[k * size] := getElem_le_of_sorted sorted (by omega) _
    _ < keys[k * size - 1] :=
        lt_of_le_of_ne (getElem_le_of_sorted sorted (by omega) _) (Ne.symm differ)
    _ ≤ keys[m] := getElem_le_of_sorted sorted (by omega) _

section Pages
variable {size : Nat} {f : Nat → List α}

/-- Whatever the arrangements, the pages show the keys in order. -/
theorem pages_sorted (n : Nat) (hf : ∀ k, Arranges key l (f k)) :
    (pages size n f).Pairwise fun a b => key b ≤ key a := by
  have same : (pages size n f).map key = pages size n fun _ => (f 0).map key := by
    rw [pages, pages, List.map_flatMap]
    apply List.flatMap_congr
    intro k _
    rw [map_page, (hf k).keys_eq (hf 0)]
  rw [← List.pairwise_map (R := fun x y => y ≤ x), same, pages_same]
  exact (hf 0).sorted_keys.sublist (List.take_sublist _ _)

theorem pages_perm (pos : 0 < size) (hf : ∀ k, Arranges key l (f k))
    (noTies : NoTies size ((f 0).map key)) : (pages size (pageCount size l.length) f).Perm l := by
  have strict := strict_of_noTies (hf 0).sorted_keys noTies
  have same : (pages size (pageCount size l.length) f).Perm
      (pages size (pageCount size l.length) fun _ => f 0) := by
    refine List.Perm.flatMap_left _ fun k _ => ((hf 0).page_perm (hf k) (strict k) ?_).symm
    rw [← Nat.succ_mul]
    exact strict (k + 1)
  rw [← (hf 0).perm.length_eq, pages_all pos] at same
  rw [← (hf 0).perm.length_eq]
  exact same.trans (hf 0).perm

/-- Two neighbours that tie may stand the other way round. -/
theorem Arranges.swap {u v : List α} {a b : α} (h : Arranges key l (u ++ a :: b :: v))
    (tie : key a = key b) : Arranges key l (u ++ b :: a :: v) where
  perm := (List.Perm.append_left u (List.Perm.swap a b v)).trans h.perm
  sorted := by
    have sorted := h.sorted_keys
    rw [← List.pairwise_map (R := fun x y => y ≤ x)]
    simpa [tie] using sorted

/-- A row at the end of a page and at the beginning of the next is shown twice. -/
theorem not_nodup_pages {n k : Nat} {a : α} (next : k + 1 < n) (last : a ∈ page size k (f k))
    (first : a ∈ page size (k + 1) (f (k + 1))) : ¬(pages size n f).Nodup := by
  intro nodup
  have apart := (List.nodup_flatMap.mp nodup).2
  have disjoint := List.pairwise_iff_getElem.mp apart k (k + 1)
    (by rw [List.length_range]; omega) (by rwa [List.length_range]) (Nat.lt_succ_self k)
  rw [List.getElem_range, List.getElem_range] at disjoint
  exact disjoint last first

/-- With two rows that tie across a page boundary, there are arrangements in which one
of them is shown twice. -/
theorem exists_repeated (pos : 0 < size) (h : Arranges key l s) (ties : ¬NoTies size (s.map key)) :
    ∃ f : Nat → List α, (∀ k, Arranges key l (f k)) ∧
      ¬(pages size (pageCount size l.length) f).Nodup := by
  simp only [NoTies, not_forall, not_not] at ties
  obtain ⟨_ | j, positive, inside, tie⟩ := ties
  · omega
  rw [List.length_map] at inside
  have boundary : (j + 1) * size = j * size + size := Nat.succ_mul j size
  have before : (j + 1) * size - 1 < s.length := by omega
  obtain ⟨u, v, split, length⟩ : ∃ u v,
      s = u ++ s[(j + 1) * size - 1] :: s[(j + 1) * size] :: v ∧
        u.length = (j + 1) * size - 1 := by
    refine ⟨s.take ((j + 1) * size - 1), s.drop ((j + 1) * size + 1), ?_, ?_⟩
    · have two : (j + 1) * size - 1 + 1 = (j + 1) * size := by omega
      rw [← List.drop_eq_getElem_cons inside]
      conv => rhs; rhs; rhs; rw [← two]
      rw [← List.drop_eq_getElem_cons before, List.take_append_drop]
    · rw [List.length_take]
      omega
  generalize ha : s[(j + 1) * size - 1] = a at split
  generalize hb : s[(j + 1) * size] = b at split
  have same : key a = key b := by
    rw [List.getElem?_map, List.getElem?_map, List.getElem?_eq_getElem before,
      List.getElem?_eq_getElem inside, ha, hb] at tie
    exact Option.some.inj tie
  have swapped : Arranges key l (u ++ b :: a :: v) := (split ▸ h).swap same
  refine ⟨fun k => if k ≤ j then s else u ++ b :: a :: v, fun k => ?_, ?_⟩
  · dsimp only
    split
    · exact h
    · exact swapped
  · refine not_nodup_pages (k := j) (a := a) ?_ ?_ ?_
    · rw [lt_pageCount_iff pos, ← h.perm.length_eq]
      exact inside
    · rw [if_pos (Nat.le_refl j), mem_page]
      refine ⟨size - 1, by omega, ?_⟩
      rw [show j * size + (size - 1) = (j + 1) * size - 1 by omega,
        List.getElem?_eq_getElem before, ha]
    · rw [if_neg (by omega), mem_page]
      refine ⟨0, pos, ?_⟩
      rw [List.getElem?_append_right (by omega), length,
        show (j + 1) * size + 0 - ((j + 1) * size - 1) = 1 by omega]
      rfl

/-- For a list without repetition the pages show each row once, whatever the
arrangements, exactly when no two rows across a page boundary tie. -/
theorem pages_perm_iff (pos : 0 < size) (nodup : l.Nodup) (h : Arranges key l s) :
    (∀ f : Nat → List α, (∀ k, Arranges key l (f k)) →
      (pages size (pageCount size l.length) f).Perm l) ↔ NoTies size (s.map key) := by
  constructor
  · intro all
    by_contra ties
    obtain ⟨f, hf, repeated⟩ := exists_repeated pos h ties
    exact repeated ((all f hf).nodup_iff.mpr nodup)
  · intro noTies f hf
    rw [h.keys_eq (hf 0)] at noTies
    exact pages_perm pos hf noTies

end Pages
end Arrangements
end Paging
