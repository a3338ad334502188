import IdpSaas.Lib.Numeral
import Mathlib.Algebra.BigOperators.Group.List.Basic
import Mathlib.Algebra.Order.BigOperators.Group.List
import Mathlib.Data.List.Forall2
import Mathlib.Data.List.GetD
import Mathlib.Data.Rat.Floor

/-!
`parseConfidence`: the mean over the words that the OCR engine lists in its table, line by
line. Arithmetic is exact; what a text reads as a number, and what it does not, is as in
the script.
-/

namespace IdpSaas
namespace Ocr
open Numeral

/-- A sum or a quotient is exact where the numbers are finite. -/
def add : Number → Number → Number
  | .finite a, .finite b => .finite (a + b)
  | .nan, _ | _, .nan => .nan
  | .infinity a, .infinity b => if a = b then .infinity a else .nan
  | .infinity a, .finite _ | .finite _, .infinity a => .infinity a

def divide : Number → Nat → Number
  | .finite q, n => .finite (q / n)
  | x, _ => x

/-- `!Number.isNaN(conf) && conf >= 0`. -/
def nonnegative : Number → Bool
  | .nan => false
  | .infinity negative => !negative
  | .finite q => decide (0 ≤ q)

/-- `Number(x.toFixed(4))`: the nearest multiple, away from zero in the middle. -/
def toFixed4 : Number → Number
  | .finite q => .finite (signed (decide (q < 0)) (⌊|q| * 10000 + 1 / 2⌋ / 10000))
  | x => x

def columns (line : List Char) : List (List Char) := line.splitOn '\t'

def scoreLine (confidences : List Number) (line : List Char) : List Number :=
  let cols := columns line
  if cols.length < 12 then confidences
  else
    let conf := parseFloat (cols.getD 10 [])
    let word := cols.getD 11 []
    if nonnegative conf = true ∧ word ≠ [] ∧ Text.trim word ≠ [] then confidences ++ [conf]
    else confidences

def rows (tsv : String) : List (List Char) := (Text.lines tsv.toList).drop 1

def confidences (tsv : String) : List Number := (rows tsv).foldl scoreLine []

/-- The score before it is rounded. -/
def score (tsv : String) : Number :=
  if confidences tsv = [] then .finite 0
  else
    let avg := divide ((confidences tsv).foldl add (.finite 0)) (confidences tsv).length
    divide avg 100

def parseConfidence (tsv : String) : Number :=
  if confidences tsv = [] then .finite 0 else toFixed4 (score tsv)

/-- The line lists a word: it has twelve columns, a confidence from zero up, and a word
that is not blank. -/
def Counted (line : List Char) : Prop :=
  12 ≤ (columns line).length ∧ nonnegative (parseFloat ((columns line).getD 10 [])) = true ∧
    Text.trim ((columns line).getD 11 []) ≠ []

instance (line : List Char) : Decidable (Counted line) := inferInstanceAs (Decidable (_ ∧ _ ∧ _))

def words (tsv : String) : List (List Char) := (rows tsv).filter fun line => Counted line

def confidence (line : List Char) : Number := parseFloat ((columns line).getD 10 [])

def exact : Number → Rat
  | .finite q => q
  | _ => 0

/-- The words have finite confidences. -/
def Finite (tsv : String) : Prop :=
  ∀ line ∈ words tsv, confidence line = .finite (exact (confidence line))

instance (tsv : String) : Decidable (Finite tsv) := inferInstanceAs (Decidable (∀ line ∈ _, _))

def wordConfidences (tsv : String) : List Rat := (words tsv).map fun line => exact (confidence line)

def mean (qs : List Rat) : Rat := qs.sum / qs.length

section Mean

theorem scoreLine_eq (acc : List Number) (line : List Char) :
    scoreLine acc line = acc ++ if Counted line then [confidence line] else [] := by
  rw [scoreLine]
  by_cases short : (columns line).length < 12
  · rw [if_pos short, if_neg fun counted : Counted line => Nat.not_lt.mpr counted.1 short, List.append_nil]
  · have long := Nat.not_lt.mp short
    have blank : Text.trim ((columns line).getD 11 []) ≠ [] → (columns line).getD 11 [] ≠ [] := by
      intro nonblank empty
      rw [empty] at nonblank
      exact nonblank rfl
    rw [if_neg short]
    dsimp only
    by_cases counted : nonnegative (parseFloat ((columns line).getD 10 [])) = true ∧
        Text.trim ((columns line).getD 11 []) ≠ []
    · rw [if_pos ⟨counted.1, blank counted.2, counted.2⟩, if_pos (show Counted line from ⟨long, counted⟩)]
      rfl
    · rw [if_neg fun h => counted ⟨h.1, h.2.2⟩, if_neg fun h : Counted line => counted h.2,
        List.append_nil]

theorem foldl_scoreLine (acc : List Number) (lines : List (List Char)) :
    lines.foldl scoreLine acc = acc ++ (lines.filter fun line => Counted line).map confidence := by
  induction lines generalizing acc with
  | nil => exact (List.append_nil acc).symm
  | cons line rest ih =>
      rw [List.foldl_cons, ih, scoreLine_eq, List.append_assoc]
      by_cases counted : Counted line
      · rw [if_pos counted, List.filter_cons_of_pos (by simpa using counted)]
        rfl
      · rw [if_neg counted, List.filter_cons_of_neg (by simpa using counted)]
        rfl

theorem confidences_eq (tsv : String) : confidences tsv = (words tsv).map confidence := by
  rw [confidences, foldl_scoreLine, List.nil_append]
  rfl

theorem foldl_add (q : Rat) (qs : List Rat) :
    (qs.map Number.finite).foldl add (.finite q) = .finite (q + qs.sum) := by
  induction qs generalizing q with
  | nil => simp
  | cons p ps ih =>
      rw [List.map_cons, List.foldl_cons, add, ih, List.sum_cons, add_assoc]

variable {tsv : String}

theorem confidences_of_finite (finite : Finite tsv) :
    confidences tsv = (wordConfidences tsv).map Number.finite := by
  rw [confidences_eq, wordConfidences, List.map_map]
  exact List.map_congr_left finite

theorem score_eq_mean (finite : Finite tsv) :
    score tsv = .finite (mean (wordConfidences tsv) / 100) := by
  rw [score, confidences_of_finite finite, mean]
  cases wordConfidences tsv with
  | nil => simp
  | cons q qs =>
      rw [if_neg (by simp)]
      dsimp only
      rw [foldl_add, zero_add, List.length_map, divide, divide]
      norm_num

theorem wordConfidences_nonneg (finite : Finite tsv) : ∀ q ∈ wordConfidences tsv, 0 ≤ q := by
  intro q hq
  obtain ⟨line, mem, rfl⟩ := List.mem_map.mp hq
  have counted : Counted line := of_decide_eq_true (List.mem_filter.mp mem).2
  have from_zero : nonnegative (confidence line) = true := counted.2.1
  rw [finite line mem] at from_zero
  exact of_decide_eq_true from_zero

/-- The mean of numbers up to a bound is one. -/
theorem mean_mem {qs : List Rat} {bound : Rat} (nonneg : 0 ≤ bound) (low : ∀ q ∈ qs, 0 ≤ q)
    (high : ∀ q ∈ qs, q ≤ bound) : 0 ≤ mean qs ∧ mean qs ≤ bound := by
  have sum : qs.sum ≤ qs.length * bound := by
    have := List.sum_le_card_nsmul qs bound high
    rwa [nsmul_eq_mul] at this
  have total : 0 ≤ qs.sum := List.sum_nonneg low
  have count : (0 : Rat) ≤ qs.length := Nat.cast_nonneg _
  refine ⟨div_nonneg total count, ?_⟩
  rcases count.eq_or_lt with none | some
  · rw [mean, ← none, div_zero]
    exact nonneg
  · rw [mean, div_le_iff₀ some, mul_comm]
    exact sum

theorem toFixed4_mem {q : Rat} (low : 0 ≤ q) (high : q ≤ 1) :
    ∃ r, toFixed4 (.finite q) = .finite r ∧ 0 ≤ r ∧ r ≤ 1 := by
  refine ⟨⌊|q| * 10000 + 1 / 2⌋ / 10000, ?_, ?_, ?_⟩
  · rw [toFixed4, decide_eq_false (not_lt.mpr low)]
    rfl
  · rw [abs_of_nonneg low]
    have nonneg : 0 ≤ ⌊q * 10000 + 1 / 2⌋ := Int.floor_nonneg.mpr (by linarith)
    have cast : (0 : Rat) ≤ (⌊q * 10000 + 1 / 2⌋ : Int) := by exact_mod_cast nonneg
    linarith
  · rw [abs_of_nonneg low]
    have below : ⌊q * 10000 + 1 / 2⌋ < 10001 := by
      rw [Int.floor_lt]
      push_cast
      linarith
    have cast : (⌊q * 10000 + 1 / 2⌋ : Rat) ≤ 10000 := by
      exact_mod_cast Int.lt_add_one_iff.mp below
    linarith

end Mean

section Layout
variable {tsv tsv' : String}

theorem mean_perm {qs ps : List Rat} (h : qs.Perm ps) : mean qs = mean ps := by
  rw [mean, mean, h.sum_eq, h.length_eq]

theorem Finite.perm (finite : Finite tsv) (same : (words tsv').Perm (words tsv)) : Finite tsv' :=
  fun line mem => finite line (same.mem_iff.mp mem)

theorem parseConfidence_eq_mean (finite : Finite tsv) :
    parseConfidence tsv =
      if wordConfidences tsv = [] then .finite 0
      else toFixed4 (.finite (mean (wordConfidences tsv) / 100)) := by
  rw [parseConfidence, score_eq_mean finite, confidences_of_finite finite]
  simp only [List.map_eq_nil_iff]

theorem parseConfidence_perm (finite : Finite tsv) (same : (words tsv').Perm (words tsv)) :
    parseConfidence tsv' = parseConfidence tsv := by
  have listed : (wordConfidences tsv').Perm (wordConfidences tsv) := same.map _
  rw [parseConfidence_eq_mean finite, parseConfidence_eq_mean (finite.perm same),
    mean_perm listed]
  simp only [← List.length_eq_zero_iff, listed.length_eq]

def contribution (line : List Char) : Option Number :=
  if Counted line then some (confidence line) else none

theorem confidences_eq_filterMap (tsv : String) :
    confidences tsv = (rows tsv).filterMap contribution := by
  rw [confidences_eq, words]
  induction rows tsv with
  | nil => rfl
  | cons line rest ih =>
      by_cases counted : Counted line
      · have adds : contribution line = some (confidence line) := if_pos counted
        rw [List.filter_cons_of_pos (by simpa using counted), List.map_cons, ih,
          List.filterMap_cons_some adds]
      · have silent : contribution line = none := if_neg counted
        rw [List.filter_cons_of_neg (by simpa using counted), ih, List.filterMap_cons_none silent]

theorem contribution_congr {line line' : List Char}
    (length : (columns line').length = (columns line).length)
    (number : 12 ≤ (columns line).length → (columns line').getD 10 [] = (columns line).getD 10 [])
    (word : 12 ≤ (columns line).length → Text.trim ((columns line').getD 11 []) =
      Text.trim ((columns line).getD 11 [])) : contribution line' = contribution line := by
  by_cases long : 12 ≤ (columns line).length
  · have same : Counted line' ↔ Counted line := by
      rw [Counted, Counted, length, number long, word long]
    simp only [contribution, same, confidence, number long]
  · have short : ¬Counted line' := fun counted => long (length ▸ counted.1)
    rw [contribution, contribution, if_neg short, if_neg fun counted => long counted.1]

/-- A carriage return at the end of a line is white space behind its last column. -/
theorem contribution_return (line : List Char) :
    contribution (line ++ ['\r']) = contribution line := by
  have other : '\r' ≠ '\t' := by decide
  obtain ⟨init, last, before, after⟩ := Text.splitOn_concat other line
  change columns line = _ at before
  change columns (line ++ ['\r']) = _ at after
  have early : ∀ n x, n < init.length → (init ++ [x]).getD n [] = init.getD n [] := by
    intro n x h
    rw [List.getD_append _ _ _ _ h]
  refine contribution_congr ?_ (fun long => ?_) fun long => ?_
  · rw [before, after, List.length_append, List.length_append]
    rfl
  · rw [before, List.length_append, List.length_singleton] at long
    rw [before, after, early 10 _ (by omega), early 10 _ (by omega)]
  · rw [before, List.length_append, List.length_singleton] at long
    rw [before, after]
    by_cases last_ : init.length = 11
    · have at_end : ∀ x, (init ++ [x]).getD 11 [] = x := by
        intro x
        rw [← last_, List.getD_append_right _ _ _ _ (Nat.le_refl _), Nat.sub_self]
        rfl
      rw [at_end, at_end, Text.trim_concat_space _ (by decide)]
    · rw [early 11 _ (by omega), early 11 _ (by omega)]

/-- Line ends of either kind give the same confidences. -/
theorem confidences_crlf (tsv : String) :
    confidences (String.ofList (Text.crlf tsv.toList)) = confidences tsv := by
  rw [confidences_eq_filterMap, confidences_eq_filterMap, rows, rows, String.toList_ofList]
  have ends := List.forall₂_drop 1 (Text.lines_crlf tsv.toList)
  revert ends
  generalize (Text.lines tsv.toList).drop 1 = before,
    (Text.lines (Text.crlf tsv.toList)).drop 1 = after
  intro ends
  induction ends with
  | nil => rfl
  | @cons line line' _ _ same _ ih =>
      have adds : contribution line' = contribution line := by
        rcases same with rfl | rfl
        · rfl
        · exact contribution_return line
      rw [List.filterMap_cons, List.filterMap_cons, adds, ih]

end Layout

/-- Before rounding, the score is a hundredth of the mean confidence of the words, and zero
without words; it is between zero and one when they are between zero and a hundred; and
only the words count, in whatever order, whatever other lines there are between them, and
whatever the line ends. -/
theorem confidence_is_mean (tsv : String) (finite : Finite tsv) :
    score tsv = .finite (mean (wordConfidences tsv) / 100) ∧
      (words tsv = [] → parseConfidence tsv = .finite 0) ∧
      (words tsv ≠ [] → parseConfidence tsv = toFixed4 (score tsv)) ∧
      ((∀ q ∈ wordConfidences tsv, q ≤ 100) →
        ∃ q, parseConfidence tsv = .finite q ∧ 0 ≤ q ∧ q ≤ 1) ∧
      (∀ tsv', (words tsv').Perm (words tsv) → parseConfidence tsv' = parseConfidence tsv) ∧
      parseConfidence (String.ofList (Text.crlf tsv.toList)) = parseConfidence tsv := by
  have none : confidences tsv = [] ↔ words tsv = [] := by
    rw [confidences_eq, List.map_eq_nil_iff]
  refine ⟨score_eq_mean finite, fun empty => if_pos (none.mpr empty),
    fun some => if_neg fun empty => some (none.mp empty), fun bounded => ?_,
    fun tsv' same => parseConfidence_perm finite same, ?_⟩
  · rw [parseConfidence_eq_mean finite]
    split
    · exact ⟨0, rfl, le_refl 0, zero_le_one⟩
    · have bounds := mean_mem (by norm_num) (wordConfidences_nonneg finite) bounded
      exact toFixed4_mem (by linarith) (by linarith)
  · rw [parseConfidence, parseConfidence, score, score, confidences_crlf]

namespace Sample

/-- A table with a row for the page and two for words. -/
def table : String :=
  "level\tpage_num\tblock_num\tpar_num\tline_num\tword_num\tleft\ttop\twidth\theight\tconf\ttext\n" ++
    "1\t1\t0\t0\t0\t0\t0\t0\t640\t480\t-1\t\n" ++
    "5\t1\t1\t1\t1\t1\t10\t10\t80\t20\t96.5\tInvoice\n" ++
    "5\t1\t1\t1\t1\t2\t95\t10\t40\t20\t90\tNo.\n"

end Sample

theorem confidence_is_mean_table : score Sample.table = .finite (mean [193 / 2, 90] / 100) := by
  have words : wordConfidences Sample.table = [193 / 2, 90] := by decide +kernel
  rw [← words]
  exact (confidence_is_mean Sample.table (by decide +kernel)).1

end Ocr
end IdpSaas
