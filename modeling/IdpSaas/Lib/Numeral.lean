import IdpSaas.Lib.Text
import Mathlib.Algebra.Order.Field.Rat
import Mathlib.Tactic.FieldSimp
import Mathlib.Tactic.Positivity
import Mathlib.Tactic.Linarith
import Mathlib.Tactic.IntervalCases
import Mathlib.Tactic.Ring

/-!
Decimal numerals in texts: digits with a fraction and an exponent, the numbers they
denote, and the readers of scripts. `parseFloat` takes the longest numeral that a text
begins with, `parseInt` only its digits before a point, and a number field the whole text.
-/

namespace Numeral

abbrev Digit := Fin 10

def digit (c : Char) : Digit := Fin.ofNat 10 (c.toNat - 48)

/-- The number that digits denote, the first of which counts most. -/
def number (ds : List Digit) : Nat := ds.foldl (fun n d => 10 * n + d.val) 0

def digits (s : List Char) : List Digit := (s.takeWhile Char.isDigit).map digit

def afterDigits (s : List Char) : List Char := s.dropWhile Char.isDigit

def sign : List Char → Bool × List Char
  | [] => (false, [])
  | c :: s => if c = '-' then (true, s) else if c = '+' then (false, s) else (false, c :: s)

end Numeral

open Numeral

structure Numeral where
  negative : Bool
  whole : List Digit
  fraction : List Digit
  exponent : Int
  deriving DecidableEq, Repr

namespace Numeral

def signed {α : Type} [Neg α] (negative : Bool) (x : α) : α := if negative then -x else x

def magnitude (d : Numeral) : Rat :=
  number (d.whole ++ d.fraction) * (10 : Rat) ^ (d.exponent - d.fraction.length)

def value (d : Numeral) : Rat := signed d.negative d.magnitude

def fractionPart : List Char → List Digit × List Char
  | '.' :: s => (digits s, afterDigits s)
  | s => ([], s)

/-- The exponent, when there are digits in it. -/
def exponentPart : List Char → Int × List Char
  | [] => (0, [])
  | c :: s =>
      if c = 'e' ∨ c = 'E' then
        match digits (sign s).2 with
        | [] => (0, c :: s)
        | ds => (signed (sign s).1 (number ds : Int), afterDigits (sign s).2)
      else (0, c :: s)

/-- The longest numeral that a text begins with, and what follows it. -/
def scan (s : List Char) : Option (Numeral × List Char) :=
  let body := (sign s).2
  let fraction := fractionPart (afterDigits body)
  let exponent := exponentPart fraction.2
  if digits body = [] ∧ fraction.1 = [] then none
  else some (⟨(sign s).1, digits body, fraction.1, exponent.1⟩, exponent.2)

/-- A text that is one numeral, with white space around it. -/
def read (s : List Char) : Option Numeral :=
  match scan (Text.trim s) with
  | some (d, []) => some d
  | _ => none

/-- The integer whose digits a text begins with, after white space and a sign. -/
def parseInt (s : List Char) : Option Int :=
  match digits (sign (Text.trimStart s)).2 with
  | [] => none
  | ds => some (signed (sign (Text.trimStart s)).1 (number ds : Int))

/-- The numbers of scripts, as far as a text can be read as one. -/
inductive Number
  | nan
  | infinity (negative : Bool)
  | finite (q : Rat)
  deriving DecidableEq, Repr

/-- The number whose numeral a text begins with, after white space. -/
def parseFloat (s : List Char) : Number :=
  if "Infinity".toList.isPrefixOf (sign (Text.trimStart s)).2 then
    .infinity (sign (Text.trimStart s)).1
  else
    match scan (Text.trimStart s) with
    | some (d, _) => .finite d.value
    | none => .nan

def leading (d : Numeral) : Option Int :=
  match d.whole with
  | [] => none
  | ds => some (signed d.negative (number ds : Int))

/-- Written as an integer: nothing but zeros behind the point, and no shift by the exponent. -/
def Plain (d : Numeral) : Prop :=
  d.whole ≠ [] ∧ (∀ c ∈ d.fraction, c = 0) ∧ (d.exponent = 0 ∨ ∀ c ∈ d.whole, c = 0)

instance (d : Numeral) : Decidable d.Plain := inferInstanceAs (Decidable (_ ∧ _ ∧ _))

section Values

theorem number_concat (ds : List Digit) (d : Digit) : number (ds ++ [d]) = 10 * number ds + d := by
  rw [number, List.foldl_append]
  rfl

theorem number_append (xs ys : List Digit) :
    number (xs ++ ys) = number xs * 10 ^ ys.length + number ys := by
  induction ys using List.reverseRecOn with
  | nil => simp [number]
  | append_singleton ys y ih =>
      rw [← List.append_assoc, number_concat, number_concat, ih, List.length_append,
        List.length_singleton, Nat.pow_succ]
      ring

theorem number_lt (ds : List Digit) : number ds < 10 ^ ds.length := by
  induction ds using List.reverseRecOn with
  | nil => decide
  | append_singleton ds d ih =>
      have small := d.isLt
      rw [number_concat, List.length_append, List.length_singleton, Nat.pow_succ]
      omega

theorem number_eq_zero_iff {ds : List Digit} : number ds = 0 ↔ ∀ c ∈ ds, c = 0 := by
  induction ds using List.reverseRecOn with
  | nil => simp [number]
  | append_singleton ds d ih =>
      rw [number_concat, Nat.add_eq_zero_iff, Nat.mul_eq_zero, ih, Fin.val_eq_zero_iff]
      simp [or_imp, forall_and]

/-- A shift by the exponent changes the number, unless there is nothing to shift. -/
theorem shift_eq_iff {x : Rat} {n : Nat} (low : (n : Rat) ≤ x) (high : x < n + 1) (e : Int) :
    x * 10 ^ e = n ↔ x = n ∧ (e = 0 ∨ n = 0) := by
  constructor
  · intro shifted
    rcases lt_trichotomy e 0 with down | rfl | up
    · -- the number before the shift is at least ten times what it is after
      have ten : (10 : Rat) ≤ 10 ^ (-e) := by
        have := zpow_le_zpow_right₀ (by norm_num : (1 : Rat) ≤ 10) (by omega : 1 ≤ -e)
        rwa [zpow_one] at this
      have back : x = n * 10 ^ (-e) := by
        rw [← shifted, mul_assoc, ← zpow_add₀ (by norm_num : (10 : Rat) ≠ 0), add_neg_cancel,
          zpow_zero, mul_one]
      have grows : (n : Rat) * 10 ≤ x := by
        rw [back]
        exact mul_le_mul_of_nonneg_left ten (Nat.cast_nonneg n)
      have small : (n : Rat) * 9 < 1 := by linarith
      have zero : n = 0 := by
        have : n * 9 < 1 := by exact_mod_cast small
        omega
      subst zero
      exact ⟨by rw [back, Nat.cast_zero, zero_mul], Or.inr rfl⟩
    · rw [zpow_zero, mul_one] at shifted
      exact ⟨shifted, Or.inl rfl⟩
    · have ten : (10 : Rat) ≤ 10 ^ e := by
        have := zpow_le_zpow_right₀ (by norm_num : (1 : Rat) ≤ 10) (by omega : 1 ≤ e)
        rwa [zpow_one] at this
      have nonneg : (0 : Rat) ≤ x := (Nat.cast_nonneg n).trans low
      have grows : x * 10 ≤ n := by
        rw [← shifted]
        exact mul_le_mul_of_nonneg_left ten nonneg
      have zero : x = 0 := by linarith
      have none : (n : Rat) = 0 := by
        have nat : (0 : Rat) ≤ n := Nat.cast_nonneg n
        linarith
      exact ⟨zero.trans none.symm, Or.inr (Nat.cast_eq_zero.mp none)⟩
  · rintro ⟨rfl, same⟩
    rcases same with rfl | rfl
    · rw [zpow_zero, mul_one]
    · rw [Nat.cast_zero, zero_mul]

/-- The digits before the point are the number exactly when it is written as an integer. -/
theorem magnitude_eq_iff (d : Numeral) (digits : d.whole ≠ []) :
    d.magnitude = number d.whole ↔ d.Plain := by
  have scale : (0 : Rat) < 10 ^ d.fraction.length := by positivity
  have tail : (number d.fraction : Rat) < 10 ^ d.fraction.length := by
    exact_mod_cast number_lt d.fraction
  have split : d.magnitude =
      (number d.whole + number d.fraction / 10 ^ d.fraction.length) * 10 ^ d.exponent := by
    rw [magnitude, number_append, zpow_sub₀ (by norm_num : (10 : Rat) ≠ 0), zpow_natCast]
    push_cast
    field_simp
  have low : (number d.whole : Rat) ≤
      number d.whole + number d.fraction / 10 ^ d.fraction.length := by
    have := div_nonneg (Nat.cast_nonneg (α := Rat) (number d.fraction)) scale.le
    linarith
  have high : (number d.whole + number d.fraction / 10 ^ d.fraction.length : Rat) <
      number d.whole + 1 := by
    have := (div_lt_one scale).mpr tail
    linarith
  rw [split, shift_eq_iff low high, Plain, add_eq_left, div_eq_zero_iff, Nat.cast_eq_zero,
    number_eq_zero_iff, number_eq_zero_iff, or_iff_left scale.ne']
  exact ⟨fun h => ⟨digits, h⟩, fun h => h.2⟩

theorem signed_inj {negative : Bool} {x y : Rat} :
    signed negative x = signed negative y ↔ x = y := by
  cases negative with
  | false => exact Iff.rfl
  | true => exact neg_inj

theorem cast_signed (negative : Bool) (n : Nat) :
    ((signed negative (n : Int) : Int) : Rat) = signed negative (n : Rat) := by
  cases negative <;> simp [signed]

/-- Where `parseInt` and the numeral agree. -/
theorem leading_eq_value_iff (d : Numeral) :
    d.leading.map (Int.cast : Int → Rat) = some d.value ↔ d.Plain := by
  rw [leading]
  cases whole : d.whole with
  | nil =>
      constructor
      · exact fun h => nomatch h
      · exact fun plain => absurd whole plain.1
  | cons c cs =>
      have digits : d.whole ≠ [] := whole ▸ List.cons_ne_nil c cs
      rw [Option.map_some, Option.some.injEq, cast_signed, value, signed_inj, ← whole, eq_comm,
        magnitude_eq_iff d digits]

end Values

section Reading

theorem isDigit_of_isSpace {c : Char} (space : Text.isSpace c = true) : c.isDigit = false := by
  by_contra digit
  rw [Bool.not_eq_false, Char.isDigit, Bool.and_eq_true, decide_eq_true_eq,
    decide_eq_true_eq] at digit
  have low : 48 ≤ c.toNat := digit.1
  have high : c.toNat ≤ 57 := digit.2
  rw [Text.isSpace, Bool.or_eq_true, Bool.or_eq_true, decide_eq_true_eq, decide_eq_true_eq,
    List.contains_iff_mem] at space
  rcases space with (tab | wide) | other
  · omega
  · omega
  · simp only [List.mem_cons, List.not_mem_nil, or_false] at other
    omega

theorem digits_append_spaces (s : List Char) {spaces : List Char}
    (h : ∀ c ∈ spaces, Text.isSpace c = true) : digits (s ++ spaces) = digits s := by
  have none : spaces.takeWhile Char.isDigit = [] := by
    cases spaces with
    | nil => rfl
    | cons c cs =>
        rw [List.takeWhile_cons_of_neg]
        rw [isDigit_of_isSpace (h c List.mem_cons_self)]
        exact Bool.false_ne_true
  rw [digits, digits, List.takeWhile_append, none, List.append_nil]
  split
  · next all => rw [(List.takeWhile_prefix _).eq_of_length all]
  · rfl

theorem sign_append {s : List Char} (nonempty : s ≠ []) (t : List Char) :
    sign (s ++ t) = ((sign s).1, (sign s).2 ++ t) := by
  obtain ⟨c, cs, rfl⟩ := List.exists_cons_of_ne_nil nonempty
  rw [List.cons_append, sign, sign]
  split
  · rfl
  · split <;> rfl

theorem scan_nil : scan [] = none := rfl

theorem scan_eq_some {s rest : List Char} {d : Numeral} (h : scan s = some (d, rest)) :
    d.negative = (sign s).1 ∧ d.whole = digits (sign s).2 := by
  rw [scan] at h
  split at h
  · cases h
  · cases h
    exact ⟨rfl, rfl⟩

/-- Of a text that is a numeral, `parseInt` reads the digits before the point. -/
theorem parseInt_of_read {s : List Char} {d : Numeral} (h : read s = some d) :
    parseInt s = d.leading := by
  rw [read] at h
  split at h
  · next d' scanned =>
      cases h
      obtain ⟨negative, whole⟩ := scan_eq_some scanned
      obtain ⟨spaces, start, space⟩ := Text.trimStart_eq s
      have nonempty : Text.trim s ≠ [] := by
        intro empty
        rw [empty, scan_nil] at scanned
        cases scanned
      rw [parseInt, leading, start, sign_append nonempty, digits_append_spaces _ space, ← whole,
        ← negative]
  · cases h

end Reading

section Writing

theorem digit_val {c : Char} (h : c.isDigit = true) : (digit c).val = c.toNat - 48 := by
  rw [Char.isDigit, Bool.and_eq_true, decide_eq_true_eq, decide_eq_true_eq] at h
  have high : c.toNat ≤ 57 := h.2
  exact Nat.mod_eq_of_lt (by omega)

theorem number_map_digit {s : List Char} (h : ∀ c ∈ s, c.isDigit = true) :
    number (s.map digit) = Nat.ofDigitChars 10 s 0 := by
  rw [number, List.foldl_map, Nat.ofDigitChars_eq_foldl]
  refine List.foldl_ext _ _ _ fun n c hc => ?_
  rw [digit_val (h c hc)]
  rfl

theorem scan_digits {s : List Char} (h : ∀ c ∈ s, c.isDigit = true) (nonempty : s ≠ []) :
    scan s = some (⟨false, s.map digit, [], 0⟩, []) := by
  have unsigned : sign s = (false, s) := by
    obtain ⟨c, cs, rfl⟩ := List.exists_cons_of_ne_nil nonempty
    have first := h c List.mem_cons_self
    have minus : c ≠ '-' := by
      rintro rfl
      exact absurd first (by decide)
    have plus : c ≠ '+' := by
      rintro rfl
      exact absurd first (by decide)
    rw [sign, if_neg minus, if_neg plus]
  have all : digits s = s.map digit := by
    rw [digits, List.takeWhile_eq_self_iff.mpr h]
  have none : afterDigits s = [] := List.dropWhile_eq_nil_iff.mpr h
  rw [scan, unsigned]
  dsimp only
  rw [all, none, if_neg fun empty => nonempty (List.map_eq_nil_iff.mp empty.1)]
  rfl

theorem isDigit_of_mem_toDigits {n : Nat} {c : Char} (h : c ∈ Nat.toDigits 10 n) :
    c.isDigit = true :=
  Nat.isDigit_of_mem_toDigits (by decide) (by decide) h

theorem number_toDigits (n : Nat) : number ((Nat.toDigits 10 n).map digit) = n := by
  rw [number_map_digit fun _ => isDigit_of_mem_toDigits, Nat.ofDigitChars_ten_toDigits]

/-- A whole number is written without a leading zero. -/
theorem head_toDigits {n : Nat} (pos : 0 < n) :
    ((Nat.toDigits 10 n).map digit).head? ≠ some 0 := by
  induction n using Nat.strong_induction_on with
  | _ n ih =>
      by_cases small : n < 10
      · rw [Nat.toDigits_of_lt_base small]
        interval_cases n <;> decide
      · have whole : 0 < n / 10 := by omega
        obtain ⟨d, ds, first⟩ := List.exists_cons_of_ne_nil
          (Nat.toDigits_ne_nil (n := n / 10) (b := 10))
        have head := ih (n / 10) (by omega) whole
        rw [Nat.toDigits_of_base_le (by decide) (by omega), first, List.cons_append]
        rw [first] at head
        exact head

end Writing
end Numeral
