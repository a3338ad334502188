import IdpSaas.Lib.Numeral
import Mathlib.Data.Int.Log
import Mathlib.Data.Rat.Floor

/-!
The numbers of scripts are doubles: a numeral is read as the nearest of them, to an even
significand in the middle. Whole numbers below `2 ^ 53` are read exactly.
-/

namespace Double
open Numeral

/-- The nearest whole number, the even one of two. -/
def roundToEven (q : Rat) : Int :=
  let n := ⌊q⌋
  if q - n < 1 / 2 then n
  else if 1 / 2 < q - n then n + 1
  else if n % 2 = 0 then n
  else n + 1

/-- The exponent of the last place of a significand, 53 bits wide. -/
def lastPlace (q : Rat) : Int := max (Int.log 2 |q| - 52) (-1074)

def nearest (q : Rat) : Number :=
  let x := roundToEven (q / 2 ^ lastPlace q) * (2 : Rat) ^ lastPlace q
  if 2 ^ 1024 ≤ |x| then .infinity (decide (x < 0)) else .finite x

def digitValue (c : Char) : Nat :=
  if c.isDigit then c.toNat - 48 else if c.isLower then c.toNat - 87 else c.toNat - 55

/-- The base that a prefix such as `0x` stands for. -/
def baseOf (c : Char) : Option Nat :=
  if c = 'x' ∨ c = 'X' then some 16
  else if c = 'o' ∨ c = 'O' then some 8
  else if c = 'b' ∨ c = 'B' then some 2
  else none

def prefixed : List Char → Option (Nat × List Char)
  | z :: c :: ds => if z = '0' then (baseOf c).map fun base => (base, ds) else none
  | _ => none

def inBase (base : Nat) (ds : List Char) : Number :=
  if ds ≠ [] ∧ ds.all (fun c => c.isAlphanum && decide (digitValue c < base)) = true then
    nearest (ds.foldl (fun n c => base * n + digitValue c) 0 : Nat)
  else .nan

/-- `Number(text)`. -/
def ofText (s : List Char) : Number :=
  let t := Text.trim s
  match t, prefixed t with
  | [], _ => .finite 0
  | _, some (base, ds) => inBase base ds
  | _, none =>
      if (sign t).2 = "Infinity".toList then .infinity (sign t).1
      else
        match scan t with
        | some (d, []) => nearest d.value
        | _ => .nan

theorem roundToEven_intCast (n : Int) : roundToEven n = n := by
  rw [roundToEven, Int.floor_intCast, sub_self, if_pos (by norm_num)]

theorem lastPlace_natCast {n : Nat} (small : n < 2 ^ 53) : lastPlace n ≤ 0 := by
  have bits : Nat.log 2 n < 53 := by
    cases n with
    | zero => exact Nat.log_zero_right 2 ▸ Nat.succ_pos 52
    | succ n => exact Nat.log_lt_of_lt_pow (Nat.succ_ne_zero n) small
  rw [lastPlace, Nat.abs_cast, Int.log_natCast]
  omega

theorem nearest_natCast {n : Nat} (small : n < 2 ^ 53) : nearest n = .finite n := by
  obtain ⟨k, place⟩ := Int.exists_eq_neg_ofNat (lastPlace_natCast small)
  have shift : (n : Rat) / 2 ^ lastPlace n = ((n * 2 ^ k : Nat) : Int) := by
    rw [place, zpow_neg, zpow_natCast, div_inv_eq_mul]
    push_cast
    rfl
  have back : (((n * 2 ^ k : Nat) : Int) : Rat) * 2 ^ lastPlace n = n := by
    rw [place, zpow_neg, zpow_natCast]
    push_cast
    exact mul_inv_cancel_right₀ (by positivity) _
  have bounded : ¬(2 : Rat) ^ 1024 ≤ |(n : Rat)| := by
    rw [Nat.abs_cast, not_le]
    exact_mod_cast small.trans (Nat.pow_lt_pow_right (by decide) (by decide))
  rw [nearest, shift, roundToEven_intCast, back, if_neg bounded]

theorem sign_subset (s : List Char) : (sign s).2 ⊆ s := by
  cases s with
  | nil => exact List.Subset.refl _
  | cons c s =>
      rw [sign]
      split
      · exact List.subset_cons_self c s
      · split
        · exact List.subset_cons_self c s
        · exact List.Subset.refl _

/-- Small whole numbers are read from their digits. -/
theorem ofText_toDigits {n : Nat} (small : n < 2 ^ 53) :
    ofText (Nat.toDigits 10 n) = .finite n := by
  have digit : ∀ c ∈ Nat.toDigits 10 n, c.isDigit = true := fun _ => isDigit_of_mem_toDigits
  have trimmed : Text.trim (Nat.toDigits 10 n) = Nat.toDigits 10 n := by
    refine Text.trim_of_no_space fun c hc => ?_
    by_contra space
    rw [Bool.not_eq_false] at space
    exact Bool.false_ne_true ((isDigit_of_isSpace space).symm.trans (digit c hc))
  obtain ⟨c, cs, whole⟩ := List.exists_cons_of_ne_nil (Nat.toDigits_ne_nil (n := n) (b := 10))
  have base : ∀ c, c.isDigit = true → baseOf c = none := by
    intro c hc
    have letters : ∀ l : Char, l.isDigit = false → c ≠ l := by
      intro l other same
      rw [same, other] at hc
      cases hc
    simp [baseOf, letters]
  have bare : prefixed (Nat.toDigits 10 n) = none := by
    rw [whole] at digit ⊢
    cases cs with
    | nil => rfl
    | cons d ds =>
        have second : baseOf d = none :=
          base d (digit d (List.mem_cons_of_mem _ List.mem_cons_self))
        rw [prefixed, second, Option.map_none, ite_self]
  have scanned := scan_digits digit Nat.toDigits_ne_nil
  have value : Numeral.value ⟨false, (Nat.toDigits 10 n).map Numeral.digit, [], 0⟩ = n := by
    simp [Numeral.value, magnitude, signed, number_toDigits]
  have finite : (sign (Nat.toDigits 10 n)).2 ≠ "Infinity".toList := by
    intro same
    have letter : 'I' ∈ (sign (Nat.toDigits 10 n)).2 := same ▸ List.mem_cons_self
    exact absurd (digit 'I' (sign_subset _ letter)) (by decide)
  rw [ofText, trimmed]
  simp only [bare, if_neg finite, scanned, value]
  rw [whole]
  exact nearest_natCast small

/-- Past `2 ^ 53` not every whole number is a double, and the largest power is none. -/
example : nearest (2 ^ 53 + 1) = .finite (2 ^ 53) ∧ nearest (-2 ^ 1024) = .infinity true := by
  decide +kernel

end Double
