import Mathlib.Algebra.Order.Field.Rat
import Mathlib.Algebra.Order.Field.Power
import Mathlib.Order.Monotone.Basic
import Mathlib.Tactic.FieldSimp
import Mathlib.Tactic.Linarith
import Mathlib.Tactic.Positivity
import Mathlib.Tactic.Ring

/-!
# Binary interchange formats

The IEEE 754 reading of a bit pattern: its sign, exponent and fraction, the datum they encode, and
the order of data.  The magnitude of a finite datum grows with the pattern below the sign
(`Format.absolute_strictMono`), so that a bound on the one is a bound on the other
(`Format.decode_unit_interval`).
-/

namespace Ieee754

/-- The widths of the exponent and of the fraction; the sign takes one more bit. -/
structure Format where
  exponentBits : ℕ
  fractionBits : ℕ
  two_le_exponentBits : 2 ≤ exponentBits

/-! ### Data -/

/-- What a bit pattern encodes.  A zero keeps its sign. -/
inductive Datum where
  | nan
  | infinite (negative : Bool)
  | finite (negative : Bool) (magnitude : ℚ)
  deriving DecidableEq

namespace Datum

/-- Neither an infinity nor a NaN. -/
def isFinite : Datum → Bool
  | nan | infinite _ => false
  | finite .. => true

/-- A magnitude with a sign. -/
def signed (negative : Bool) (magnitude : ℚ) : ℚ := if negative then -magnitude else magnitude

/-- `≤` : exact on numbers, and false when either side is a NaN. -/
def Le : Datum → Datum → Prop
  | nan, _ | _, nan => False
  | infinite negative, infinite negative' => negative = true ∨ negative' = false
  | infinite negative, finite .. => negative = true
  | finite .., infinite negative' => negative' = false
  | finite negative m, finite negative' m' => signed negative m ≤ signed negative' m'

instance : LE Datum := ⟨Le⟩

instance (x y : Datum) : Decidable (x ≤ y) :=
  match x, y with
  | nan, _ => isFalse (by cases y <;> exact id)
  | infinite _, nan | finite .., nan => isFalse id
  | infinite negative, infinite negative' =>
    inferInstanceAs (Decidable (negative = true ∨ negative' = false))
  | infinite negative, finite .. => inferInstanceAs (Decidable (negative = true))
  | finite .., infinite negative' => inferInstanceAs (Decidable (negative' = false))
  | finite negative m, finite negative' m' =>
    inferInstanceAs (Decidable (signed negative m ≤ signed negative' m'))

/-- The number one. -/
def one : Datum := finite false 1

/-- Minus one. -/
def negOne : Datum := finite true 1

theorem finite_le_finite {negative negative' : Bool} {m m' : ℚ} :
    finite negative m ≤ finite negative' m' ↔ signed negative m ≤ signed negative' m' := Iff.rfl

/-- A finite datum lies between minus one and one when its magnitude is at most one. -/
theorem finite_unit_interval {negative : Bool} {m : ℚ} (hm : 0 ≤ m) :
    negOne ≤ finite negative m ∧ finite negative m ≤ one ↔ m ≤ 1 := by
  rw [negOne, one, finite_le_finite, finite_le_finite]
  cases negative with
  | false =>
    simp only [signed, if_true, Bool.false_eq_true, if_false]
    exact ⟨And.right, fun h => ⟨by linarith, h⟩⟩
  | true =>
    simp only [signed, if_true, Bool.false_eq_true, if_false]
    exact ⟨fun h => by linarith [h.1], fun h => ⟨by linarith, by linarith⟩⟩

/-- Nothing else does. -/
theorem not_unit_interval {x : Datum} (hx : x.isFinite = false) :
    ¬ (negOne ≤ x ∧ x ≤ one) := by
  rintro ⟨hlow, hhigh⟩
  cases x with
  | nan => exact hhigh
  | infinite negative =>
    -- an infinity above minus one is positive, and one below one is negative
    have hpos : negative = false := hlow
    have hneg : negative = true := hhigh
    rw [hpos] at hneg
    cases hneg
  | finite => cases hx

end Datum

/-! ### Bit patterns -/

namespace Format

variable (F : Format)

/-- The exponent field of the infinities and the NaNs, all ones. -/
def maxExponent : ℕ := 2 ^ F.exponentBits - 1

/-- The exponent field of the numbers from one to two. -/
def bias : ℕ := 2 ^ (F.exponentBits - 1) - 1

/-- The sign bit. -/
def negative (bits : ℕ) : Bool := bits.testBit (F.exponentBits + F.fractionBits)

/-- The exponent field. -/
def exponent (bits : ℕ) : ℕ := bits / 2 ^ F.fractionBits % 2 ^ F.exponentBits

/-- The fraction field. -/
def fraction (bits : ℕ) : ℕ := bits % 2 ^ F.fractionBits

/-- The pattern below the sign. -/
def clearSign (bits : ℕ) : ℕ := bits % 2 ^ (F.exponentBits + F.fractionBits)

/-- The magnitude that an exponent and a fraction encode: without a leading one in the least
binade, which holds zero and the subnormals, and with it in the others. -/
def magnitude (e f : ℕ) : ℚ :=
  if e = 0 then (f : ℚ) / 2 ^ F.fractionBits * 2 ^ (1 - (F.bias : ℤ))
  else (1 + (f : ℚ) / 2 ^ F.fractionBits) * 2 ^ ((e : ℤ) - F.bias)

/-- The datum a bit pattern encodes. -/
def decode (bits : ℕ) : Datum :=
  if F.exponent bits = F.maxExponent then
    if F.fraction bits = 0 then .infinite (F.negative bits) else .nan
  else .finite (F.negative bits) (F.magnitude (F.exponent bits) (F.fraction bits))

/-- The least negative subnormal of the half-precision format. -/
example : decode ⟨5, 10, by decide⟩ 0x8001 = .finite true (1 / 2 ^ 24) := by decide +kernel

theorem isFinite_decode (bits : ℕ) :
    (F.decode bits).isFinite = true ↔ F.exponent bits ≠ F.maxExponent := by
  unfold decode
  split_ifs with he hf <;> simp [Datum.isFinite, he]

/-! ### Magnitudes -/

/-- The magnitude that a pattern without sign encodes. -/
def absolute (m : ℕ) : ℚ := F.magnitude (m / 2 ^ F.fractionBits) (m % 2 ^ F.fractionBits)

/-- A magnitude as a number of least subnormals. -/
def units (e f : ℕ) : ℕ := if e = 0 then f else (2 ^ F.fractionBits + f) * 2 ^ (e - 1)

theorem magnitude_eq_units (e f : ℕ) :
    F.magnitude e f = F.units e f * 2 ^ (1 - (F.bias : ℤ) - F.fractionBits) := by
  have htwo : (2 : ℚ) ≠ 0 := two_ne_zero
  have hpow : (2 : ℚ) ^ F.fractionBits ≠ 0 := pow_ne_zero _ htwo
  unfold magnitude units
  rw [zpow_sub₀ htwo _ (F.fractionBits : ℤ), zpow_natCast]
  cases e with
  | zero =>
    simp only [if_true]
    ring
  | succ k =>
    -- one binade up doubles the magnitude, and the exponent field is one more
    have hexp : ((k + 1 : ℕ) : ℤ) - F.bias = k + (1 - F.bias) := by
      push_cast
      ring
    rw [if_neg k.succ_ne_zero, if_neg k.succ_ne_zero, hexp, zpow_add₀ htwo, zpow_natCast,
      Nat.add_sub_cancel]
    push_cast
    field_simp

theorem absolute_nonneg (m : ℕ) : 0 ≤ F.absolute m := by
  rw [absolute, magnitude_eq_units]
  positivity

theorem units_lt_succ (e f : ℕ) : F.units e f < F.units e (f + 1) := by
  unfold units
  split_ifs
  · exact Nat.lt_succ_self f
  · exact Nat.mul_lt_mul_of_pos_right (Nat.lt_succ_self _) (Nat.two_pow_pos _)

/-- The last pattern of a binade lies below the first of the next one. -/
theorem units_lt_carry (e f : ℕ) (h : f + 1 = 2 ^ F.fractionBits) :
    F.units e f < F.units (e + 1) 0 := by
  unfold units
  rw [if_neg e.succ_ne_zero, Nat.add_sub_cancel, Nat.add_zero]
  cases e with
  | zero =>
    simp only [if_true, pow_zero, mul_one]
    omega
  | succ k =>
    rw [if_neg k.succ_ne_zero, Nat.add_sub_cancel, pow_succ', ← mul_assoc]
    exact Nat.mul_lt_mul_of_pos_right (by omega) (Nat.two_pow_pos _)

/-- The next pattern has the next fraction, or the first one of the next binade. -/
theorem div_mod_succ (m : ℕ) {b : ℕ} (hb : 0 < b) :
    ((m + 1) / b = m / b ∧ (m + 1) % b = m % b + 1) ∨
      ((m + 1) / b = m / b + 1 ∧ (m + 1) % b = 0 ∧ m % b + 1 = b) := by
  have hsplit := Nat.div_add_mod m b
  rcases (Nat.succ_le_of_lt (Nat.mod_lt m hb)).lt_or_eq with hlt | hcarry
  · refine .inl ((Nat.div_mod_unique hb).2 ⟨?_, hlt⟩)
    omega
  · have hnext : (m + 1) / b = m / b + 1 ∧ (m + 1) % b = 0 := by
      refine (Nat.div_mod_unique hb).2 ⟨?_, hb⟩
      rw [Nat.mul_add]
      omega
    exact .inr ⟨hnext.1, hnext.2, hcarry⟩

/-- **Magnitudes grow with their patterns.** -/
theorem absolute_strictMono : StrictMono F.absolute := by
  refine strictMono_nat_of_lt_succ fun m => ?_
  unfold absolute
  rw [magnitude_eq_units, magnitude_eq_units]
  refine mul_lt_mul_of_pos_right ?_ (zpow_pos two_pos _)
  rw [Nat.cast_lt]
  rcases div_mod_succ m (Nat.two_pow_pos F.fractionBits) with ⟨hdiv, hmod⟩ | ⟨hdiv, hmod, hcarry⟩
  · rw [hdiv, hmod]
    exact F.units_lt_succ _ _
  · rw [hdiv, hmod]
    exact F.units_lt_carry _ _ hcarry

/-! ### The interval from minus one to one -/

theorem one_le_bias : 1 ≤ F.bias := by
  have h : 2 ^ 1 ≤ 2 ^ (F.exponentBits - 1) :=
    Nat.pow_le_pow_right (by decide) (Nat.le_sub_of_add_le F.two_le_exponentBits)
  unfold bias
  omega

theorem bias_lt_maxExponent : F.bias < F.maxExponent := by
  have h : 2 ^ F.exponentBits = 2 * 2 ^ (F.exponentBits - 1) := by
    rw [← pow_succ', Nat.sub_add_cancel (Nat.le_of_succ_le F.two_le_exponentBits)]
  have hpos : 0 < 2 ^ (F.exponentBits - 1) := Nat.two_pow_pos _
  unfold bias maxExponent
  omega

/-- The pattern of one. -/
def oneBits : ℕ := F.bias * 2 ^ F.fractionBits

theorem absolute_oneBits : F.absolute F.oneBits = 1 := by
  have hbias : F.bias ≠ 0 := Nat.ne_of_gt F.one_le_bias
  unfold absolute oneBits magnitude
  rw [Nat.mul_div_cancel _ (Nat.two_pow_pos _), Nat.mul_mod_left, if_neg hbias]
  simp

theorem clearSign_div (bits : ℕ) : F.clearSign bits / 2 ^ F.fractionBits = F.exponent bits := by
  unfold clearSign exponent
  rw [Nat.add_comm, pow_add, Nat.mod_mul_right_div_self]

theorem clearSign_mod (bits : ℕ) : F.clearSign bits % 2 ^ F.fractionBits = F.fraction bits := by
  unfold clearSign fraction
  exact Nat.mod_mod_of_dvd _ (pow_dvd_pow 2 (Nat.le_add_left _ _))

/-- **A pattern encodes a number between minus one and one exactly when, without its sign, it is
at most the pattern of one.** -/
theorem decode_unit_interval (bits : ℕ) :
    Datum.negOne ≤ F.decode bits ∧ F.decode bits ≤ Datum.one ↔
      F.clearSign bits ≤ F.oneBits := by
  by_cases he : F.exponent bits = F.maxExponent
  · have hnot : (F.decode bits).isFinite = false := by
      rw [← Bool.not_eq_true, isFinite_decode, not_not]
      exact he
    refine iff_of_false (Datum.not_unit_interval hnot) ?_
    -- the infinities and the NaNs lie above every number
    rw [not_le, oneBits, ← Nat.div_add_mod (F.clearSign bits) (2 ^ F.fractionBits), clearSign_div,
      he, Nat.mul_comm]
    exact Nat.lt_add_right _ (Nat.mul_lt_mul_of_pos_left F.bias_lt_maxExponent
      (Nat.two_pow_pos _))
  · have hdecode : F.decode bits = .finite (F.negative bits) (F.absolute (F.clearSign bits)) := by
      rw [decode, if_neg he, absolute, clearSign_div, clearSign_mod]
    rw [hdecode, Datum.finite_unit_interval (F.absolute_nonneg _), ← F.absolute_oneBits]
    exact F.absolute_strictMono.le_iff_le

end Format

end Ieee754
