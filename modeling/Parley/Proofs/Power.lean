/-
Powers of doubles are rounded once.

A power is computed between two bounds, one cut down and one cut up at every step.  What
lies between two values lies between their products and between what these are cut to,
and rounding is monotone, so that two bounds that round to the same double leave the
exact power nowhere else to go.
-/
import Parley.Proofs.Double

namespace Parley.Number

open Float.Model (UnpackedFloat Format)
open Float.Model.UnpackedFloat hiding pack unpack round
open scoped ENNReal


namespace Binary

/-- The number that a value stands for. -/
noncomputable def value (v : Binary) : ℝ := dyadic v.mantissa v.exponent

theorem value_nonneg (v : Binary) : 0 ≤ v.value := dyadic_nonneg _ _

/-- **A value is turned into the double nearest to it.** -/
theorem represents_toFloat (v : Binary) :
    Represents v.toFloat (asDouble (ENNReal.ofReal v.value)) :=
  (rounds_round .positive v.mantissa v.exponent).represents v.value_nonneg

theorem value_times (v w : Binary) : (v.times w).value = v.value * w.value :=
  dyadic_mul _ _ _ _

theorem value_exactPower (v : Binary) (n : ℕ) : (v.exactPower n).value = v.value ^ n := by
  show ((v.mantissa.pow n : ℕ) : ℝ) * 2 ^ (v.exponent * n) = (v.mantissa * 2 ^ v.exponent) ^ n
  rw [mul_pow, ← zpow_natCast (2 ^ v.exponent : ℝ), ← zpow_mul]
  congr 1
  exact Nat.cast_pow v.mantissa n

/-- A value is cut to a whole number of units. -/
theorem value_cut (up : Bool) (v : Binary) :
    ∃ unit : ℕ, 0 < unit ∧ (v.cut up).value =
      dyadic ((if up then v.mantissa + (unit - 1) else v.mantissa) / unit * unit) v.exponent := by
  unfold cut value
  generalize v.mantissa.log2 + 1 - workingBits = extra
  refine ⟨2 ^ extra, by positivity, ?_⟩
  show (((if up then v.mantissa + (2 ^ extra - 1) else v.mantissa) / 2 ^ extra : ℕ) : ℝ) *
    2 ^ (v.exponent + (extra : ℤ)) = _
  rw [dyadic, Nat.cast_mul, zpow_add₀ (by norm_num), zpow_natCast]
  push_cast
  ring

theorem value_cut_le (v : Binary) : (v.cut false).value ≤ v.value := by
  obtain ⟨unit, -, h⟩ := v.value_cut false
  rw [h]
  exact dyadic_le_iff.mpr (Nat.div_mul_le_self _ _)

theorem le_value_cut (v : Binary) : v.value ≤ (v.cut true).value := by
  obtain ⟨unit, hunit, h⟩ := v.value_cut true
  have hsplit := Nat.div_add_mod' (v.mantissa + (unit - 1)) unit
  have hrest := Nat.mod_lt (v.mantissa + (unit - 1)) hunit
  rw [h]
  exact dyadic_le_iff.mpr (by rw [if_pos rfl]; omega)

/-- Half of the bits of an exponent are squared, and the last one is multiplied on. -/
theorem pow_halves (r : ℝ) (n : ℕ) :
    r ^ n = r ^ (n / 2) * r ^ (n / 2) * (if n % 2 = 0 then 1 else r) := by
  have hsplit := Nat.div_add_mod n 2
  split
  · rw [← pow_add, mul_one]
    congr 1
    omega
  · rw [← pow_add, ← pow_succ]
    congr 1
    omega

/-- Two values between which a number lies. -/
structure Encloses (low high : Binary) (r : ℝ) : Prop where
  below : low.value ≤ r
  above : r ≤ high.value

namespace Encloses

variable {low low' high high' : Binary} {r r' : ℝ}

theorem refl (v : Binary) : Encloses v v v.value := ⟨le_rfl, le_rfl⟩

theorem one : Encloses ⟨1, 0⟩ ⟨1, 0⟩ 1 := by
  have hvalue : value ⟨1, 0⟩ = 1 := by simp [value, dyadic]
  exact ⟨hvalue.le, hvalue.ge⟩

theorem times (h : Encloses low high r) (h' : Encloses low' high' r') :
    Encloses (low.times low') (high.times high') (r * r') := by
  have hr : 0 ≤ r := low.value_nonneg.trans h.below
  have hr' : 0 ≤ r' := low'.value_nonneg.trans h'.below
  constructor
  · rw [value_times]
    exact mul_le_mul h.below h'.below low'.value_nonneg hr
  · rw [value_times]
    exact mul_le_mul h.above h'.above hr' high.value_nonneg

theorem cut (h : Encloses low high r) : Encloses (low.cut false) (high.cut true) r :=
  ⟨(value_cut_le low).trans h.below, h.above.trans (le_value_cut high)⟩

/-- **The two bounds of a power enclose it.** -/
theorem bound (v : Binary) (count : ℕ) :
    ∀ n < 2 ^ count, Encloses (v.bound false count n) (v.bound true count n) (v.value ^ n) := by
  induction count with
  | zero =>
      intro n hn
      obtain rfl : n = 0 := by omega
      rw [pow_zero]
      exact one
  | succ count ih =>
      intro n hn
      unfold Binary.bound
      by_cases hzero : n = 0
      · rw [if_pos hzero, if_pos hzero, hzero, pow_zero]
        exact one
      have hhalf := ih (n / 2) (by omega)
      have hsquare := (hhalf.times hhalf).cut
      rw [if_neg hzero, if_neg hzero, pow_halves]
      dsimp only
      by_cases heven : n % 2 = 0
      · rw [if_pos heven, if_pos heven, if_pos heven, mul_one]
        exact hsquare
      · rw [if_neg heven, if_neg heven, if_neg heven]
        exact (hsquare.times (refl v)).cut

end Encloses

/-- **A power is the double nearest to the exact power.** -/
theorem represents_power (v : Binary) (n : ℕ) :
    Represents (v.power n) (asDouble (ENNReal.ofReal (v.value ^ n))) := by
  have hlow := represents_toFloat (v.bound false (n.log2 + 1) n)
  have hhigh := represents_toFloat (v.bound true (n.log2 + 1) n)
  have hpower := Encloses.bound v (n.log2 + 1) n Nat.lt_log2_self
  have hbelow := asDouble_mono (ENNReal.ofReal_le_ofReal hpower.below)
  have habove := asDouble_mono (ENNReal.ofReal_le_ofReal hpower.above)
  unfold power
  dsimp only
  by_cases hsame : (v.bound false (n.log2 + 1) n).toFloat == (v.bound true (n.log2 + 1) n).toFloat
  · -- what lies between two values that round to the same double rounds to it too
    rw [if_pos hsame]
    rw [hlow.beq_iff hhigh] at hsame
    have hpinned := le_antisymm hbelow (habove.trans hsame.ge)
    exact ⟨hlow.unsigned, hlow.magnitude_eq.trans hpinned⟩
  · rw [if_neg hsame, ← value_exactPower]
    exact represents_toFloat _

/-- A finite double stands for the value that is read off its bits. -/
theorem ofReal_value_ofFloat {x : Float} {r : ℝ≥0∞} (hx : Represents x r) (hzero : r ≠ 0)
    (htop : r ≠ ⊤) : r = ENNReal.ofReal (ofFloat x).value := by
  have hbits : ∀ {s m e hm}, x.toModel.unpack = .finite s m e hm → ofFloat x = ⟨m, e⟩ := by
    intro s m e hm h
    have hparts := (unpack_finite h).2.2
    unfold ofFloat
    dsimp only
    have hfull : fullMantissa = 2 ^ 52 := by rfl
    rw [hfull, show x.toBits.toNat = x.toModel.toBits.toBitVec.toNat by rfl]
    by_cases hfield : x.toModel.toBits.toBitVec.toNat / 2 ^ 52 % 2048 = 0
    · rw [if_pos hfield] at hparts ⊢
      injection hparts with h₁ h₂
      rw [h₁, h₂]
    · rw [if_neg hfield] at hparts ⊢
      injection hparts with h₁ h₂
      rw [h₁, h₂]
  have hunsigned := (unsigned_iff x).mp hx.unsigned
  rw [← hx.magnitude_eq, magnitude] at hzero htop ⊢
  generalize x.toModel.unpack = u at hunsigned hzero htop hbits ⊢
  cases hunsigned with
  | zero s => exact absurd rfl hzero
  | infinity => exact absurd rfl htop
  | finite hm hfits he => rw [hbits rfl, extent_finite, value]

end Binary

/-- **A finite double to a whole power is the double nearest to the exact power.** -/
theorem represents_powerOf {x : Float} {r : ℝ≥0∞} (hx : Represents x r) (hzero : r ≠ 0)
    (htop : r ≠ ⊤) (n : ℕ) : Represents (powerOf x n) (asDouble (r ^ n)) := by
  have hpower := (Binary.ofFloat x).represents_power n
  rw [ENNReal.ofReal_pow (Binary.value_nonneg _), ← Binary.ofReal_value_ofFloat hx hzero htop]
    at hpower
  unfold powerOf
  dsimp only
  rw [if_pos (Int.natCast_nonneg n), Int.toNat_natCast]
  exact hpower

end Parley.Number
