/-
How long is waited.

The wait before a retry is computed with doubles, and each of its two operations rounds
once.  The theorems here say so in exact numbers: the power and the product are those `asDouble`
to the exact ones, and the smaller of two doubles stands for the smaller of two numbers.
The power of a policy that passes its checks is at least one, so that no product meets a
zero or an infinity that it is not defined for, and two roundings are all that separates a
wait from its exact length.

Two computations tell how long to wait: the one that a caller asks with a number, and the
one of a run, which takes the ceiling when the power is out of range.  They agree as long
as it is not.
-/
import Parley.Proofs.Power
import Parley.Proofs.Outcome
import Parley.Service.Retry

namespace Parley

open Number
open scoped ENNReal

/-! ### Policies that pass their checks -/

theorem Check.floor_ok {bound x y : Float} (h : Check.floor bound x = .ok y) : bound ≤ y := by
  unfold Check.floor at h
  split at h
  · cases h
    assumption
  · cases h

theorem Check.atLeast_ok {bound n m : Int} (h : Check.atLeast bound n = .ok m) : bound ≤ m := by
  unfold Check.atLeast at h
  split at h
  · cases h
    assumption
  · cases h

/-- What holds of the default, and of every value that passes the check, holds of the field. -/
theorem Check.field_ok {α β : Type} {fields : List (String × Value α)} {name : String}
    {check : Value α → Checked β} {default b : β} {P : β → Prop} (hdefault : P default)
    (hcheck : ∀ v b, check v = .ok b → P b) (h : Check.field fields name check default = .ok b) :
    P b := by
  unfold Check.field at h
  split at h
  · exact hcheck _ _ (Checked.named_ok.mp h)
  · cases h
    exact hdefault

namespace Policy

variable {p : Policy} {n : ℕ}

/-- What the fields of a policy are checked for. -/
structure Valid (p : Policy) : Prop where
  attempts : 1 ≤ p.attempts
  interval : 0.0 ≤ p.interval
  multiplier : 1.0 ≤ p.multiplier
  ceiling : 0.0 ≤ p.ceiling

theorem atLeastFloat_ok (bound : Float) (v : Given) (x : Float) (h : atLeastFloat bound v = .ok x) :
    bound ≤ x := by
  obtain ⟨y, -, hy⟩ := Outcome.bind_ok.mp h
  exact Check.floor_ok hy

theorem attemptsOf_ok (v : Given) (n : Int) (h : attemptsOf v = .ok n) : 1 ≤ n := by
  obtain ⟨m, -, hm⟩ := Outcome.bind_ok.mp h
  exact Check.atLeast_ok hm

/-- A policy that is made of fields is valid. -/
theorem valid_of_fields {fields : List (String × Given)} (h : ofFields fields = .ok p) :
    p.Valid := by
  unfold ofFields at h
  rw [Checked.orInvalid_ok] at h
  obtain ⟨f₃, c, h₃, hc, rfl⟩ := Checked.ap_ok.mp h
  obtain ⟨f₂, m, h₂, hm, rfl⟩ := Checked.ap_ok.mp h₃
  obtain ⟨f₁, i, h₁, hi, rfl⟩ := Checked.ap_ok.mp h₂
  obtain ⟨a, ha, rfl⟩ := Outcome.map_ok.mp h₁
  exact ⟨Check.field_ok (P := fun a => 1 ≤ a) (by decide) attemptsOf_ok ha,
    Check.field_ok (P := fun x => 0.0 ≤ x) (by decide) (atLeastFloat_ok 0.0) hi,
    Check.field_ok (P := fun x => 1.0 ≤ x) (by decide) (atLeastFloat_ok 1.0) hm,
    Check.field_ok (P := fun x => 0.0 ≤ x) (by decide) (atLeastFloat_ok 0.0) hc⟩

namespace Valid

theorem represents_interval (hp : p.Valid) : Represents p.interval (magnitude p.interval) :=
  .refl hp.interval

theorem represents_ceiling (hp : p.Valid) : Represents p.ceiling (magnitude p.ceiling) :=
  .refl hp.ceiling

theorem represents_multiplier (hp : p.Valid) : Represents p.multiplier (magnitude p.multiplier) :=
  .refl (represents_one.unsigned_of_le hp.multiplier)

theorem one_le_multiplier (hp : p.Valid) : 1 ≤ magnitude p.multiplier :=
  (represents_one.le_iff hp.represents_multiplier).mp hp.multiplier

theorem one_le_power (hp : p.Valid) (n : ℕ) : 1 ≤ asDouble (magnitude p.multiplier ^ n) :=
  one_le_asDouble (one_le_pow₀ hp.one_le_multiplier)

end Valid

/-! ### The growth of the waits -/

/-- The power of a retry can be computed with doubles: it is in their range, and so is the number of
the retry. -/
def InRange (p : Policy) (n : ℕ) : Prop :=
  n < ENNReal.ofReal limit ∧ magnitude p.multiplier ^ n < ENNReal.ofReal limit

theorem one_lt_limit : 1 < ENNReal.ofReal limit := by
  by_contra h
  have htop := asDouble_eq_top_iff.mpr (not_lt.mp h)
  rw [represents_one.asDouble_eq] at htop
  exact ENNReal.one_ne_top htop

theorem inRange_zero (p : Policy) : p.InRange 0 := by
  refine ⟨?_, ?_⟩
  · rw [Nat.cast_zero]
    exact zero_lt_one.trans one_lt_limit
  · rw [pow_zero]
    exact one_lt_limit

/-- Where a retry is in range, so are those before it. -/
theorem InRange.of_le (hp : p.Valid) {k : ℕ} (hn : p.InRange n) (hk : k ≤ n) : p.InRange k :=
  ⟨(Nat.cast_le.mpr hk).trans_lt hn.1, (pow_le_pow_right₀ hp.one_le_multiplier hk).trans_lt hn.2⟩

/-- The number of a retry, as a double. -/
theorem represents_number (n : ℕ) : Represents (Binary.toFloat ⟨n, 0⟩) (asDouble n) := by
  have h := Binary.represents_toFloat ⟨n, 0⟩
  rwa [show Binary.value ⟨n, 0⟩ = n by simp [Binary.value, dyadic], ENNReal.ofReal_natCast] at h

/-- **In range, the growth is the double nearest to the exact power.** -/
theorem growth_inRange (hp : p.Valid) (hn : p.InRange n) :
    ∃ g, p.growth n = .ok g ∧ Represents g (asDouble (magnitude p.multiplier ^ n)) := by
  have hm := hp.represents_multiplier
  have hnumber : ¬ (Binary.toFloat ⟨(n : ℤ).natAbs, 0⟩).isInf = true := by
    rw [Int.natAbs_natCast, (represents_number n).isInf_iff, asDouble_eq_top_iff]
    exact hn.1.not_ge
  unfold growth
  by_cases hzero : n = 0
  · refine ⟨1.0, by rw [hzero]; rfl, ?_⟩
    rw [hzero, pow_zero, represents_one.asDouble_eq]
    exact represents_one
  rw [if_neg (by omega), if_neg hnumber]
  by_cases hone : (p.multiplier == 1.0) = true
  · refine ⟨1.0, if_pos hone, ?_⟩
    rw [hm.beq_iff represents_one] at hone
    rw [hone, one_pow, represents_one.asDouble_eq]
    exact represents_one
  have htop : magnitude p.multiplier ≠ ⊤ := by
    intro htop
    have hpower := hn.2
    rw [htop, ENNReal.top_pow hzero] at hpower
    exact hpower.not_ge le_top
  have hpower := represents_powerOf hm
    (one_pos.trans_le hp.one_le_multiplier).ne' htop n
  rw [if_neg hone, if_neg (mt hm.isInf_iff.mp htop)]
  refine ⟨powerOf p.multiplier n, if_neg ?_, hpower⟩
  rw [hpower.isInf_iff, asDouble_eq_top_iff]
  exact hn.2.not_ge

/-- **Out of range, there is no growth.** -/
theorem growth_outOfRange (hp : p.Valid) (htop : magnitude p.multiplier ≠ ⊤) (hn : ¬ p.InRange n) :
    ∃ text, p.growth n = .error (.overflow text) := by
  have hm := hp.represents_multiplier
  have hzero : n ≠ 0 := by
    rintro rfl
    exact hn (inRange_zero p)
  unfold growth
  rw [if_neg (by omega), Int.natAbs_natCast]
  by_cases hnumber : (Binary.toFloat ⟨n, 0⟩).isInf = true
  · exact ⟨_, if_pos hnumber⟩
  rw [if_neg hnumber]
  rw [(represents_number n).isInf_iff, asDouble_eq_top_iff, not_le] at hnumber
  have hlarge : ENNReal.ofReal limit ≤ magnitude p.multiplier ^ n :=
    not_lt.mp fun hpower => hn ⟨hnumber, hpower⟩
  have hone : ¬ (p.multiplier == 1.0) = true := by
    rw [hm.beq_iff represents_one]
    intro heq
    rw [heq, one_pow] at hlarge
    exact one_lt_limit.not_ge hlarge
  have hpower := represents_powerOf hm (one_pos.trans_le hp.one_le_multiplier).ne' htop n
  rw [if_neg hone, if_neg (mt hm.isInf_iff.mp htop)]
  refine ⟨_, if_pos ?_⟩
  rw [hpower.isInf_iff, asDouble_eq_top_iff]
  exact hlarge

/-! ### The waits -/

theorem represents_lesser {x y : Float} {r s : ℝ≥0∞} (hx : Represents x r) (hy : Represents y s) :
    Represents (lesser x y) (min r s) := by
  unfold lesser
  by_cases h : y < x
  · rw [if_pos h]
    rw [hy.lt_iff hx] at h
    rw [min_eq_right h.le]
    exact hy
  · rw [if_neg h]
    rw [hy.lt_iff hx, not_lt] at h
    rw [min_eq_left h]
    exact hx

/-- The length of a wait when the power and the product are each rounded. -/
noncomputable def roundedWait (p : Policy) (n : ℕ) : ℝ≥0∞ :=
  min (asDouble (magnitude p.interval * asDouble (magnitude p.multiplier ^ n)))
    (magnitude p.ceiling)

/-- The exact length of a wait. -/
noncomputable def exactWait (p : Policy) (n : ℕ) : ℝ≥0∞ :=
  min (magnitude p.interval * magnitude p.multiplier ^ n) (magnitude p.ceiling)

theorem roundedWait_le_ceiling (p : Policy) (n : ℕ) : p.roundedWait n ≤ magnitude p.ceiling :=
  min_le_right _ _

theorem roundedWait_mono (hp : p.Valid) {k : ℕ} (h : k ≤ n) : p.roundedWait k ≤ p.roundedWait n :=
  min_le_min_right _ (asDouble_mono (mul_le_mul_right
    (asDouble_mono (pow_le_pow_right₀ hp.one_le_multiplier h)) _))

theorem delay_inRange (hp : p.Valid) (hn : p.InRange n) :
    ∃ d, p.delay n = .ok d ∧ Represents d (p.roundedWait n) := by
  obtain ⟨g, hgrowth, hg⟩ := growth_inRange hp hn
  have hone := hp.one_le_power n
  have hproduct := hp.represents_interval.mul hg (one_pos.trans_le hone).ne'
    (mt asDouble_eq_top_iff.mp hn.2.not_ge)
  refine ⟨lesser (p.interval * g) p.ceiling, ?_, represents_lesser hproduct hp.represents_ceiling⟩
  unfold delay
  rw [hgrowth]
  rfl

theorem delay_outOfRange (hp : p.Valid) (htop : magnitude p.multiplier ≠ ⊤) (hn : ¬ p.InRange n) :
    ∃ text, p.delay n = .error (.overflow text) := by
  obtain ⟨text, hgrowth⟩ := growth_outOfRange hp htop hn
  refine ⟨text, ?_⟩
  unfold delay
  rw [hgrowth]
  rfl

/-- **In range, a run waits for the product of the interval and the power, rounded twice, or for the
ceiling.** -/
theorem represents_wait (hp : p.Valid) (hn : p.InRange n) :
    Represents (p.wait n) (p.roundedWait n) := by
  obtain ⟨d, hdelay, hd⟩ := delay_inRange hp hn
  unfold wait
  rw [hdelay]
  dsimp only
  by_cases h : 0.0 < d
  · rw [if_pos h]
    exact hd
  · rw [if_neg h]
    rw [represents_zero.lt_iff hd, not_lt, nonpos_iff_eq_zero] at h
    rw [h]
    exact represents_zero

/-- **Out of range, a run waits for the ceiling.** -/
theorem wait_outOfRange (hp : p.Valid) (htop : magnitude p.multiplier ≠ ⊤) (hn : ¬ p.InRange n) :
    p.wait n = p.ceiling := by
  obtain ⟨text, hdelay⟩ := delay_outOfRange hp htop hn
  unfold wait
  rw [hdelay]

/-- **A wait is as long as it is in exact arithmetic, but for its last two bits.** -/
theorem abs_roundedWait_sub_le (hp : p.Valid) (hn : p.InRange n) (hc : magnitude p.ceiling ≠ ⊤) :
    |(p.roundedWait n).toReal - (p.exactWait n).toReal| ≤
      (p.exactWait n).toReal * 2 ^ (-51 : ℤ) + 2 ^ (-1075 : ℤ) := by
  have hone : 1 ≤ magnitude p.multiplier ^ n := one_le_pow₀ hp.one_le_multiplier
  unfold roundedWait exactWait
  by_cases hi : magnitude p.interval = ⊤
  · have hrounded : asDouble (magnitude p.multiplier ^ n) ≠ 0 :=
      (one_pos.trans_le (one_le_asDouble hone)).ne'
    rw [hi, ENNReal.top_mul hrounded, ENNReal.top_mul (one_pos.trans_le hone).ne', asDouble_top,
      sub_self, abs_zero]
    exact add_nonneg (mul_nonneg ENNReal.toReal_nonneg (zpow_two_pos _).le) (zpow_two_pos _).le
  · obtain ⟨i, hinterval, hi⟩ : ∃ i : ℝ, 0 ≤ i ∧ magnitude p.interval = ENNReal.ofReal i :=
      ⟨_, ENNReal.toReal_nonneg, (ENNReal.ofReal_toReal hi).symm⟩
    obtain ⟨q, hq, hpower⟩ : ∃ q : ℝ, 0 ≤ q ∧ magnitude p.multiplier ^ n = ENNReal.ofReal q :=
      ⟨_, ENNReal.toReal_nonneg, (ENNReal.ofReal_toReal hn.2.ne_top).symm⟩
    have hlimit := hn.2
    rw [hpower] at hlimit hone ⊢
    rw [ENNReal.ofReal_lt_ofReal_iff limit_pos] at hlimit
    rw [ENNReal.one_le_ofReal] at hone
    obtain ⟨b, hb, hnear, hrounded⟩ := exists_min_asDouble_eq hp.represents_ceiling hc
      (mul_nonneg hinterval (rounded_nonneg hq))
    rw [hi, asDouble_ofReal hq, if_pos hlimit, ← ENNReal.ofReal_mul hinterval,
      ← ENNReal.ofReal_mul hinterval, hrounded, toReal_min_ofReal hb hc,
      toReal_min_ofReal (mul_nonneg hinterval hq) hc]
    exact abs_min_sub_min_le ENNReal.toReal_nonneg (zpow_two_pos _).le (by norm_num)
      (zpow_two_pos _).le (abs_twice_sub_le hinterval hone (abs_rounded_sub_le_add hq) hnear)

end Policy

end Parley
