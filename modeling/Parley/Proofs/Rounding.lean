/-
Rounding to the nearest double.

Doubles are rounded by shifting bits out of a mantissa, and two bits tell what was cut off.
`StandsFor` is the invariant of such a shift: a mantissa and its two bits say between which
whole numbers a number lies, and on which side of the middle.  That is enough to round to
nearest, ties to even, so that what the bits do is `rounded`, a function on real numbers:
the multiple of the unit in the `place` of a number that is nearest to it.

Rounding is monotone, moves a number by half a unit at most, and leaves alone what a
mantissa and an exponent that a double can have stand for.  Nothing here knows of a largest
double but the last section: what is not below `limit` rounds to what is too large.
-/
import Mathlib.Algebra.Order.Archimedean.Real.Basic
import Mathlib.Data.Int.Log
import Parley.Number.Power

namespace Parley.Number

open Float.Model Float.Model.UnpackedFloat

/-! ### Rounding -/

/-- The whole number nearest to a number, ties to even. -/
noncomputable def toEven (r : ℝ) : ℤ :=
  if Int.fract r < 1 / 2 then ⌊r⌋
  else if 1 / 2 < Int.fract r then ⌊r⌋ + 1
  else if Even ⌊r⌋ then ⌊r⌋ else ⌊r⌋ + 1

theorem floor_le_toEven (r : ℝ) : ⌊r⌋ ≤ toEven r := by
  unfold toEven
  split_ifs <;> omega

theorem toEven_le_floor_add_one (r : ℝ) : toEven r ≤ ⌊r⌋ + 1 := by
  unfold toEven
  split_ifs <;> omega

theorem toEven_intCast (n : ℤ) : toEven n = n := by
  unfold toEven
  have hfract : Int.fract (n : ℝ) < 1 / 2 := by
    rw [Int.fract_intCast]
    norm_num
  rw [if_pos hfract, Int.floor_intCast]

theorem toEven_mono {r s : ℝ} (h : r ≤ s) : toEven r ≤ toEven s := by
  have hfloor : ⌊r⌋ ≤ ⌊s⌋ := Int.floor_le_floor h
  rcases hfloor.lt_or_eq with hlt | heq
  · have hr := toEven_le_floor_add_one r
    have hs := floor_le_toEven s
    omega
  · -- between the same two whole numbers, the one farther on is rounded no lower
    have hfract : Int.fract r ≤ Int.fract s := by
      unfold Int.fract
      rw [heq]
      linarith
    unfold toEven
    rw [heq]
    split_ifs <;> first | omega | linarith

theorem abs_toEven_sub_le (r : ℝ) : |toEven r - r| ≤ 1 / 2 := by
  have hsplit : (⌊r⌋ : ℝ) + Int.fract r = r := Int.floor_add_fract r
  have hlt : Int.fract r < 1 := Int.fract_lt_one r
  have hnonneg : 0 ≤ Int.fract r := Int.fract_nonneg r
  unfold toEven
  rw [abs_le]
  split_ifs <;> push_cast <;> constructor <;> linarith

/-- The exponent of the unit in which a double of a size is counted. -/
noncomputable def place (r : ℝ) : ℤ := max (Int.log 2 r - 52) (-1074)

/-- The number nearest to a number among those that a double can be, were there no largest one. -/
noncomputable def rounded (r : ℝ) : ℝ := toEven (r / 2 ^ place r) * 2 ^ place r

theorem rounded_zero : rounded 0 = 0 := by
  unfold rounded
  rw [zero_div, show (0 : ℝ) = ((0 : ℤ) : ℝ) by norm_num, toEven_intCast]
  norm_num

theorem zpow_two_pos (e : ℤ) : (0 : ℝ) < 2 ^ e := zpow_pos (by norm_num) e

theorem zpow_two_half (e : ℤ) : (2 : ℝ) ^ e / 2 = 2 ^ (e - 1) := by
  rw [zpow_sub_one₀ (by norm_num), div_eq_mul_inv]

/-- A number that is a whole number of units is not moved. -/
theorem rounded_of_eq {r : ℝ} {n : ℤ} (h : r = n * 2 ^ place r) : rounded r = r := by
  have hunit : r / 2 ^ place r = n := (div_eq_iff (zpow_two_pos _).ne').mpr h
  unfold rounded
  rw [hunit, toEven_intCast]
  exact h.symm

theorem place_mono {r s : ℝ} (hr : 0 < r) (h : r ≤ s) : place r ≤ place s := by
  have hlog : Int.log 2 r ≤ Int.log 2 s := Int.log_mono_right hr h
  unfold place
  omega

theorem rounded_nonneg {r : ℝ} (hr : 0 ≤ r) : 0 ≤ rounded r := by
  have hunits : (0 : ℝ) ≤ r / 2 ^ place r := div_nonneg hr (zpow_two_pos _).le
  have heven : toEven ((0 : ℤ) : ℝ) ≤ toEven (r / 2 ^ place r) :=
    toEven_mono (by exact_mod_cast hunits)
  rw [toEven_intCast] at heven
  exact mul_nonneg (by exact_mod_cast heven) (zpow_two_pos _).le

/-- A power of two that is not below the unit is a whole number of units. -/
theorem zpow_eq_units {r : ℝ} {k : ℤ} (hk : place r ≤ k) :
    ∃ n : ℤ, (2 : ℝ) ^ k = n * 2 ^ place r := by
  refine ⟨2 ^ (k - place r).toNat, ?_⟩
  push_cast
  rw [← zpow_natCast, ← zpow_add₀ (by norm_num)]
  congr 1
  omega

/-- A number is not rounded past a power of two above it. -/
theorem rounded_le_zpow {r : ℝ} {k : ℤ} (hk : place r ≤ k) (h : r ≤ 2 ^ k) : rounded r ≤ 2 ^ k := by
  obtain ⟨n, hn⟩ := zpow_eq_units hk
  rw [hn] at h ⊢
  have heven : toEven (r / 2 ^ place r) ≤ toEven n :=
    toEven_mono ((div_le_iff₀ (zpow_two_pos _)).mpr h)
  rw [toEven_intCast] at heven
  exact mul_le_mul_of_nonneg_right (by exact_mod_cast heven) (zpow_two_pos _).le

/-- A number is not rounded past a power of two below it. -/
theorem zpow_le_rounded {r : ℝ} {k : ℤ} (hk : place r ≤ k) (h : 2 ^ k ≤ r) : 2 ^ k ≤ rounded r := by
  obtain ⟨n, hn⟩ := zpow_eq_units hk
  rw [hn] at h ⊢
  have heven : toEven n ≤ toEven (r / 2 ^ place r) :=
    toEven_mono ((le_div_iff₀ (zpow_two_pos _)).mpr h)
  rw [toEven_intCast] at heven
  exact mul_le_mul_of_nonneg_right (by exact_mod_cast heven) (zpow_two_pos _).le

/-- **Rounding keeps the order of numbers.** -/
theorem rounded_mono {r s : ℝ} (hr : 0 ≤ r) (h : r ≤ s) : rounded r ≤ rounded s := by
  rcases hr.eq_or_lt with rfl | hpos
  · rw [rounded_zero]
    exact rounded_nonneg h
  have hs : 0 < s := hpos.trans_le h
  rcases (place_mono hpos h).eq_or_lt with heq | hlt
  · have heven : toEven (r / 2 ^ place r) ≤ toEven (s / 2 ^ place r) :=
      toEven_mono (div_le_div_of_nonneg_right h (zpow_two_pos _).le)
    unfold rounded
    rw [← heq]
    exact mul_le_mul_of_nonneg_right (by exact_mod_cast heven) (zpow_two_pos _).le
  · -- the power of two that the larger number starts with lies between the two
    have hlog : place r ≤ Int.log 2 s ∧ place s ≤ Int.log 2 s ∧ Int.log 2 r + 1 ≤ Int.log 2 s := by
      unfold place at hlt ⊢
      omega
    have hbelow : r ≤ 2 ^ Int.log 2 s :=
      ((Int.lt_zpow_succ_log_self (by norm_num) r).le).trans
        (zpow_le_zpow_right₀ (by norm_num) hlog.2.2)
    have habove : (2 : ℝ) ^ Int.log 2 s ≤ s := Int.zpow_log_le_self (by norm_num) hs
    exact (rounded_le_zpow hlog.1 hbelow).trans (zpow_le_rounded hlog.2.1 habove)

/-- A number moves by at most half a unit. -/
theorem abs_rounded_sub_le (r : ℝ) : |rounded r - r| ≤ 2 ^ place r / 2 := by
  have hscale : rounded r - r = (toEven (r / 2 ^ place r) - r / 2 ^ place r) * 2 ^ place r := by
    unfold rounded
    have := (zpow_two_pos (place r)).ne'
    field_simp
  rw [hscale, abs_mul, abs_of_pos (zpow_two_pos _)]
  have hhalf := mul_le_mul_of_nonneg_right (abs_toEven_sub_le (r / 2 ^ place r))
    (zpow_two_pos (place r)).le
  linarith

/-- A number moves by a small part of itself, or by less than the least double. -/
theorem abs_rounded_sub_le_add {r : ℝ} (hr : 0 ≤ r) :
    |rounded r - r| ≤ r * 2 ^ (-53 : ℤ) + 2 ^ (-1075 : ℤ) := by
  rcases hr.eq_or_lt with rfl | hpos
  · rw [rounded_zero, sub_zero, abs_zero, zero_mul, zero_add]
    exact (zpow_two_pos _).le
  have hself : (2 : ℝ) ^ Int.log 2 r ≤ r := Int.zpow_log_le_self (by norm_num) hpos
  have hscaled := mul_le_mul_of_nonneg_right hself (zpow_two_pos (-53)).le
  have hnormal : (2 : ℝ) ^ (Int.log 2 r - 52) / 2 = 2 ^ Int.log 2 r * 2 ^ (-53 : ℤ) := by
    rw [← zpow_add₀ (by norm_num), zpow_two_half]
    congr 1
    omega
  have hleast : (2 : ℝ) ^ (-1074 : ℤ) / 2 = 2 ^ (-1075 : ℤ) := zpow_two_half (-1074)
  have hhalf := abs_rounded_sub_le r
  have hpart := mul_nonneg hr (zpow_two_pos (-53)).le
  have htiny := zpow_two_pos (-1075)
  rcases max_choice (Int.log 2 r - 52) (-1074) with h | h
  · rw [place, h, hnormal] at hhalf
    linarith
  · rw [place, h, hleast] at hhalf
    linarith

/-! ### Cutting off bits -/

/-- A mantissa with its residual bits stands for a number: the bits say on which side of the middle
between the mantissa and the next one the number is. -/
structure StandsFor (em : ExtendedMantissa) (r : ℝ) : Prop where
  le : em.mantissa ≤ r
  lt : r < em.mantissa + 1
  half : em.roundBit = true ↔ em.mantissa + 1 / 2 ≤ r
  rest : em.stickyBit = true ↔ r ≠ em.mantissa ∧ r ≠ em.mantissa + 1 / 2

namespace StandsFor

variable {em : ExtendedMantissa} {r : ℝ}

theorem exact (m : ℕ) : StandsFor (.ofMantissaAndAccuracy m .exact) m where
  le := le_rfl
  lt := by simp [ExtendedMantissa.ofMantissaAndAccuracy]
  half := by norm_num [ExtendedMantissa.ofMantissaAndAccuracy]
  rest := by simp [ExtendedMantissa.ofMantissaAndAccuracy]

theorem floor_eq (h : StandsFor em r) : ⌊r⌋ = em.mantissa :=
  Int.floor_eq_iff.mpr ⟨by exact_mod_cast h.le, by exact_mod_cast h.lt⟩

/-- **The residual bits are enough to round to nearest.** -/
theorem roundedMantissa_eq (h : StandsFor em r) : (em.roundedMantissa : ℤ) = toEven r := by
  have hfract : Int.fract r = r - em.mantissa := by
    rw [Int.fract, h.floor_eq, Int.cast_natCast]
  have hhalf := h.half
  have hrest := h.rest
  unfold toEven
  rw [hfract, h.floor_eq]
  rcases em with ⟨m, _ | _, _ | _⟩ <;>
    simp only [ExtendedMantissa.roundedMantissa, ExtendedMantissa.accuracy,
      Accuracy.roundToNearestEven] <;> simp only [Bool.false_eq_true, false_iff, true_iff, not_le,
      not_and_or, not_not] at hhalf hrest
  · have hr : r = m := hrest.resolve_right hhalf.ne
    rw [if_pos (by rw [hr]; norm_num)]
  · rw [if_pos (by linarith)]
  · have hr : r = m + 1 / 2 := hrest.resolve_left (by linarith)
    rw [if_neg (by rw [hr]; norm_num), if_neg (by rw [hr]; norm_num)]
    split_ifs with heven
    · rw [Int.even_coe_nat] at heven
      rw [Nat.even_iff.mp heven, Nat.add_zero]
    · rw [Int.even_coe_nat, Nat.not_even_iff] at heven
      rw [heven, Nat.cast_add, Nat.cast_one]
  · have hlt : m + 1 / 2 < r := lt_of_le_of_ne hhalf (Ne.symm hrest.2)
    rw [if_neg (by linarith), if_pos (by linarith), Nat.cast_add, Nat.cast_one]

theorem shiftRightOne (h : StandsFor em r) : StandsFor em.shiftRightOne (r / 2) := by
  obtain ⟨hle, hlt, hhalf, hrest⟩ := h
  have hsplit : ((2 * (em.mantissa / 2) + em.mantissa % 2 : ℕ) : ℝ) = em.mantissa := by
    rw [Nat.div_add_mod]
  push_cast at hsplit
  have hodd : em.mantissa % 2 = 0 ∨ em.mantissa % 2 = 1 := Nat.mod_two_eq_zero_or_one _
  -- what was cut off before is not nothing when one of the two bits was set
  have hcut : (em.roundBit || em.stickyBit) = true ↔ r ≠ em.mantissa := by
    rw [Bool.or_eq_true, hhalf, hrest]
    constructor
    · rintro (h | h)
      · intro heq
        linarith
      · exact h.1
    · intro hne
      by_cases hmiddle : r = em.mantissa + 1 / 2
      · exact .inl hmiddle.ge
      · exact .inr ⟨hne, hmiddle⟩
  unfold ExtendedMantissa.shiftRightOne
  rcases hodd with hodd | hodd <;> rw [hodd] at hsplit <;> push_cast at hsplit <;>
    refine ⟨by dsimp only; linarith, by dsimp only; linarith, ?_, ?_⟩
  · simp only [hodd, bne_self_eq_false, Bool.false_eq_true, false_iff, not_le]
    linarith
  · rw [hcut]
    constructor
    · intro hne
      exact ⟨fun heq => hne (by linarith), fun heq => by linarith⟩
    · rintro ⟨hne, -⟩ heq
      exact hne (by linarith)
  · simp only [hodd, bne_iff_ne, ne_eq, one_ne_zero, not_false_eq_true, true_iff]
    linarith
  · rw [hcut]
    constructor
    · intro hne
      exact ⟨fun heq => by linarith, fun heq => hne (by linarith)⟩
    · rintro ⟨-, hne⟩ heq
      exact hne (by linarith)

theorem shiftRight (h : StandsFor em r) (n : ℕ) : StandsFor (em >>> n) (r / 2 ^ n) := by
  show StandsFor (n.repeat ExtendedMantissa.shiftRightOne em) _
  induction n with
  | zero => simpa [Nat.repeat] using h
  | succ n ih =>
      rw [pow_succ, ← div_div]
      exact ih.shiftRightOne

end StandsFor

/-! ### What rounding gives -/

/-- The number that a mantissa and an exponent stand for. -/
noncomputable def dyadic (m : ℕ) (e : ℤ) : ℝ := m * 2 ^ e

theorem dyadic_zero (e : ℤ) : dyadic 0 e = 0 := by
  rw [dyadic, Nat.cast_zero, zero_mul]

theorem dyadic_nonneg (m : ℕ) (e : ℤ) : 0 ≤ dyadic m e :=
  mul_nonneg (Nat.cast_nonneg m) (zpow_two_pos e).le

theorem dyadic_pos {m : ℕ} (hm : 0 < m) (e : ℤ) : 0 < dyadic m e :=
  mul_pos (by exact_mod_cast hm) (zpow_two_pos e)

theorem dyadic_mul (m n : ℕ) (e f : ℤ) : dyadic (m * n) (e + f) = dyadic m e * dyadic n f := by
  unfold dyadic
  rw [zpow_add₀ (by norm_num)]
  push_cast
  ring

theorem dyadic_le_iff {m n : ℕ} {e : ℤ} : dyadic m e ≤ dyadic n e ↔ m ≤ n := by
  unfold dyadic
  rw [mul_le_mul_iff_of_pos_right (zpow_two_pos e), Nat.cast_le]

theorem log_dyadic {m : ℕ} (hm : 0 < m) (e : ℤ) : Int.log 2 (dyadic m e) = m.log2 + e := by
  have hlow : ((2 ^ m.log2 : ℕ) : ℝ) ≤ m := by exact_mod_cast Nat.log2_self_le hm.ne'
  have hhigh : (m : ℝ) < ((2 ^ (m.log2 + 1) : ℕ) : ℝ) := by exact_mod_cast Nat.lt_log2_self
  have hpos := dyadic_pos hm e
  unfold dyadic at hpos ⊢
  have hle : (m.log2 : ℤ) + e ≤ Int.log 2 ((m : ℝ) * 2 ^ e) := by
    rw [← Int.zpow_le_iff_le_log (by norm_num) hpos]
    push_cast at hlow ⊢
    rw [zpow_add₀ (by norm_num), zpow_natCast]
    exact mul_le_mul_of_nonneg_right hlow (zpow_two_pos e).le
  have hlt : Int.log 2 ((m : ℝ) * 2 ^ e) < m.log2 + 1 + e := by
    rw [← Int.lt_zpow_iff_log_lt (by norm_num) hpos]
    push_cast at hhigh ⊢
    rw [zpow_add₀ (by norm_num), zpow_add₀ (by norm_num), zpow_natCast, zpow_one, ← pow_succ]
    exact mul_lt_mul_of_pos_right hhigh (zpow_two_pos e)
  omega

theorem place_dyadic {m : ℕ} (hm : 0 < m) (e : ℤ) :
    place (dyadic m e) = max (m.log2 + e - 52) (-1074) := by
  rw [place, log_dyadic hm]

theorem targetExponent_eq (m : ℕ) (e : ℤ) :
    Format.binary64.targetExponent (totalExponent m e) = max (m.log2 + e - 52) (-1074) := by
  unfold Format.targetExponent totalExponent
  rw [show Format.binary64.minExponent = -1074 by decide,
    show (Format.binary64.mantissaBits : ℤ) = 53 by decide]
  congr 1
  omega

/-- A mantissa and an exponent that a double can have, were there no largest one. -/
structure Fits (m : ℕ) (e : ℤ) : Prop where
  lt : m < 2 ^ 53
  le : -1074 ≤ e
  full : 2 ^ 52 ≤ m ∨ e = -1074

theorem Fits.log2_le {m : ℕ} {e : ℤ} (h : Fits m e) : m.log2 ≤ 52 := by
  by_cases hm : m = 0
  · simp [hm]
  · have hlog := (Nat.log2_lt hm).mpr h.lt
    omega

theorem place_fits {m : ℕ} {e : ℤ} (h : Fits m e) (hm : 0 < m) : place (dyadic m e) = e := by
  rw [place_dyadic hm]
  have hlog := h.log2_le
  have hle := h.le
  rcases h.full with hfull | hleast
  · have hfloor := (Nat.le_log2 hm.ne').mpr hfull
    omega
  · omega

/-- A double is not moved. -/
theorem rounded_fits {m : ℕ} {e : ℤ} (h : Fits m e) : rounded (dyadic m e) = dyadic m e := by
  rcases m.eq_zero_or_pos with rfl | hm
  · rw [dyadic_zero, rounded_zero]
  · refine rounded_of_eq (n := m) ?_
    rw [place_fits h hm, Int.cast_natCast, dyadic]

/-- An unpacked double that stands for a number that was rounded to it. -/
inductive Rounds (s : Sign) (r : ℝ) : UnpackedFloat → Prop
  | zero (h : rounded r = 0) : Rounds s r (.zero s)
  | finite {m : ℕ} {e : ℤ} (hm : 0 < m) (hfits : Fits m e) (h : dyadic m e = rounded r) :
      Rounds s r (.finite s m e hm)

/-- A positive number has at most one bit more than fits, in units, and no fewer bits unless it is
counted in the least unit there is. -/
theorem units_bounds {r : ℝ} (hr : 0 < r) :
    toEven (r / 2 ^ place r) ≤ 2 ^ 53 ∧ (2 ^ 52 ≤ toEven (r / 2 ^ place r) ∨ place r = -1074) := by
  have hvalue : rounded r = toEven (r / 2 ^ place r) * 2 ^ place r := rfl
  constructor
  · have hexponent : Int.log 2 r + 1 ≤ 53 + place r := by
      unfold place
      omega
    have hle : r ≤ 2 ^ (53 + place r) :=
      (Int.lt_zpow_succ_log_self (by norm_num) r).le.trans
        (zpow_le_zpow_right₀ (by norm_num) hexponent)
    have hbound := rounded_le_zpow (by omega) hle
    rw [hvalue, zpow_add₀ (by norm_num)] at hbound
    exact_mod_cast le_of_mul_le_mul_right hbound (zpow_two_pos _)
  · by_cases hmin : place r = -1074
    · exact .inr hmin
    have hexponent : 52 + place r ≤ Int.log 2 r := by
      unfold place at hmin ⊢
      omega
    have hge : (2 : ℝ) ^ (52 + place r) ≤ r :=
      (zpow_le_zpow_right₀ (by norm_num) hexponent).trans
        (Int.zpow_log_le_self (by norm_num) hr)
    have hbound := zpow_le_rounded (by omega) hge
    rw [hvalue, zpow_add₀ (by norm_num)] at hbound
    exact .inl (by exact_mod_cast le_of_mul_le_mul_right hbound (zpow_two_pos _))

theorem shiftToTargetExponent_eq (m : ℕ) (e : ℤ) :
    shiftToTargetExponent .binary64 m e .exact =
      (ExtendedMantissa.ofMantissaAndAccuracy m .exact >>>
          (max (m.log2 + e - 52) (-1074) - e).toNat,
        e + (max (m.log2 + e - 52) (-1074) - e).toNat) := by
  unfold shiftToTargetExponent shiftToExponent
  rw [targetExponent_eq]

/-- A mantissa that is in place is left alone by the second shift, unless rounding has made it one
bit longer. -/
theorem shift_again {n : ℕ} {t : ℤ} (hn : n ≤ 2 ^ 53) (ht : -1074 ≤ t)
    (hfull : 2 ^ 52 ≤ n ∨ t = -1074) :
    ∃ m k, Fits m k ∧ dyadic m k = dyadic n t ∧
      (shiftToTargetExponent .binary64 n t .exact).1.mantissa = m ∧
      (shiftToTargetExponent .binary64 n t .exact).2 = k := by
  rw [shiftToTargetExponent_eq]
  rcases hn.lt_or_eq with hlt | rfl
  · have hfits : Fits n t := ⟨hlt, ht, hfull⟩
    have hlog := hfits.log2_le
    rw [show (max ((n.log2 : ℤ) + t - 52) (-1074) - t).toNat = 0 by omega]
    exact ⟨n, t, hfits, rfl, rfl, by simp⟩
  · rw [Nat.log2_two_pow, show (max (((53 : ℕ) : ℤ) + t - 52) (-1074) - t).toNat = 1 by omega]
    refine ⟨2 ^ 52, t + 1, ⟨by norm_num, by omega, .inl le_rfl⟩, ?_, rfl, rfl⟩
    unfold dyadic
    rw [zpow_add_one₀ (by norm_num)]
    push_cast
    ring

/-- **A mantissa of many bits is rounded to the nearest double.** -/
theorem rounds_roundWithAccuracy (s : Sign) {m : ℕ} {e : ℤ} (hm : 0 < m)
    (he : e ≤ place (dyadic m e)) :
    Rounds s (dyadic m e) (roundWithAccuracy .binary64 s m e .exact) := by
  have hplace := place_dyadic hm e
  generalize hr : dyadic m e = r at he hplace ⊢
  have hpos : 0 < r := by
    rw [← hr]
    exact mul_pos (by exact_mod_cast hm) (zpow_two_pos e)
  have hcut : ((place r - e).toNat : ℤ) = place r - e := Int.toNat_of_nonneg (by omega)
  -- the first shift counts the number in units
  have hunits : (m : ℝ) / 2 ^ (place r - e).toNat = r / 2 ^ place r := by
    rw [← zpow_natCast, hcut, zpow_sub₀ (by norm_num), div_div_eq_mul_div, ← hr, dyadic]
  have hstands := (StandsFor.exact m).shiftRight (place r - e).toNat
  rw [hunits] at hstands
  have hrounded := hstands.roundedMantissa_eq
  have hbounds := units_bounds hpos
  rw [← hrounded] at hbounds
  have hleast : -1074 ≤ place r := le_max_right _ _
  obtain ⟨m', k, hfits, hsame, hm', hk⟩ :=
    shift_again (by exact_mod_cast hbounds.1) hleast (by exact_mod_cast hbounds.2)
  have hvalue : dyadic m' k = rounded r := by
    rw [hsame, rounded, ← hrounded, Int.cast_natCast, dyadic]
  unfold roundWithAccuracy
  rw [shiftToTargetExponent_eq, ← hplace, hcut, show e + (place r - e) = place r by omega]
  dsimp only
  by_cases hzero : m' = 0
  · rw [dif_pos (hm'.trans hzero)]
    refine .zero ?_
    rw [← hvalue, hzero, dyadic_zero]
  · rw [dif_neg fun h => hzero (hm'.symm.trans h)]
    rw [← hm', ← hk] at hfits hvalue
    exact .finite _ hfits hvalue

theorem rounds_round_zero (s : Sign) (e : ℤ) :
    Rounds s 0 (UnpackedFloat.round .binary64 s 0 e) := by
  have hstands : ∀ n : ℕ, StandsFor (ExtendedMantissa.ofMantissaAndAccuracy 0 .exact >>> n) 0 := by
    intro n
    have h := (StandsFor.exact 0).shiftRight n
    rwa [Nat.cast_zero, zero_div] at h
  have hrounded : ∀ n : ℕ,
      (ExtendedMantissa.ofMantissaAndAccuracy 0 .exact >>> n).roundedMantissa = 0 := by
    intro n
    have h := (hstands n).roundedMantissa_eq
    rw [← Int.cast_zero, toEven_intCast] at h
    exact_mod_cast h
  have hfloor : ∀ n : ℕ, (ExtendedMantissa.ofMantissaAndAccuracy 0 .exact >>> n).mantissa = 0 := by
    intro n
    have h := (hstands n).floor_eq
    rw [Int.floor_zero] at h
    exact_mod_cast h.symm
  unfold UnpackedFloat.round decreaseExponent roundWithAccuracy
  dsimp only
  rw [dif_pos]
  · exact .zero rounded_zero
  · simp only [Nat.zero_shiftLeft, shiftToTargetExponent_eq, hrounded]
    exact hfloor _

/-- **A value is rounded to the nearest double.** -/
theorem rounds_round (s : Sign) (m : ℕ) (e : ℤ) :
    Rounds s (dyadic m e) (UnpackedFloat.round .binary64 s m e) := by
  rcases m.eq_zero_or_pos with rfl | hm
  · rw [dyadic_zero]
    exact rounds_round_zero s e
  have hplace := place_dyadic hm e
  have hsame : dyadic (m * 2 ^ (e - place (dyadic m e)).toNat)
      (e - ((e - place (dyadic m e)).toNat : ℤ)) = dyadic m e := by
    generalize (e - place (dyadic m e)).toNat = extra
    unfold dyadic
    push_cast
    rw [mul_assoc, ← zpow_natCast, ← zpow_add₀ (by norm_num), add_sub_cancel]
  have hrounds := rounds_roundWithAccuracy s (m := m * 2 ^ (e - place (dyadic m e)).toNat)
    (e := e - ((e - place (dyadic m e)).toNat : ℤ)) (by positivity) (by rw [hsame]; omega)
  rw [hsame] at hrounds
  unfold UnpackedFloat.round decreaseExponent
  rw [targetExponent_eq, ← hplace]
  simp only [Nat.shiftLeft_eq]
  exact hrounds

/-- The product of two doubles has enough bits to be cut down to the nearest one. -/
theorem rounds_mul {m n : ℕ} {e f : ℤ} (hm : 0 < m) (hn : 0 < n) (h : Fits m e) (h' : Fits n f)
    (s : Sign) : Rounds s (dyadic m e * dyadic n f)
      (roundWithAccuracy .binary64 s (m * n) (e + f) .exact) := by
  have hmn : 0 < m * n := Nat.mul_pos hm hn
  rw [← dyadic_mul]
  refine rounds_roundWithAccuracy s hmn ?_
  rw [place_dyadic hmn]
  by_cases hfull : 2 ^ 52 ≤ m * n
  · have hlog := (Nat.le_log2 hmn.ne').mpr hfull
    omega
  · -- a product with few bits has two factors that are counted in the least unit
    have hleft : ¬ 2 ^ 52 ≤ m := fun hge => hfull (hge.trans (Nat.le_mul_of_pos_right m hn))
    have hright : ¬ 2 ^ 52 ≤ n := fun hge => hfull (hge.trans (Nat.le_mul_of_pos_left n hm))
    have he := h.full.resolve_left hleft
    have hf := h'.full.resolve_left hright
    omega

/-! ### The range of doubles -/

/-- The least number that is too large for a double: half a unit above the largest one. -/
noncomputable def limit : ℝ := dyadic (2 ^ 54 - 1) 970

theorem limit_pos : 0 < limit := dyadic_pos (by norm_num) 970

theorem place_limit : place limit = 971 := by
  unfold limit
  rw [place_dyadic (by norm_num), show (2 ^ 54 - 1 : ℕ).log2 = 53 by decide +kernel]
  norm_num

theorem limit_units : limit / 2 ^ (971 : ℤ) = ((2 ^ 53 - 1 : ℤ) : ℝ) + 1 / 2 := by
  unfold limit dyadic
  rw [show (971 : ℤ) = 970 + 1 by norm_num, zpow_add_one₀ (by norm_num)]
  have := (zpow_two_pos 970).ne'
  field_simp
  norm_num

theorem zpow_split (e : ℤ) : (2 : ℝ) ^ (53 + e) = 2 ^ 53 * 2 ^ e := by
  rw [zpow_add₀ (by norm_num)]
  norm_num

/-- The tie goes to the even one, which is not a double. -/
theorem rounded_limit : rounded limit = 2 ^ (1024 : ℤ) := by
  have hfloor : ⌊((2 ^ 53 - 1 : ℤ) : ℝ) + 1 / 2⌋ = 2 ^ 53 - 1 := by
    rw [Int.floor_intCast_add]
    norm_num
  have hfract : Int.fract (((2 ^ 53 - 1 : ℤ) : ℝ) + 1 / 2) = 1 / 2 := by
    rw [Int.fract_intCast_add]
    norm_num
  have heven : toEven (((2 ^ 53 - 1 : ℤ) : ℝ) + 1 / 2) = 2 ^ 53 := by
    unfold toEven
    rw [hfract, hfloor, if_neg (lt_irrefl _), if_neg (lt_irrefl _), if_neg (by decide)]
    norm_num
  rw [rounded, place_limit, limit_units, heven, show (1024 : ℤ) = 53 + 971 by norm_num, zpow_split]
  norm_num

theorem rounded_lt_iff {r : ℝ} (hr : 0 ≤ r) : rounded r < 2 ^ (1024 : ℤ) ↔ r < limit := by
  constructor
  · intro h
    by_contra hge
    have hmono := rounded_mono limit_pos.le (not_lt.mp hge)
    rw [rounded_limit] at hmono
    exact absurd h hmono.not_gt
  · intro h
    rcases hr.eq_or_lt with rfl | hpos
    · rw [rounded_zero]
      exact zpow_two_pos 1024
    have hplace : place r ≤ 971 := by
      rw [← place_limit]
      exact place_mono hpos h.le
    have hunit := zpow_two_pos (place r)
    rw [show (1024 : ℤ) = 53 + 971 by norm_num, zpow_split, rounded]
    rcases hplace.lt_or_eq with hlt | heq
    · have hunits : (toEven (r / 2 ^ place r) : ℝ) ≤ 2 ^ 53 := by
        exact_mod_cast (units_bounds hpos).1
      have hsmall : (2 : ℝ) ^ place r < 2 ^ (971 : ℤ) := zpow_lt_zpow_right₀ (by norm_num) hlt
      exact (mul_le_mul_of_nonneg_right hunits hunit.le).trans_lt
        (mul_lt_mul_of_pos_left hsmall (by norm_num))
    · have hscaled : r / 2 ^ (971 : ℤ) < ((2 ^ 53 - 1 : ℤ) : ℝ) + 1 / 2 := by
        rw [← limit_units]
        exact div_lt_div_of_pos_right h (zpow_two_pos 971)
      have hnear := (abs_le.mp (abs_toEven_sub_le (r / 2 ^ (971 : ℤ)))).2
      rw [heq]
      refine mul_lt_mul_of_pos_right ?_ (zpow_two_pos 971)
      push_cast at hscaled
      linarith

end Parley.Number
