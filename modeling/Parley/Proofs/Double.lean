/-
What doubles stand for.

The bits of a double are taken apart into a sign, a mantissa and an exponent, and put
together again without loss when these are such as a double can have.  A double that is not
below zero stands for a number, which may be infinite: `Represents` says so, and through it
comparisons and products of doubles become comparisons of numbers and products rounded once.
`asDouble` is that rounding: the number that the double nearest to a number stands for.
-/
import Mathlib.Data.ENNReal.Operations
import Mathlib.Data.ENNReal.Real
import Parley.Proofs.Rounding

namespace Parley.Number

open Float.Model (UnpackedFloat Format)
open Float.Model.UnpackedFloat hiding pack unpack round
open scoped ENNReal

/-! ### Bits -/

theorem unpackSign_packComponents {spec : Format} (s : Sign) (e : BitVec spec.exponentBits)
    (m : BitVec spec.mantissaBitsWithoutImplicit) :
    unpackSign (packComponents spec s e m) = s.toBitVec := by
  ext i hi
  obtain rfl : i = 0 := by omega
  change ((s.toBitVec ++ e ++ m).extractLsb' _ _)[0] = _
  simp [BitVec.getLsbD_append, BitVec.getElem_append]

theorem ofBitVec_toBitVec (s : Sign) : Sign.ofBitVec s.toBitVec = s := by
  cases s <;> rfl

theorem append_one (m : BitVec 52) : (1#1 ++ m).toNat = 2 ^ 52 + m.toNat := by
  rw [BitVec.toNat_append, ← Nat.shiftLeft_add_eq_or_of_lt m.isLt]
  rfl

theorem finite_congr {s : Sign} {m n : ℕ} {e k : ℤ} {hm : 0 < m} {hn : 0 < n} (hmn : m = n)
    (hek : e = k) : UnpackedFloat.finite s m e hm = .finite s n k hn := by
  subst hmn hek
  rfl

/-- What the bits of a double stand for when the exponent is neither the least nor the largest. -/
theorem unpack_normal (s : Sign) {e : BitVec 11} (m : BitVec 52) (hlarge : e ≠ -1#_)
    (hleast : e ≠ 0#_) :
    UnpackedFloat.unpack .binary64 (packComponents .binary64 s e m) =
      .finite s (2 ^ 52 + m.toNat) ((e.toNat : ℤ) - 1075) (by omega) := by
  unfold UnpackedFloat.unpack
  dsimp only
  rw [unpackExponent_packComponents, if_neg hlarge, if_neg hleast, unpackSign_packComponents,
    ofBitVec_toBitVec]
  exact finite_congr (by rw [unpackMantissa_packComponents, append_one]) rfl

theorem unpack_subnormal (s : Sign) {m : BitVec 52} (hm : 0 < m.toNat) :
    UnpackedFloat.unpack .binary64 (packComponents .binary64 s 0#_ m) =
      .finite s m.toNat (-1074) hm := by
  have hne : unpackMantissa (packComponents .binary64 s 0#11 m) ≠ 0#_ := by
    rw [unpackMantissa_packComponents]
    rintro rfl
    exact absurd hm (by decide)
  unfold UnpackedFloat.unpack
  dsimp only
  rw [unpackExponent_packComponents, if_neg (by decide), if_pos rfl, dif_neg hne,
    unpackSign_packComponents, ofBitVec_toBitVec]
  exact finite_congr (by rw [unpackMantissa_packComponents]) rfl

/-- The bits of a finite number. -/
theorem pack_finite (s : Sign) {m : ℕ} (e : ℤ) (hm : 0 < m) :
    UnpackedFloat.pack .binary64 (.finite s m e hm) =
      if 2 ^ 11 ≤ (e + 1075).toNat + 1 then packedInfinity .binary64 s
      else if m.log2 + 1 = 53 then
        packComponents .binary64 s (BitVec.ofNat 11 (e + 1075).toNat) (BitVec.ofNat 52 m)
      else packComponents .binary64 s 0#11 (BitVec.ofNat 52 m) := by
  have hbias : e + (Format.binary64.exponentBias : ℕ) + (52 : ℕ) = e + 1075 := by
    rw [show Format.binary64.exponentBias = 1023 by decide]
    omega
  rw [← hbias]
  rfl

theorem unpack_pack_finite (s : Sign) {m : ℕ} {e : ℤ} (hm : 0 < m) (h : Fits m e) (he : e ≤ 971) :
    UnpackedFloat.unpack .binary64 (UnpackedFloat.pack .binary64 (.finite s m e hm)) =
      .finite s m e hm := by
  have hle := h.le
  have hlt := h.lt
  have hlog := h.log2_le
  rw [pack_finite, if_neg (by omega)]
  by_cases hnormal : m.log2 + 1 = 53
  · rw [if_pos hnormal]
    have hfull : 2 ^ 52 ≤ m := (Nat.le_log2 hm.ne').mp (by omega)
    have hexponent : (BitVec.ofNat 11 (e + 1075).toNat).toNat = (e + 1075).toNat := by
      rw [BitVec.toNat_ofNat, Nat.mod_eq_of_lt (by omega)]
    have hmantissa : (BitVec.ofNat 52 m).toNat = m - 2 ^ 52 := by
      rw [BitVec.toNat_ofNat]
      omega
    rw [unpack_normal]
    · have hm' : 2 ^ 52 + (m - 2 ^ 52) = m := by omega
      have he' : ((e + 1075).toNat : ℤ) - 1075 = e := by omega
      exact finite_congr (by rw [hmantissa, hm']) (by rw [hexponent, he'])
    · intro heq
      have := congrArg BitVec.toNat heq
      rw [hexponent, show (-1#11).toNat = 2047 by decide] at this
      omega
    · intro heq
      have := congrArg BitVec.toNat heq
      rw [hexponent, BitVec.toNat_zero] at this
      omega
  · rw [if_neg hnormal]
    have hfew : ¬ 2 ^ 52 ≤ m := by
      intro hge
      have := (Nat.le_log2 hm.ne').mpr hge
      omega
    have hleast := h.full.resolve_left hfew
    have hmantissa : (BitVec.ofNat 52 m).toNat = m := by
      rw [BitVec.toNat_ofNat, Nat.mod_eq_of_lt (by omega)]
    rw [unpack_subnormal s (by rw [hmantissa]; exact hm)]
    exact finite_congr hmantissa hleast.symm

theorem unpack_pack_large (s : Sign) {m : ℕ} {e : ℤ} (hm : 0 < m) (he : 971 < e) :
    UnpackedFloat.unpack .binary64 (UnpackedFloat.pack .binary64 (.finite s m e hm)) =
      .infinity s := by
  rw [pack_finite, if_pos (by omega)]
  cases s <;> rfl

theorem unpackExponent_toNat (b : BitVec 64) :
    (@unpackExponent .binary64 b).toNat = b.toNat / 2 ^ 52 % 2048 := by
  unfold unpackExponent
  rw [BitVec.toNat_cast, BitVec.extractLsb_toNat, Nat.shiftRight_eq_div_pow]
  rfl

theorem unpackMantissa_toNat (b : BitVec 64) :
    (@unpackMantissa .binary64 b).toNat = b.toNat % 2 ^ 52 := by
  unfold unpackMantissa
  rw [BitVec.toNat_cast, BitVec.extractLsb_toNat, Nat.shiftRight_zero]
  rfl

/-- The finite number that bits stand for. -/
theorem unpack_finite {b : BitVec 64} {s : Sign} {m : ℕ} {e : ℤ} {hm : 0 < m}
    (h : UnpackedFloat.unpack .binary64 b = .finite s m e hm) :
    Fits m e ∧ e ≤ 971 ∧
      (m, e) = if b.toNat / 2 ^ 52 % 2048 = 0 then (b.toNat % 2 ^ 52, -1074)
        else (b.toNat % 2 ^ 52 + 2 ^ 52, ((b.toNat / 2 ^ 52 % 2048 : ℕ) : ℤ) - 1075) := by
  have hexponent := unpackExponent_toNat b
  have hmantissa := unpackMantissa_toNat b
  unfold UnpackedFloat.unpack at h
  dsimp only at h
  rw [show (Format.binary64.exponentBias : ℤ) + (52 : ℕ) = 1075 by decide] at h
  by_cases hlarge : @unpackExponent .binary64 b = -1#_
  · rw [if_pos hlarge] at h
    by_cases hzero : @unpackMantissa .binary64 b = 0#_
    · rw [if_pos hzero] at h
      cases h
    · rw [if_neg hzero] at h
      cases h
  rw [if_neg hlarge] at h
  have hlarge' : (@unpackExponent .binary64 b).toNat ≠ 2047 :=
    fun heq => hlarge (BitVec.eq_of_toNat_eq heq)
  by_cases hleast : @unpackExponent .binary64 b = 0#_
  · rw [if_pos hleast] at h
    by_cases hzero : @unpackMantissa .binary64 b = 0#_
    · rw [dif_pos hzero] at h
      cases h
    · rw [dif_neg hzero] at h
      injection h with _ hm' he'
      rw [hleast, BitVec.toNat_zero] at hexponent he'
      rw [hmantissa] at hm'
      rw [if_pos hexponent.symm, ← hm', ← he']
      exact ⟨⟨by omega, by omega, .inr (by omega)⟩, by omega, by rw [Prod.mk.injEq]; omega⟩
  · rw [if_neg hleast] at h
    have hleast' : (@unpackExponent .binary64 b).toNat ≠ 0 :=
      fun heq => hleast (BitVec.eq_of_toNat_eq heq)
    injection h with _ hm' he'
    have happ := append_one (@unpackMantissa .binary64 b)
    rw [hexponent] at he' hlarge' hleast'
    rw [if_neg hleast']
    have hm'' : m = 2 ^ 52 + b.toNat % 2 ^ 52 := by
      rw [← hm', ← hmantissa]
      exact happ
    subst hm''
    rw [← he']
    exact ⟨⟨by omega, by omega, .inl (by omega)⟩, by omega, by rw [Prod.mk.injEq]; omega⟩

/-! ### Sizes -/

/-- The size of what a double stands for. -/
noncomputable def extent : UnpackedFloat → ℝ≥0∞
  | .infinity _ => ⊤
  | .finite _ m e _ => ENNReal.ofReal (dyadic m e)
  | .zero _ => 0
  | .notANumber => 0

theorem extent_finite (s : Sign) {m : ℕ} (e : ℤ) (hm : 0 < m) :
    extent (.finite s m e hm) = ENNReal.ofReal (dyadic m e) := rfl

theorem extent_zero (s : Sign) : extent (.zero s) = 0 := rfl

/-- The size of a double. -/
noncomputable def magnitude (x : Float) : ℝ≥0∞ := extent x.toModel.unpack

/-- What a double that is not below zero stands for. -/
inductive Unsigned : UnpackedFloat → Prop
  | zero (s : Sign) : Unsigned (.zero s)
  | finite {m : ℕ} {e : ℤ} (hm : 0 < m) (h : Fits m e) (he : e ≤ 971) :
      Unsigned (.finite .positive m e hm)
  | infinity : Unsigned (.infinity .positive)

theorem le_iff_compare (x y : Float) :
    x ≤ y ↔ (x.toModel.unpack.compare y.toModel.unpack).any (·.isLE) = true := by
  show Float.le x y = true ↔ _
  unfold Float.le
  rw [decide_eq_true_iff]
  rfl

theorem lt_iff_compare (x y : Float) :
    x < y ↔ x.toModel.unpack.compare y.toModel.unpack = some .lt := by
  show Float.lt x y = true ↔ _
  unfold Float.lt
  rw [decide_eq_true_iff]
  show (x.toModel.unpack.compare y.toModel.unpack == some .lt) = true ↔ _
  rw [beq_iff_eq]

theorem beq_iff_compare (x y : Float) :
    (x == y) = true ↔ x.toModel.unpack.compare y.toModel.unpack = some .eq := by
  show (x.toModel.unpack.compare y.toModel.unpack == some .eq) = true ↔ _
  rw [beq_iff_eq]

theorem unsigned_iff (x : Float) : 0.0 ≤ x ↔ Unsigned x.toModel.unpack := by
  have hcanonical : ∀ {s m e hm}, x.toModel.unpack = .finite s m e hm → Fits m e ∧ e ≤ 971 :=
    fun h => ⟨(unpack_finite h).1, (unpack_finite h).2.1⟩
  rw [le_iff_compare, show (0.0 : Float).toModel.unpack = .zero .positive by rfl]
  generalize x.toModel.unpack = u at hcanonical ⊢
  cases u with
  | infinity s =>
      cases s with
      | negative => exact ⟨fun h => absurd h (by decide), nofun⟩
      | positive => exact ⟨fun _ => .infinity, fun _ => rfl⟩
  | notANumber => exact ⟨fun h => absurd h (by decide), nofun⟩
  | zero s => exact ⟨fun _ => .zero s, fun _ => rfl⟩
  | finite s m e hm =>
      cases s with
      | negative => exact ⟨fun h => absurd h Bool.false_ne_true, nofun⟩
      | positive => exact ⟨fun _ => .finite hm (hcanonical rfl).1 (hcanonical rfl).2, fun _ => rfl⟩

/-- Doubles with more in front of the point are larger. -/
theorem fits_lt_of_exponent_lt {m n : ℕ} {e f : ℤ} (h : Fits m e) (h' : Fits n f) (hlt : e < f) :
    dyadic m e < dyadic n f := by
  have hn : 2 ^ 52 ≤ n := h'.full.resolve_right (by have := h.le; omega)
  have hm : m < 2 * n := by
    have := h.lt
    omega
  have hm' : (m : ℝ) < 2 * n := by exact_mod_cast hm
  have hstep : (2 : ℝ) ^ (e + 1) ≤ 2 ^ f := zpow_le_zpow_right₀ (by norm_num) (by omega)
  calc dyadic m e < 2 * n * 2 ^ e := mul_lt_mul_of_pos_right hm' (zpow_two_pos e)
    _ = n * 2 ^ (e + 1) := by rw [zpow_add_one₀ (by norm_num)]; ring
    _ ≤ n * 2 ^ f := mul_le_mul_of_nonneg_left hstep (Nat.cast_nonneg n)

theorem fits_lt_iff {m n : ℕ} {e f : ℤ} (h : Fits m e) (h' : Fits n f) :
    dyadic m e < dyadic n f ↔ e < f ∨ e = f ∧ m < n := by
  rcases lt_trichotomy e f with hlt | rfl | hgt
  · simp [hlt, fits_lt_of_exponent_lt h h' hlt]
  · rw [← not_le, dyadic_le_iff, not_le]
    simp
  · have := fits_lt_of_exponent_lt h' h hgt
    constructor
    · intro hlt
      exact absurd hlt this.asymm
    · rintro (hlt | ⟨rfl, -⟩) <;> omega

/-- Exponents are compared first, and mantissas only where these are the same. -/
theorem compare_fits {m n : ℕ} {e f : ℤ} (h : Fits m e) (h' : Fits n f) :
    (compare e f).then (compare m n) = compare (dyadic m e) (dyadic n f) := by
  rcases lt_trichotomy (dyadic m e) (dyadic n f) with hlt | heq | hgt
  · rw [compare_lt_iff_lt.mpr hlt]
    rcases (fits_lt_iff h h').mp hlt with hexponent | ⟨rfl, hmantissa⟩
    · rw [compare_lt_iff_lt.mpr hexponent, Ordering.lt_then]
    · rw [compare_eq_iff_eq.mpr rfl, Ordering.eq_then]
      exact compare_lt_iff_lt.mpr hmantissa
  · have hnlt := mt (fits_lt_iff h h').mpr heq.not_lt
    have hngt := mt (fits_lt_iff h' h).mpr heq.symm.not_lt
    have hexponent : e = f := by omega
    have hmantissa : m = n := by omega
    rw [compare_eq_iff_eq.mpr heq, compare_eq_iff_eq.mpr hexponent,
      compare_eq_iff_eq.mpr hmantissa, Ordering.eq_then]
  · rw [compare_gt_iff_gt.mpr hgt]
    rcases (fits_lt_iff h' h).mp hgt with hexponent | ⟨rfl, hmantissa⟩
    · rw [compare_gt_iff_gt.mpr hexponent, Ordering.gt_then]
    · rw [compare_eq_iff_eq.mpr rfl, Ordering.eq_then]
      exact compare_gt_iff_gt.mpr hmantissa

theorem extent_finite_pos {m : ℕ} (hm : 0 < m) (e : ℤ) : 0 < ENNReal.ofReal (dyadic m e) :=
  ENNReal.ofReal_pos.mpr (dyadic_pos hm e)

theorem compare_ofReal {r s : ℝ} (hr : 0 ≤ r) (hs : 0 ≤ s) :
    compare (ENNReal.ofReal r) (ENNReal.ofReal s) = compare r s := by
  rcases lt_trichotomy r s with hlt | rfl | hgt
  · rw [compare_lt_iff_lt.mpr hlt,
      compare_lt_iff_lt.mpr ((ENNReal.ofReal_lt_ofReal_iff_of_nonneg hr).mpr hlt)]
  · rw [compare_eq_iff_eq.mpr rfl, compare_eq_iff_eq.mpr rfl]
  · rw [compare_gt_iff_gt.mpr hgt,
      compare_gt_iff_gt.mpr ((ENNReal.ofReal_lt_ofReal_iff_of_nonneg hs).mpr hgt)]

/-- **Doubles are compared by their sizes.** -/
theorem compare_eq {u v : UnpackedFloat} (hu : Unsigned u) (hv : Unsigned v) :
    u.compare v = some (compare (extent u) (extent v)) := by
  cases hu with
  | zero s =>
      cases hv with
      | zero s' => exact congrArg some (compare_eq_iff_eq.mpr rfl).symm
      | finite hm h he =>
          exact congrArg some (compare_lt_iff_lt.mpr (extent_finite_pos hm _)).symm
      | infinity => exact congrArg some (compare_lt_iff_lt.mpr ENNReal.zero_lt_top).symm
  | infinity =>
      cases hv with
      | zero s => exact congrArg some (compare_gt_iff_gt.mpr ENNReal.zero_lt_top).symm
      | finite hm h he => exact congrArg some (compare_gt_iff_gt.mpr ENNReal.ofReal_lt_top).symm
      | infinity => exact congrArg some (compare_eq_iff_eq.mpr rfl).symm
  | @finite m e hm h he =>
      cases hv with
      | zero s => exact congrArg some (compare_gt_iff_gt.mpr (extent_finite_pos hm _)).symm
      | infinity => exact congrArg some (compare_lt_iff_lt.mpr ENNReal.ofReal_lt_top).symm
      | @finite n f hn h' he' =>
          refine congrArg some ((compare_fits h h').trans ?_)
          exact (compare_ofReal (dyadic_nonneg m e) (dyadic_nonneg n f)).symm

/-- A double that is not below zero, and the number that it stands for. -/
structure Represents (x : Float) (r : ℝ≥0∞) : Prop where
  unsigned : 0.0 ≤ x
  magnitude_eq : magnitude x = r

namespace Represents

variable {x y : Float} {r s : ℝ≥0∞}

theorem refl (h : 0.0 ≤ x) : Represents x (magnitude x) := ⟨h, rfl⟩

theorem compare_eq (hx : Represents x r) (hy : Represents y s) :
    x.toModel.unpack.compare y.toModel.unpack = some (compare r s) := by
  rw [← hx.magnitude_eq, ← hy.magnitude_eq]
  exact Number.compare_eq ((unsigned_iff x).mp hx.unsigned) ((unsigned_iff y).mp hy.unsigned)

theorem le_iff (hx : Represents x r) (hy : Represents y s) : x ≤ y ↔ r ≤ s := by
  rw [le_iff_compare, hx.compare_eq hy]
  exact Ordering.isLE_iff_ne_gt.trans (not_congr compare_gt_iff_gt |>.trans not_lt)

theorem lt_iff (hx : Represents x r) (hy : Represents y s) : x < y ↔ r < s := by
  rw [lt_iff_compare, hx.compare_eq hy, Option.some_inj]
  exact compare_lt_iff_lt

theorem beq_iff (hx : Represents x r) (hy : Represents y s) : (x == y) = true ↔ r = s := by
  rw [beq_iff_compare, hx.compare_eq hy, Option.some_inj]
  exact compare_eq_iff_eq

theorem isInf_iff (hx : Represents x r) : x.isInf = true ↔ r = ⊤ := by
  rw [← hx.magnitude_eq]
  show x.toModel.unpack.isInf = true ↔ extent x.toModel.unpack = ⊤
  have hunsigned := (unsigned_iff x).mp hx.unsigned
  generalize x.toModel.unpack = u at hunsigned ⊢
  cases hunsigned with
  | zero s => exact ⟨nofun, fun h => absurd h ENNReal.zero_ne_top⟩
  | finite hm h he => exact ⟨nofun, fun h => absurd h ENNReal.ofReal_ne_top⟩
  | infinity => exact ⟨fun _ => rfl, fun _ => rfl⟩

/-- What is not below a double that is not below zero is not below zero. -/
theorem unsigned_of_le (hx : Represents x r) (h : x ≤ y) : 0.0 ≤ y := by
  have hunsigned := (unsigned_iff x).mp hx.unsigned
  have hcanonical : ∀ {s m e hm}, y.toModel.unpack = .finite s m e hm → Fits m e ∧ e ≤ 971 :=
    fun h => ⟨(unpack_finite h).1, (unpack_finite h).2.1⟩
  rw [le_iff_compare] at h
  rw [unsigned_iff]
  generalize x.toModel.unpack = u at hunsigned h
  generalize y.toModel.unpack = v at hcanonical h ⊢
  cases v with
  | zero s => exact .zero s
  | notANumber => cases hunsigned <;> cases h
  | infinity s =>
      cases s with
      | positive => exact .infinity
      | negative => cases hunsigned <;> cases h
  | finite s m e hm =>
      cases s with
      | positive => exact .finite hm (hcanonical rfl).1 (hcanonical rfl).2
      | negative => cases hunsigned <;> cases h

end Represents

theorem magnitude_ne_top {x : Float} (h : x.isFinite = true) : magnitude x ≠ ⊤ := by
  have hfinite : x.toModel.unpack.isFinite = true := h
  rw [magnitude]
  generalize x.toModel.unpack = u at hfinite ⊢
  cases u with
  | infinity s => cases hfinite
  | notANumber => cases hfinite
  | zero s => exact ENNReal.zero_ne_top
  | finite s m e hm => exact ENNReal.ofReal_ne_top

theorem represents_zero : Represents 0.0 0 := ⟨by decide, rfl⟩

theorem represents_one : Represents 1.0 1 := by
  have hparts : (1.0 : Float).toModel.unpack = .finite .positive (2 ^ 52) (-52) (by norm_num) := rfl
  refine ⟨by decide, ?_⟩
  rw [magnitude, hparts, extent_finite, dyadic]
  norm_num

/-! ### The nearest double -/

/-- The size of the double nearest to a number; infinite when the number is too large. -/
noncomputable def asDouble (r : ℝ≥0∞) : ℝ≥0∞ :=
  if r < ENNReal.ofReal limit then ENNReal.ofReal (rounded r.toReal) else ⊤

theorem asDouble_eq_top_iff {r : ℝ≥0∞} : asDouble r = ⊤ ↔ ENNReal.ofReal limit ≤ r := by
  unfold asDouble
  split
  · rename_i h
    exact ⟨fun heq => absurd heq ENNReal.ofReal_ne_top, fun hle => absurd h hle.not_gt⟩
  · rename_i h
    exact ⟨fun _ => not_lt.mp h, fun _ => rfl⟩

theorem asDouble_top : asDouble ⊤ = ⊤ := asDouble_eq_top_iff.mpr le_top

theorem asDouble_ofReal {r : ℝ} (hr : 0 ≤ r) :
    asDouble (ENNReal.ofReal r) = if r < limit then ENNReal.ofReal (rounded r) else ⊤ := by
  unfold asDouble
  simp only [ENNReal.ofReal_lt_ofReal_iff limit_pos, ENNReal.toReal_ofReal hr]

theorem asDouble_mono {r s : ℝ≥0∞} (h : r ≤ s) : asDouble r ≤ asDouble s := by
  by_cases hs : s < ENNReal.ofReal limit
  · unfold asDouble
    rw [if_pos hs, if_pos (h.trans_lt hs)]
    exact ENNReal.ofReal_le_ofReal
      (rounded_mono ENNReal.toReal_nonneg (ENNReal.toReal_mono hs.ne_top h))
  · rw [asDouble_eq_top_iff.mpr (not_lt.mp hs)]
    exact le_top

theorem fits_lt_limit_iff {m : ℕ} {e : ℤ} (h : Fits m e) : dyadic m e < limit ↔ e ≤ 971 := by
  have hend : Fits (2 ^ 52) 972 := ⟨by norm_num, by norm_num, .inl le_rfl⟩
  have hvalue : dyadic (2 ^ 52) 972 = 2 ^ (1024 : ℤ) := by
    rw [dyadic, Nat.cast_pow, ← zpow_natCast, Nat.cast_ofNat, ← zpow_add₀ (by norm_num)]
    norm_num
  have hlt := fits_lt_iff h hend
  have hfull := h.full
  rw [hvalue] at hlt
  rw [← rounded_lt_iff (dyadic_nonneg m e), rounded_fits h, hlt]
  omega

/-- **A double is nearest to itself.** -/
theorem asDouble_extent {u : UnpackedFloat} (h : Unsigned u) : asDouble (extent u) = extent u := by
  cases h with
  | zero s =>
      rw [extent_zero, ← ENNReal.ofReal_zero, asDouble_ofReal le_rfl, rounded_zero, if_pos limit_pos]
  | finite hm hfits he =>
      rw [extent_finite, asDouble_ofReal (dyadic_nonneg _ _), rounded_fits hfits,
        if_pos ((fits_lt_limit_iff hfits).mpr he)]
  | infinity => exact asDouble_top

theorem unpack_pack_zero (s : Sign) :
    UnpackedFloat.unpack .binary64 (UnpackedFloat.pack .binary64 (.zero s)) = .zero s := by
  cases s <;> rfl

theorem unpack_pack_infinity (s : Sign) :
    UnpackedFloat.unpack .binary64 (UnpackedFloat.pack .binary64 (.infinity s)) = .infinity s := by
  cases s <;> rfl

theorem Represents.asDouble_eq {x : Float} {r : ℝ≥0∞} (h : Represents x r) : asDouble r = r := by
  rw [← h.magnitude_eq]
  exact asDouble_extent ((unsigned_iff x).mp h.unsigned)

theorem one_le_asDouble {r : ℝ≥0∞} (h : 1 ≤ r) : 1 ≤ asDouble r := by
  rw [← represents_one.asDouble_eq]
  exact asDouble_mono h

/-- A double made of what bits stand for. -/
theorem represents_pack {u : UnpackedFloat} {r : ℝ≥0∞}
    (h : Unsigned (UnpackedFloat.unpack .binary64 (UnpackedFloat.pack .binary64 u)))
    (hr : extent (UnpackedFloat.unpack .binary64 (UnpackedFloat.pack .binary64 u)) = r) :
    Represents (.ofModel (.pack u)) r :=
  ⟨(unsigned_iff _).mpr h, hr⟩

/-- What is packed after rounding is the nearest double. -/
theorem Rounds.represents {r : ℝ} {u : UnpackedFloat} (h : Rounds .positive r u) (hr : 0 ≤ r) :
    Represents (.ofModel (.pack u)) (asDouble (ENNReal.ofReal r)) := by
  rw [asDouble_ofReal hr]
  simp only [← rounded_lt_iff hr]
  cases h with
  | zero h =>
      rw [h, if_pos (zpow_two_pos 1024), ENNReal.ofReal_zero]
      exact represents_pack (by rw [unpack_pack_zero]; exact .zero _)
        (by rw [unpack_pack_zero]; rfl)
  | @finite m e hm hfits h =>
      have hrange := fits_lt_limit_iff hfits
      rw [← rounded_lt_iff (dyadic_nonneg m e),
        rounded_fits hfits] at hrange
      rw [← h]
      by_cases he : e ≤ 971
      · have hpacked := unpack_pack_finite .positive hm hfits he
        rw [if_pos (hrange.mpr he)]
        exact represents_pack (by rw [hpacked]; exact .finite hm hfits he) (by rw [hpacked]; rfl)
      · have hpacked := unpack_pack_large .positive hm (by omega : 971 < e)
        rw [if_neg (mt hrange.mp he)]
        exact represents_pack (by rw [hpacked]; exact .infinity) (by rw [hpacked]; rfl)

/-- **The product of two doubles is the double nearest to the exact product.** -/
theorem Represents.mul {x y : Float} {r s : ℝ≥0∞} (hx : Represents x r) (hy : Represents y s)
    (hzero : s ≠ 0) (htop : s ≠ ⊤) : Represents (x * y) (asDouble (r * s)) := by
  have hu := (unsigned_iff x).mp hx.unsigned
  have hv := (unsigned_iff y).mp hy.unsigned
  rw [← hy.magnitude_eq] at hzero htop
  rw [← hx.magnitude_eq, ← hy.magnitude_eq]
  show Represents (.ofModel (.pack (.mul .binary64 x.toModel.unpack y.toModel.unpack)))
    (asDouble (extent x.toModel.unpack * extent y.toModel.unpack))
  unfold magnitude at hzero htop
  generalize x.toModel.unpack = u at hu ⊢
  generalize y.toModel.unpack = v at hv hzero htop ⊢
  cases hv with
  | zero s => exact absurd rfl hzero
  | infinity => exact absurd rfl htop
  | @finite n f hn hfits' hf =>
      cases hu with
      | zero s =>
          have hproduct : extent (.zero s) * extent (.finite .positive n f hn) = 0 := zero_mul _
          rw [show UnpackedFloat.mul .binary64 (.zero s) (.finite .positive n f hn) =
            .zero (s * .positive) by rfl, hproduct, represents_zero.asDouble_eq]
          exact represents_pack (by rw [unpack_pack_zero]; exact .zero _)
            (by rw [unpack_pack_zero]; rfl)
      | infinity =>
          rw [show UnpackedFloat.mul .binary64 (.infinity .positive) (.finite .positive n f hn) =
            .infinity .positive by rfl, show extent (.infinity .positive) = ⊤ by rfl,
            ENNReal.top_mul hzero, asDouble_top]
          exact represents_pack (by rw [unpack_pack_infinity]; exact .infinity)
            (by rw [unpack_pack_infinity]; rfl)
      | @finite m e hm hfits he =>
          have hm' := dyadic_nonneg m e
          have hn' := dyadic_nonneg n f
          rw [show UnpackedFloat.mul .binary64 (.finite .positive m e hm)
              (.finite .positive n f hn) =
            roundWithAccuracy .binary64 .positive (m * n) (e + f) .exact by rfl,
            extent_finite, extent_finite, ← ENNReal.ofReal_mul hm']
          exact (rounds_mul hm hn hfits hfits' .positive).represents (mul_nonneg hm' hn')

/-! ### Errors -/

/-- An error that is small beside a number stays so when both are cut off at a ceiling. -/
theorem abs_min_sub_min_le {b e c δ η : ℝ} (hc : 0 ≤ c) (hδ : 0 ≤ δ) (hδ' : δ ≤ 1) (hη : 0 ≤ η)
    (h : |b - e| ≤ e * δ + η) : |min b c - min e c| ≤ min e c * δ + η := by
  have hslack : 0 ≤ c * δ := mul_nonneg hc hδ
  rw [abs_le] at h ⊢
  rcases le_total b c with hb | hb <;> rcases le_total e c with he | he
  · rw [min_eq_left hb, min_eq_left he]
    exact h
  · have hover : (e - c) * δ ≤ (e - c) * 1 := mul_le_mul_of_nonneg_left hδ' (sub_nonneg.mpr he)
    rw [min_eq_left hb, min_eq_right he]
    constructor <;> linarith
  · rw [min_eq_right hb, min_eq_left he]
    constructor <;> linarith
  · rw [min_eq_right hb, min_eq_right he]
    constructor <;> linarith

/-- Under a ceiling that is a finite double, rounding is near even where it is out of range. -/
theorem exists_min_asDouble_eq {z : Float} {c : ℝ≥0∞} (hz : Represents z c) (htop : c ≠ ⊤) {r : ℝ}
    (hr : 0 ≤ r) : ∃ b : ℝ, 0 ≤ b ∧ |b - r| ≤ r * 2 ^ (-53 : ℤ) + 2 ^ (-1075 : ℤ) ∧
      min (asDouble (ENNReal.ofReal r)) c = min (ENNReal.ofReal b) c := by
  by_cases h : r < limit
  · refine ⟨rounded r, rounded_nonneg hr, abs_rounded_sub_le_add hr, ?_⟩
    rw [asDouble_ofReal hr, if_pos h]
  · have hbound : 0 ≤ r * 2 ^ (-53 : ℤ) + 2 ^ (-1075 : ℤ) :=
      add_nonneg (mul_nonneg hr (zpow_two_pos _).le) (zpow_two_pos _).le
    have hc : c < ENNReal.ofReal limit := by
      by_contra hge
      have hinfinite := asDouble_eq_top_iff.mpr (not_lt.mp hge)
      rw [hz.asDouble_eq] at hinfinite
      exact htop hinfinite
    have hle : c ≤ ENNReal.ofReal r := hc.le.trans (ENNReal.ofReal_le_ofReal (not_lt.mp h))
    refine ⟨r, hr, by rwa [sub_self, abs_zero], ?_⟩
    rw [asDouble_ofReal hr, if_neg h, min_eq_right le_top, min_eq_right hle]

/-- Two roundings of a product, of which one factor is at least one, move it little. -/
theorem abs_twice_sub_le {i q a b : ℝ} (hi : 0 ≤ i) (hq : 1 ≤ q)
    (ha : |a - q| ≤ q * 2 ^ (-53 : ℤ) + 2 ^ (-1075 : ℤ))
    (hb : |b - i * a| ≤ i * a * 2 ^ (-53 : ℤ) + 2 ^ (-1075 : ℤ)) :
    |b - i * q| ≤ i * q * 2 ^ (-51 : ℤ) + 2 ^ (-1075 : ℤ) := by
  have htiny : (2 : ℝ) ^ (-1075 : ℤ) ≤ 2 ^ (-53 : ℤ) :=
    zpow_le_zpow_right₀ (by norm_num) (by norm_num)
  have hunit : (2 : ℝ) ^ (-53 : ℤ) ≤ q * 2 ^ (-53 : ℤ) :=
    le_mul_of_one_le_left (zpow_two_pos _).le hq
  -- a factor of one or more has no part that is lost below the least double
  have hpower : |a - q| ≤ q * 2 ^ (-52 : ℤ) := by
    rw [show (2 : ℝ) ^ (-52 : ℤ) = 2 * 2 ^ (-53 : ℤ) by norm_num]
    linarith
  have hfactor : |i * a - i * q| ≤ i * q * 2 ^ (-52 : ℤ) := by
    rw [← mul_sub, abs_mul, abs_of_nonneg hi, mul_assoc]
    exact mul_le_mul_of_nonneg_left hpower hi
  have hproduct : 0 ≤ i * q := mul_nonneg hi (zero_le_one.trans hq)
  have hdouble : i * a * 2 ^ (-53 : ℤ) ≤ i * q * 2 ^ (-52 : ℤ) := by
    have hle : i * a ≤ i * q * 2 := by
      have := (abs_le.mp hfactor).2
      have hsmall : i * q * 2 ^ (-52 : ℤ) ≤ i * q * 1 :=
        mul_le_mul_of_nonneg_left (by norm_num) hproduct
      linarith
    have := mul_le_mul_of_nonneg_right hle (zpow_two_pos (-53)).le
    rw [show (2 : ℝ) ^ (-52 : ℤ) = 2 * 2 ^ (-53 : ℤ) by norm_num]
    linarith
  have hsplit : i * q * 2 ^ (-51 : ℤ) = i * q * 2 ^ (-52 : ℤ) + i * q * 2 ^ (-52 : ℤ) := by
    rw [show (2 : ℝ) ^ (-51 : ℤ) = 2 ^ (-52 : ℤ) + 2 ^ (-52 : ℤ) by norm_num, mul_add]
  calc |b - i * q| ≤ |b - i * a| + |i * a - i * q| := abs_sub_le _ _ _
    _ ≤ i * a * 2 ^ (-53 : ℤ) + 2 ^ (-1075 : ℤ) + i * q * 2 ^ (-52 : ℤ) := add_le_add hb hfactor
    _ ≤ i * q * 2 ^ (-51 : ℤ) + 2 ^ (-1075 : ℤ) := by linarith

theorem toReal_min_ofReal {b : ℝ} (hb : 0 ≤ b) {c : ℝ≥0∞} (hc : c ≠ ⊤) :
    (min (ENNReal.ofReal b) c).toReal = min b c.toReal := by
  rw [ENNReal.toReal_min ENNReal.ofReal_ne_top hc, ENNReal.toReal_ofReal hb]

end Parley.Number
