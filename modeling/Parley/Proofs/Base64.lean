/-
Base64 text, written and read back.

Base64 spells a number: the bytes are its digits in base 256, the characters those in base 64,
and zeros at the low end fill up the last group of six bits.  `Standard` says so of a text, with
the padding that brings it to whole groups of four.  What is written is such a text, and what is read
from it are the bytes it was written for, whatever their number.

The proofs go three bytes at a time, as the writing does, with the bytes that are left over at the
end as cases of their own.
-/
import Mathlib.Data.Nat.Digits.Lemmas
import Parley.Text.Base64

namespace Parley.Base64

/-! ### The standard text -/

/-- The characters of the alphabet, in the order of the numbers that they stand for. -/
def alphabet : List Char :=
  "ABCDEFGHIJKLMNOPQRSTUVWXYZabcdefghijklmnopqrstuvwxyz0123456789+/".toList

/-- The number that digits spell, the highest of them first. -/
def numeral (base : Nat) (digits : List Nat) : Nat := Nat.ofDigits base digits.reverse

/-- The digits in base 64 of the number that bytes spell, as many as hold all its bits, with zeros
after them where the last has bits to spare. -/
structure Groups (b : List UInt8) (ns : List Nat) : Prop where
  lt : ∀ n ∈ ns, n < 64
  filled : ∃ zeros < 6, 6 * ns.length = 8 * b.length + zeros ∧
    numeral 64 ns = numeral 256 (b.map UInt8.toNat) * 2 ^ zeros

/-- The standard base64 text of some bytes. -/
def Standard (b : List UInt8) (text : List Char) : Prop :=
  ∃ ns pads, Groups b ns ∧ pads < 4 ∧ 4 ∣ ns.length + pads ∧
    text = ns.map (alphabet.getD · '=') ++ List.replicate pads '='

theorem numeral_append (base : Nat) (xs ys : List Nat) :
    numeral base (xs ++ ys) = numeral base xs * base ^ ys.length + numeral base ys := by
  unfold numeral
  rw [List.reverse_append, Nat.ofDigits_append, List.length_reverse]
  ring

variable {b : List UInt8}

/-! ### Writing -/

/-- The numbers that the characters of a text stand for, before the padding. -/
def sextets : List UInt8 → List Nat
  | a :: b :: c :: rest =>
    let n := a.toNat * 65536 + b.toNat * 256 + c.toNat
    n / 262144 :: n / 4096 % 64 :: n / 64 % 64 :: n % 64 :: sextets rest
  | [a, b] =>
    let n := a.toNat * 1024 + b.toNat * 4
    [n / 4096, n / 64 % 64, n % 64]
  | [a] =>
    let n := a.toNat * 16
    [n / 64, n % 64]
  | [] => []

/-- The number of characters that pad a text. -/
def pads (b : List UInt8) : Nat := (3 - b.length % 3) % 3

theorem encode_eq (b : List UInt8) :
    encode b = (sextets b).map digit ++ List.replicate (pads b) '=' := by
  induction b using encode.induct with
  | case1 a b c rest ih =>
      have hpads : pads (a :: b :: c :: rest) = pads rest := by
        unfold pads
        simp only [List.length_cons]
        omega
      rw [encode, sextets, hpads, ih]
      rfl
  | case2 a b => rfl
  | case3 a => rfl
  | case4 => rfl

theorem sextets_lt (b : List UInt8) : ∀ n ∈ sextets b, n < 64 := by
  induction b using sextets.induct with
  | case1 a b c rest ih =>
      have ha := a.toNat_lt
      have hb := b.toNat_lt
      have hc := c.toNat_lt
      unfold sextets
      simp only [List.forall_mem_cons]
      exact ⟨by omega, by omega, by omega, by omega, ih⟩
  | case2 a b =>
      have ha := a.toNat_lt
      have hb := b.toNat_lt
      unfold sextets
      simp only [List.forall_mem_cons]
      exact ⟨by omega, by omega, by omega, by simp⟩
  | case3 a =>
      have ha := a.toNat_lt
      unfold sextets
      simp only [List.forall_mem_cons]
      exact ⟨by omega, by omega, by simp⟩
  | case4 => simp [sextets]

/-- Four groups spell what three bytes do. -/
theorem numeral_group (a b c : UInt8) (n : Nat)
    (hn : n = a.toNat * 65536 + b.toNat * 256 + c.toNat) :
    numeral 64 [n / 262144, n / 4096 % 64, n / 64 % 64, n % 64] =
      numeral 256 [a.toNat, b.toNat, c.toNat] := by
  simp [numeral, Nat.ofDigits_cons]
  omega

theorem groups_sextets (b : List UInt8) : Groups b (sextets b) := by
  refine ⟨sextets_lt b, ?_⟩
  induction b using sextets.induct with
  | case1 a b c rest ih =>
      obtain ⟨zeros, hzeros, hlength, hvalue⟩ := ih
      refine ⟨zeros, hzeros, by simp only [sextets, List.length_cons]; omega, ?_⟩
      have hpower : 64 ^ (sextets rest).length = 256 ^ rest.length * 2 ^ zeros := by
        rw [show 64 = 2 ^ 6 by rfl, show 256 = 2 ^ 8 by rfl, ← pow_mul, ← pow_mul, ← pow_add,
          hlength]
      calc numeral 64 (sextets (a :: b :: c :: rest))
          = numeral 64 ([_, _, _, _] ++ sextets rest) := rfl
        _ = numeral 256 [a.toNat, b.toNat, c.toNat] * 64 ^ (sextets rest).length
              + numeral 64 (sextets rest) := by
              rw [numeral_append, numeral_group a b c _ rfl]
        _ = (numeral 256 [a.toNat, b.toNat, c.toNat] * 256 ^ rest.length
              + numeral 256 (rest.map UInt8.toNat)) * 2 ^ zeros := by rw [hpower, hvalue]; ring
        _ = numeral 256 ([a.toNat, b.toNat, c.toNat] ++ rest.map UInt8.toNat) * 2 ^ zeros := by
              rw [numeral_append, List.length_map]
  | case2 a b =>
      have ha := a.toNat_lt
      have hb := b.toNat_lt
      refine ⟨2, by decide, rfl, ?_⟩
      simp [numeral, sextets, Nat.ofDigits_cons]
      omega
  | case3 a =>
      have ha := a.toNat_lt
      refine ⟨4, by decide, rfl, ?_⟩
      simp [numeral, sextets, Nat.ofDigits_cons]
      omega
  | case4 => exact ⟨0, by decide, rfl, rfl⟩

theorem digit_eq : ∀ n < 64, digit n = alphabet.getD n '=' := by decide

/-- **What is written is the standard text.** -/
theorem encode_standard (b : List UInt8) : Standard b (encode b) := by
  have hgroups := groups_sextets b
  obtain ⟨zeros, hzeros, hlength, -⟩ := hgroups.filled
  have hwhole : 4 ∣ (sextets b).length + pads b := by
    unfold pads
    have hrest : b.length % 3 = 0 ∨ b.length % 3 = 1 ∨ b.length % 3 = 2 := by omega
    rcases hrest with h | h | h <;> rw [h] <;> omega
  refine ⟨sextets b, pads b, hgroups, by unfold pads; omega, hwhole, ?_⟩
  rw [encode_eq]
  congr 1
  exact List.map_congr_left fun n hn => digit_eq n (hgroups.lt n hn)

example : encode [0x4d, 0x61] = ['T', 'W', 'E', '='] := by decide

/-! ### Reading back -/

theorem value?_digit : ∀ n < 64, value? (digit n) = some n := by decide

theorem digit_plain : ∀ n < 64, digit n ≠ '=' ∧ (digit n).toNat < 0x80 := by decide

theorem toNat_encode_lt (b : List UInt8) : ∀ c ∈ encode b, c.toNat < 0x80 := by
  intro c hc
  rw [encode_eq] at hc
  rcases List.mem_append.mp hc with hc | hc
  · obtain ⟨n, hn, rfl⟩ := List.mem_map.mp hc
    exact (digit_plain n (sextets_lt b n hn)).2
  · rw [List.eq_of_mem_replicate hc]
    decide

theorem collect_digit {n : Nat} (hn : n < 64) (place pads : Nat) (rest : List Char) :
    collect place pads (digit n :: rest) =
      (n :: (collect ((place + 1) % 4) 0 rest).1, (collect ((place + 1) % 4) 0 rest).2) := by
  rw [collect, if_neg (digit_plain n hn).1, value?_digit n hn]

/-- Reading finds the numbers that were written, and the padding if there is any. -/
theorem collect_encode (b : List UInt8) :
    collect 0 0 (encode b) = (sextets b, decide (b.length % 3 ≠ 0)) := by
  have hlt := sextets_lt b
  induction b using encode.induct with
  | case1 a b c rest ih =>
      unfold sextets at hlt
      simp only [List.forall_mem_cons] at hlt
      obtain ⟨h1, h2, h3, h4, hrest⟩ := hlt
      have hlength : (a :: b :: c :: rest).length % 3 = rest.length % 3 := by
        simp only [List.length_cons]
        omega
      rw [encode, collect_digit h1, collect_digit h2, collect_digit h3, collect_digit h4,
        ih hrest, hlength]
      rfl
  | case2 a b =>
      unfold sextets at hlt
      simp only [List.forall_mem_cons] at hlt
      obtain ⟨h1, h2, h3, -⟩ := hlt
      rw [encode, collect_digit h1, collect_digit h2, collect_digit h3]
      rfl
  | case3 a =>
      unfold sextets at hlt
      simp only [List.forall_mem_cons] at hlt
      obtain ⟨h1, h2, -⟩ := hlt
      rw [encode, collect_digit h1, collect_digit h2]
      rfl
  | case4 => rfl

theorem ofNat_eq {n : Nat} {a : UInt8} (h : n % 256 = a.toNat) : UInt8.ofNat n = a :=
  UInt8.toNat_inj.mp (by rw [UInt8.toNat_ofNat', h])

/-- The numbers that were written pack into the bytes. -/
theorem pack_sextets (b : List UInt8) : pack (sextets b) = b := by
  induction b using sextets.induct with
  | case1 a b c rest ih =>
      have ha := a.toNat_lt
      have hb := b.toNat_lt
      have hc := c.toNat_lt
      rw [sextets, pack, ih, ofNat_eq (a := a) (by omega), ofNat_eq (a := b) (by omega),
        ofNat_eq (a := c) (by omega)]
  | case2 a b =>
      have ha := a.toNat_lt
      have hb := b.toNat_lt
      rw [sextets, pack, ofNat_eq (a := a) (by omega), ofNat_eq (a := b) (by omega)]
  | case3 a =>
      have ha := a.toNat_lt
      rw [sextets, pack, ofNat_eq (a := a) (by omega)]
  | case4 => rfl

/-- **The bytes that are read from a text are those it was written for.** -/
theorem decode_encode (b : List UInt8) : decode (encode b) = .ok b := by
  have hascii : ((encode b).any fun c => c.toNat ≥ 0x80) = false := by
    rw [List.any_eq_false]
    intro c hc
    have := toNat_encode_lt b c hc
    simpa using this
  obtain ⟨zeros, hzeros, hlength, -⟩ := (groups_sextets b).filled
  unfold decode
  rw [if_neg (by simp [hascii]), collect_encode]
  dsimp only
  -- without padding the groups of four are whole
  have hends : (decide (b.length % 3 ≠ 0) || (sextets b).length % 4 == 0) = true := by
    by_cases h : b.length % 3 = 0
    · have : (sextets b).length % 4 = 0 := by omega
      simp [this]
    · simp [h]
  rw [if_pos hends, pack_sextets]

end Parley.Base64
