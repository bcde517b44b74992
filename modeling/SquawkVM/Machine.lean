import Mathlib.Tactic.Ring

/-! Machine arithmetic of the slow VM: C's `int` and `long long` as two's-complement residues,
`UWord` as a `w`-bit vector, and the alignment helpers of `util.h`. -/

namespace SquawkVM

/-- The value a 32-bit `int` holds after a conversion or a sum that wraps. -/
def toInt32 (x : Int) : Int := x.bmod (2 ^ 32)

/-- The value a 64-bit `long long`/`jlong` holds after a conversion or a sum that wraps. -/
def toInt64 (x : Int) : Int := x.bmod (2 ^ 64)

/-- `INT_MAX`. -/
def INT_MAX : Int := 2 ^ 31 - 1

theorem toInt32_of_lt {x : Int} (h0 : -2 ^ 31 ≤ x) (h1 : x < 2 ^ 31) : toInt32 x = x := by
  rw [toInt32, Int.bmod_def]; split_ifs <;> omega

theorem toInt32_of_le {x : Int} (h0 : 0 ≤ x) (h1 : x ≤ INT_MAX) : toInt32 x = x :=
  toInt32_of_lt (by omega) (by rw [INT_MAX] at h1; omega)

theorem toInt64_of_lt {x : Int} (h0 : -2 ^ 63 ≤ x) (h1 : x < 2 ^ 63) : toInt64 x = x := by
  rw [toInt64, Int.bmod_def]; split_ifs <;> omega

/-- Values with one residue modulo `2 ^ 32` convert to one `int`. -/
theorem toInt32_congr {x y : Int} (h : x % 2 ^ 32 = y % 2 ^ 32) : toInt32 x = toInt32 y := by
  have h' : x % ((2 ^ 32 : Nat) : Int) = y % ((2 ^ 32 : Nat) : Int) := h
  rw [toInt32, toInt32, ← Int.emod_bmod, h', Int.emod_bmod]

/-- Values with one residue modulo `2 ^ 64` convert to one `long long`. -/
theorem toInt64_congr {x y : Int} (h : x % 2 ^ 64 = y % 2 ^ 64) : toInt64 x = toInt64 y := by
  have h' : x % ((2 ^ 64 : Nat) : Int) = y % ((2 ^ 64 : Nat) : Int) := h
  rw [toInt64, toInt64, ← Int.emod_bmod, h', Int.emod_bmod]

theorem toInt32_emod (x : Int) : toInt32 x % 2 ^ 32 = x % 2 ^ 32 := Int.bmod_emod

theorem toInt64_emod (x : Int) : toInt64 x % 2 ^ 64 = x % 2 ^ 64 := Int.bmod_emod

/-- An `int` conversion keeps exactly the values an `int` holds. -/
theorem toInt32_eq_self_iff {y : Int} : toInt32 y = y ↔ -2 ^ 31 ≤ y ∧ y ≤ INT_MAX := by
  rw [toInt32, Int.bmod_def, INT_MAX]; split_ifs <;> omega

/-- `isPowerOf2(value)` of `util.h`. -/
def isPowerOf2 {w : Nat} (value : BitVec w) : Bool := (value &&& (value - 1)) == 0

/-- `roundUp(value, alignment)` of `util.h`. -/
def roundUp {w : Nat} (value alignment : BitVec w) : BitVec w :=
  (value + (alignment - 1)) &&& ~~~(alignment - 1)

/-- `roundDown(value, alignment)` of `util.h`. -/
def roundDown {w : Nat} (value alignment : BitVec w) : BitVec w :=
  value &&& ~~~(alignment - 1)

/-- `HDR_BYTES_PER_WORD` of a `w`-bit build (`verifyBuildFlags` ties it to `SQUAWK_64`). -/
def bytesPerWord (w : Nat) : Nat := w / 8

/-- `isWordAligned(value)` of `util.h`. -/
def isWordAligned {w : Nat} (value : BitVec w) : Bool :=
  value == value &&& ~~~(BitVec.ofNat w (bytesPerWord w - 1))

/-! ### `roundUp` on page sizes -/

/-- Masking off the low `k` bits of a word leaves the multiple of `2 ^ k` below it. -/
theorem toNat_and_not_mask {w k : Nat} (hk : k ≤ w) (y : BitVec w) :
    (y &&& ~~~(BitVec.ofNat w (2 ^ k - 1))).toNat = 2 ^ k * (y.toNat / 2 ^ k) := by
  apply Nat.eq_of_testBit_eq
  intro i
  rw [BitVec.testBit_toNat, BitVec.getLsbD_and, BitVec.getLsbD_not, BitVec.getLsbD_ofNat,
    Nat.testBit_mul_pow_two, ← Nat.shiftRight_eq_div_pow, Nat.testBit_shiftRight,
    Nat.testBit_two_pow_sub_one]
  by_cases hi : i < w
  · by_cases hik : i < k
    · simp [hi, hik]
    · simp [hi, hik, Nat.le_of_not_lt hik, Nat.add_sub_cancel' (Nat.le_of_not_lt hik),
        ← BitVec.testBit_toNat]
  · have hy : y.toNat.testBit i = false := Nat.testBit_lt_two_pow
      (Nat.lt_of_lt_of_le y.isLt (Nat.pow_le_pow_right (by decide) (Nat.le_of_not_lt hi)))
    have hki : k ≤ i := by omega
    simp [hi, hki, Nat.add_sub_cancel' hki, hy, ← BitVec.testBit_toNat]

/-- `roundUp` on numbers: the least multiple of `2 ^ k` at or above `n`. -/
def roundUpNat (k n : Nat) : Nat := 2 ^ k * ((n + (2 ^ k - 1)) / 2 ^ k)

/-- `roundUp` to a power of two in `w`-bit words: the sum wraps, then the low bits go. -/
theorem toNat_roundUp_mod {w k : Nat} (hk : k < w) (x : BitVec w) :
    (roundUp x (BitVec.ofNat w (2 ^ k))).toNat = 2 ^ k * ((x.toNat + (2 ^ k - 1)) % 2 ^ w / 2 ^ k) := by
  have hpk : 2 ^ k < 2 ^ w := Nat.pow_lt_pow_right (by decide) hk
  have h1 : 1 ≤ 2 ^ k := Nat.one_le_two_pow
  have hsub : BitVec.ofNat w (2 ^ k) - 1 = BitVec.ofNat w (2 ^ k - 1) := by
    apply BitVec.eq_of_toNat_eq
    have hw : 1 < 2 ^ w := by omega
    have h1w : (1 : BitVec w).toNat = 1 := Nat.mod_eq_of_lt hw
    rw [BitVec.toNat_sub, BitVec.toNat_ofNat, BitVec.toNat_ofNat, h1w, Nat.mod_eq_of_lt hpk,
      Nat.mod_eq_of_lt (show 2 ^ k - 1 < 2 ^ w by omega),
      show 2 ^ w - 1 + 2 ^ k = (2 ^ k - 1) + 2 ^ w by omega, Nat.add_mod_right,
      Nat.mod_eq_of_lt (by omega)]
  unfold roundUp
  rw [hsub, toNat_and_not_mask hk.le, BitVec.toNat_add, BitVec.toNat_ofNat,
    Nat.mod_eq_of_lt (show 2 ^ k - 1 < 2 ^ w by omega)]

theorem toNat_roundUp {w k : Nat} (hk : k < w) (x : BitVec w)
    (h : x.toNat + (2 ^ k - 1) < 2 ^ w) :
    (roundUp x (BitVec.ofNat w (2 ^ k))).toNat = roundUpNat k x.toNat := by
  rw [toNat_roundUp_mod hk, Nat.mod_eq_of_lt h, roundUpNat]

/-- A `roundUp` that does not fall below its argument did not wrap. -/
theorem toNat_roundUp_of_le {w k : Nat} (hk : k < w) {x : BitVec w}
    (h : x.toNat ≤ (roundUp x (BitVec.ofNat w (2 ^ k))).toNat) :
    (roundUp x (BitVec.ofNat w (2 ^ k))).toNat = roundUpNat k x.toNat := by
  by_cases hx : x.toNat + (2 ^ k - 1) < 2 ^ w
  · exact toNat_roundUp hk x hx
  · have hpk : 2 ^ k < 2 ^ w := Nat.pow_lt_pow_right (by decide) hk
    have hmod : (x.toNat + (2 ^ k - 1)) % 2 ^ w = x.toNat + (2 ^ k - 1) - 2 ^ w := by
      rw [Nat.mod_eq_sub_mod (by omega), Nat.mod_eq_of_lt (by omega)]
    have := Nat.mul_div_le ((x.toNat + (2 ^ k - 1)) % 2 ^ w) (2 ^ k)
    rw [toNat_roundUp_mod hk] at h
    omega

section
variable (k : Nat)

theorem le_roundUpNat (n : Nat) : n ≤ roundUpNat k n := by
  have hp : 0 < 2 ^ k := Nat.two_pow_pos k
  have := Nat.div_add_mod (n + (2 ^ k - 1)) (2 ^ k)
  have := Nat.mod_lt (n + (2 ^ k - 1)) hp
  unfold roundUpNat
  omega

theorem dvd_roundUpNat (n : Nat) : 2 ^ k ∣ roundUpNat k n := Nat.dvd_mul_right _ _

theorem roundUpNat_add_of_dvd {a : Nat} (ha : 2 ^ k ∣ a) (n : Nat) :
    roundUpNat k (a + n) = a + roundUpNat k n := by
  obtain ⟨s, rfl⟩ := ha
  unfold roundUpNat
  rw [Nat.add_assoc, Nat.mul_add_div (Nat.two_pow_pos k), Nat.mul_add]

theorem roundUpNat_lt (n : Nat) : roundUpNat k n < n + 2 ^ k := by
  have hp : 0 < 2 ^ k := Nat.two_pow_pos k
  have := Nat.div_add_mod (n + (2 ^ k - 1)) (2 ^ k)
  unfold roundUpNat
  omega

theorem roundUpNat_le_of_dvd {m n : Nat} (hm : 2 ^ k ∣ m) (hn : n ≤ m) : roundUpNat k n ≤ m := by
  obtain ⟨t, rfl⟩ := hm
  have hp : 0 < 2 ^ k := Nat.two_pow_pos k
  have hq : (n + (2 ^ k - 1)) / 2 ^ k ≤ t := by
    rw [Nat.div_le_iff_le_mul_add_pred hp]
    omega
  exact Nat.mul_le_mul_left _ hq

theorem roundUpNat_mono {a b : Nat} (h : a ≤ b) : roundUpNat k a ≤ roundUpNat k b :=
  roundUpNat_le_of_dvd k (dvd_roundUpNat k b) (h.trans (le_roundUpNat k b))

end

/-- `isWordAligned` holds of every multiple of the word size. -/
theorem isWordAligned_of_dvd {w j : Nat} (hj : bytesPerWord w = 2 ^ j) (hjw : j ≤ w) (v : BitVec w)
    (h : 2 ^ j ∣ v.toNat) : isWordAligned v = true := by
  unfold isWordAligned
  rw [beq_iff_eq, hj]
  apply BitVec.eq_of_toNat_eq
  rw [toNat_and_not_mask hjw, Nat.mul_div_cancel' h]

/-- `roundUp` of a word that holds `a`, when the sum in it does not wrap. -/
theorem roundUp_ofNat {w k : Nat} (hk : k < w) {a : Nat} (h : a + (2 ^ k - 1) < 2 ^ w) :
    roundUp (BitVec.ofNat w a) (BitVec.ofNat w (2 ^ k)) = BitVec.ofNat w (roundUpNat k a) := by
  have ha : (BitVec.ofNat w a).toNat = a := Nat.mod_eq_of_lt (by omega)
  have hlt := roundUpNat_lt k a
  apply BitVec.eq_of_toNat_eq
  rw [toNat_roundUp hk _ (by omega), ha, BitVec.toNat_ofNat, Nat.mod_eq_of_lt (by omega)]

/-- The signed word difference (`Address_diff`) of the address `a` bytes above `m` and `m`. -/
theorem toInt_ofNat_add_sub {w m a : Nat} (h : m + a < 2 ^ w) (h2 : 2 * a < 2 ^ w) :
    (BitVec.ofNat w (m + a) - BitVec.ofNat w m).toInt = a := by
  have hsub : (BitVec.ofNat w (m + a) - BitVec.ofNat w m).toNat = a := by
    rw [BitVec.toNat_sub, BitVec.toNat_ofNat, BitVec.toNat_ofNat, Nat.mod_eq_of_lt h,
      Nat.mod_eq_of_lt (show m < 2 ^ w by omega), show 2 ^ w - m + (m + a) = a + 2 ^ w by omega,
      Nat.add_mod_right, Nat.mod_eq_of_lt (by omega)]
  rw [BitVec.toInt_eq_toNat_cond, hsub, if_pos h2]

/-! ### `isPowerOf2` and `roundUp` on every alignment -/

theorem testBit_of_le_of_lt {x k : Nat} (h1 : 2 ^ k ≤ x) (h2 : x < 2 ^ (k + 1)) :
    x.testBit k = true := by
  have hq : x / 2 ^ k = 1 :=
    Nat.div_eq_of_lt_le (by rw [Nat.one_mul]; exact h1) (by rw [Nat.pow_succ] at h2; omega)
  simp [Nat.testBit_to_div_mod, hq]

/-- `n & (n - 1)` clears the lowest set bit of `n`: it is `0` at `0` and at the powers of two
only. -/
theorem and_sub_one_eq_zero_iff (n : Nat) : n &&& (n - 1) = 0 ↔ n = 0 ∨ ∃ k, n = 2 ^ k := by
  constructor
  · intro h
    refine (Decidable.em (n = 0)).imp id fun hn => ⟨n.log2, ?_⟩
    have hlo := Nat.log2_self_le hn
    have hhi := Nat.lt_log2_self (n := n)
    refine (Nat.le_antisymm hlo ?_).symm
    -- otherwise bit `log2 n` is set in both `n` and `n - 1`
    by_contra hge
    have hbit := Nat.testBit_and n (n - 1) n.log2
    rw [h, Nat.zero_testBit, testBit_of_le_of_lt hlo hhi,
      testBit_of_le_of_lt (by omega) (by omega)] at hbit
    exact Bool.false_ne_true hbit
  · rintro (rfl | ⟨k, rfl⟩)
    · rfl
    · rw [Nat.and_pow_two_sub_one_eq_mod, Nat.mod_self]

theorem toNat_sub_one {w : Nat} {a : BitVec w} (ha : a ≠ 0) : (a - 1).toNat = a.toNat - 1 := by
  have hpos : 0 < a.toNat := Nat.pos_of_ne_zero fun h => ha (BitVec.eq_of_toNat_eq h)
  have hw : 1 < 2 ^ w := by have := a.isLt; omega
  have h1 : (1 : BitVec w).toNat = 1 := Nat.mod_eq_of_lt hw
  rw [BitVec.toNat_sub, h1, show 2 ^ w - 1 + a.toNat = (a.toNat - 1) + 2 ^ w by omega,
    Nat.add_mod_right, Nat.mod_eq_of_lt (by omega)]

/-- `isPowerOf2` holds of `0` and of the powers of two. -/
theorem isPowerOf2_iff {w : Nat} (a : BitVec w) :
    isPowerOf2 a = true ↔ a = 0 ∨ ∃ k, a.toNat = 2 ^ k := by
  by_cases ha : a = 0
  · subst ha; simp [isPowerOf2]
  · have hz : a.toNat ≠ 0 := fun h => ha (BitVec.eq_of_toNat_eq h)
    rw [isPowerOf2, beq_iff_eq, BitVec.toNat_eq, BitVec.toNat_and, toNat_sub_one ha,
      show (0 : BitVec w).toNat = 0 by simp, and_sub_one_eq_zero_iff, or_iff_right hz,
      or_iff_right ha]

example : isPowerOf2 (0 : BitVec 32) = true ∧ isPowerOf2 (4096 : BitVec 32) = true ∧
    isPowerOf2 (12 : BitVec 32) = false := by decide

/-- With alignment `0` the mask `~(0 - 1)` is `0`. -/
theorem roundUp_zero {w : Nat} (v : BitVec w) : roundUp v 0 = 0 := by
  have h : (0 : BitVec w) - 1 = BitVec.allOnes w := BitVec.negOne_eq_allOnes
  rw [roundUp, h, BitVec.not_allOnes, BitVec.and_zero]
  rfl

/-- A power of two in a `w`-bit word is `2 ^ k` for some `k < w`. -/
theorem eq_ofNat_two_pow {w : Nat} {a : BitVec w} {k : Nat} (hk : a.toNat = 2 ^ k) :
    k < w ∧ a = BitVec.ofNat w (2 ^ k) := by
  have hkw : k < w := (Nat.pow_lt_pow_iff_right (by decide)).1 (hk ▸ a.isLt)
  refine ⟨hkw, BitVec.eq_of_toNat_eq ?_⟩
  rw [BitVec.toNat_ofNat, hk, Nat.mod_eq_of_lt (Nat.pow_lt_pow_right (by decide) hkw)]

/-- For a power of two `a` and `v ≤ 2 ^ w - a`, `roundUp(v, a)` is the least multiple of `a`
at or above `v`. -/
theorem roundUp_least_multiple {w : Nat} {a v : BitVec w} (ha : ∃ k, a.toNat = 2 ^ k)
    (hv : v.toNat ≤ 2 ^ w - a.toNat) :
    a.toNat ∣ (roundUp v a).toNat ∧ v.toNat ≤ (roundUp v a).toNat ∧
      ∀ m, a.toNat ∣ m → v.toNat ≤ m → (roundUp v a).toNat ≤ m := by
  obtain ⟨k, hk⟩ := ha
  obtain ⟨hkw, rfl⟩ := eq_ofNat_two_pow hk
  have hpk : 2 ^ k < 2 ^ w := Nat.pow_lt_pow_right (by decide) hkw
  have h1 : 1 ≤ 2 ^ k := Nat.one_le_two_pow
  rw [hk, toNat_roundUp hkw v (by omega)]
  exact ⟨dvd_roundUpNat k _, le_roundUpNat k _, fun m hm hvm => roundUpNat_le_of_dvd k hm hvm⟩

/-- Rounding a sum whose first term is already rounded rounds the second term alone, when no
sum wraps. -/
theorem roundUp_roundUp_add {w : Nat} {a v x : BitVec w} (ha : ∃ k, a.toNat = 2 ^ k)
    (hv : v.toNat + (a.toNat - 1) < 2 ^ w)
    (hx : (roundUp v a).toNat + x.toNat + (a.toNat - 1) < 2 ^ w) :
    roundUp (roundUp v a + x) a = roundUp v a + roundUp x a := by
  obtain ⟨k, hk⟩ := ha
  obtain ⟨hkw, rfl⟩ := eq_ofNat_two_pow hk
  rw [hk] at hv hx
  have hr := toNat_roundUp hkw v hv
  have hsum : (roundUp v (BitVec.ofNat w (2 ^ k)) + x).toNat = roundUpNat k v.toNat + x.toNat := by
    rw [BitVec.toNat_add, hr, Nat.mod_eq_of_lt (by omega)]
  have hrx := toNat_roundUp hkw x (by omega)
  have hlt := roundUpNat_lt k x.toNat
  apply BitVec.eq_of_toNat_eq
  rw [toNat_roundUp hkw _ (by omega), hsum, BitVec.toNat_add, hr, hrx,
    roundUpNat_add_of_dvd k (dvd_roundUpNat k _), Nat.mod_eq_of_lt (by omega)]

example : roundUp (5 : BitVec 32) 4 = 8 ∧ roundUp (8 : BitVec 32) 4 = 8 := by decide

/-- `isPowerOf2(a)` holds of `0` as well as of the powers of two, so the
`assume(isPowerOf2(alignment))` of `roundUp` lets alignment `0` through, and `roundUp(v, 0)` is
`0` for every `v`. For a power of two `a`, `roundUp(v, a)` is the least multiple of `a` at or
above `v` whenever `v ≤ 2 ^ w - a`, and when no sum wraps,
`roundUp(roundUp(v, a) + x, a) = roundUp(v, a) + roundUp(x, a)`. -/
theorem isPowerOf2_admits_zero (w : Nat) :
    (∀ a : BitVec w, isPowerOf2 a = true ↔ a = 0 ∨ ∃ k, a.toNat = 2 ^ k) ∧
    (∀ v : BitVec w, roundUp v 0 = 0) ∧
    (∀ a v : BitVec w, (∃ k, a.toNat = 2 ^ k) → v.toNat ≤ 2 ^ w - a.toNat →
      a.toNat ∣ (roundUp v a).toNat ∧ v.toNat ≤ (roundUp v a).toNat ∧
        ∀ m, a.toNat ∣ m → v.toNat ≤ m → (roundUp v a).toNat ≤ m) ∧
    (∀ a v x : BitVec w, (∃ k, a.toNat = 2 ^ k) → v.toNat + (a.toNat - 1) < 2 ^ w →
      (roundUp v a).toNat + x.toNat + (a.toNat - 1) < 2 ^ w →
        roundUp (roundUp v a + x) a = roundUp v a + roundUp x a) :=
  ⟨isPowerOf2_iff, roundUp_zero, fun _ _ => roundUp_least_multiple,
    fun _ _ _ => roundUp_roundUp_add⟩

end SquawkVM
