import Mathlib.Tactic.Linarith
import SquawkVM.Machine

/-! The integer "low level operations" of `util.h` that the shift and conversion bytecodes call,
on 32-bit `int`s and 64-bit `jlong`s: the shifts mask their count to the width, as Java's do. -/

namespace SquawkVM

/-! ### The model -/

section Shifts
variable {w : Nat}

/-- `a << (b & mask)`. -/
def shiftLeftMasked (mask : BitVec 32) (a : BitVec w) (b : BitVec 32) : BitVec w :=
  a <<< (b &&& mask).toNat

/-- `a >> (b & mask)` of a signed `a`. -/
def shiftRightMasked (mask : BitVec 32) (a : BitVec w) (b : BitVec 32) : BitVec w :=
  a.sshiftRight (b &&& mask).toNat

/-- `((unsigned) a) >> (b & mask)`. -/
def ushiftRightMasked (mask : BitVec 32) (a : BitVec w) (b : BitVec 32) : BitVec w :=
  a >>> (b &&& mask).toNat

end Shifts

/-- `slll(a, b)`: `a<<(b&63)`. -/
def slll (a : BitVec 64) (b : BitVec 32) : BitVec 64 := shiftLeftMasked 63 a b

/-- `sral(a, b)`: `a>>(b&63)`. -/
def sral (a : BitVec 64) (b : BitVec 32) : BitVec 64 := shiftRightMasked 63 a b

/-- `srll(a, b)`: `((ujlong)a)>>(b&63)`. -/
def srll (a : BitVec 64) (b : BitVec 32) : BitVec 64 := ushiftRightMasked 63 a b

/-- `sll(a, b)`: `a<<(b&31)`. -/
def sll (a b : BitVec 32) : BitVec 32 := shiftLeftMasked 31 a b

/-- `sra(a, b)`: `a>>(b&31)`. -/
def sra (a b : BitVec 32) : BitVec 32 := shiftRightMasked 31 a b

/-- `srl(a, b)`: `((unsigned)a)>>(b&31)`. -/
def srl (a b : BitVec 32) : BitVec 32 := ushiftRightMasked 31 a b

/-- A cast of an `int` to a signed type of `k` bits, promoted back to `int`. -/
def narrowSigned (k : Nat) (i : BitVec 32) : BitVec 32 := (i.setWidth k).signExtend 32

/-- `i2b(i)`: `(byte)i`, where `byte` is `signed char`. -/
def i2b (i : BitVec 32) : BitVec 32 := narrowSigned 8 i

/-- `i2s(i)`: `(short)i`. -/
def i2s (i : BitVec 32) : BitVec 32 := narrowSigned 16 i

/-- `i2c(i)`: `(char)i`. C's `char` has one byte, signed or not as the compiler's is. -/
def i2c (CHAR_SIGNED : Bool) (i : BitVec 32) : BitVec 32 :=
  if CHAR_SIGNED then narrowSigned 8 i else (i.setWidth 8).setWidth 32

/-- `i2l(i)`: `(jlong)i`. -/
def i2l (i : BitVec 32) : BitVec 64 := i.signExtend 64

/-- `l2i(l)`: `(int)l`. -/
def l2i (l : BitVec 64) : BitVec 32 := l.setWidth 32

/-! ### Residues -/

/-- A balanced residue is the number itself when the number is in the residues' range. -/
theorem bmod_eq_self_of_mem {x : Int} {m : Nat} (h1 : -((m : Int) / 2) ≤ x)
    (h2 : x < ((m : Int) + 1) / 2) : x.bmod m = x := by
  have hm : 0 < m := by omega
  have hlo := Int.le_bmod (x := x) hm
  have hhi := Int.bmod_lt (x := x) hm
  have h0 := Int.eq_zero_of_abs_lt_dvd (Int.dvd_bmod_sub_self (x := x) (m := m))
    (by rw [abs_lt]; omega)
  omega

theorem toInt_mem {w : Nat} (x : BitVec w) :
    -(((2 ^ w : Nat) : Int) / 2) ≤ x.toInt ∧ x.toInt < (((2 ^ w : Nat) : Int) + 1) / 2 := by
  rw [BitVec.toInt_eq_toNat_bmod]
  exact ⟨Int.le_bmod (Nat.two_pow_pos w), Int.bmod_lt (Nat.two_pow_pos w)⟩

/-- A floor division by a positive number stays between a non-positive and a positive bound. -/
theorem ediv_mem {x lo hi d : Int} (hlo : lo ≤ 0) (hhi : 0 < hi) (hd : 0 < d) (h1 : lo ≤ x)
    (h2 : x < hi) : lo ≤ x / d ∧ x / d < hi := by
  rcases Int.le_or_lt 0 x with hx | hx
  · exact ⟨le_trans hlo (Int.ediv_nonneg hx hd.le), lt_of_le_of_lt (Int.ediv_le_self d hx) h2⟩
  · exact ⟨le_trans h1 (Int.le_ediv_of_mul_le hd (by nlinarith)),
      lt_trans (Int.ediv_neg' hx hd) hhi⟩

/-! ### The shifts -/

section Shifts
variable {w : Nat}

theorem toNat_and_two_pow_sub_one (b : BitVec 32) {k : Nat} (hk : k ≤ 32) :
    (b &&& BitVec.ofNat 32 (2 ^ k - 1)).toNat = b.toNat % 2 ^ k := by
  have : 2 ^ k - 1 < 2 ^ 32 := by
    have := Nat.pow_le_pow_right (n := 2) (by decide) hk
    omega
  rw [BitVec.toNat_and, BitVec.toNat_ofNat, Nat.mod_eq_of_lt this, Nat.and_pow_two_sub_one_eq_mod]

/-- `<<` wraps the product by the power of two. -/
theorem toInt_shiftLeftMasked (mask : BitVec 32) (a : BitVec w) (b : BitVec 32) :
    (shiftLeftMasked mask a b).toInt = (a.toInt * 2 ^ (b &&& mask).toNat).bmod (2 ^ w) := by
  rw [shiftLeftMasked, BitVec.toInt_eq_toNat_bmod, BitVec.toInt_eq_toNat_bmod,
    BitVec.toNat_shiftLeft, Nat.shiftLeft_eq, Int.natCast_mod, Int.emod_bmod, Int.bmod_mul_bmod]
  push_cast
  rfl

/-- The signed `>>` is a floor division by the power of two. -/
theorem toInt_shiftRightMasked (mask : BitVec 32) (a : BitVec w) (b : BitVec 32) :
    (shiftRightMasked mask a b).toInt = a.toInt / 2 ^ (b &&& mask).toNat := by
  rw [shiftRightMasked, BitVec.sshiftRight_eq, BitVec.toInt_ofInt, Int.shiftRight_eq_div_pow]
  rcases Nat.eq_zero_or_pos w with rfl | hw
  · simp [BitVec.toInt_eq_toNat_bmod, BitVec.toNat_of_zero_length]
  · have ha := toInt_mem a
    have hq := ediv_mem (d := ((2 ^ (b &&& mask).toNat : Nat) : Int)) (by omega) (by omega)
      (by exact_mod_cast Nat.two_pow_pos _) ha.1 ha.2
    rw [bmod_eq_self_of_mem hq.1 hq.2]
    push_cast
    rfl

/-- The unsigned `>>` divides the unsigned value by the power of two. -/
theorem toNat_ushiftRightMasked (mask : BitVec 32) (a : BitVec w) (b : BitVec 32) :
    (ushiftRightMasked mask a b).toNat = a.toNat / 2 ^ (b &&& mask).toNat := by
  rw [ushiftRightMasked, BitVec.toNat_ushiftRight, Nat.shiftRight_eq_div_pow]

end Shifts

/-- The shifts are Java's: the count is taken modulo the width (its low five or six bits, also
for a negative count), `<<` is a multiplication by the power of two that wraps, the signed `>>`
rounds the quotient down, and the unsigned `>>` divides the unsigned value. -/
theorem shifts_follow_java (a b : BitVec 32) (x : BitVec 64) :
    (sll a b).toInt = toInt32 (a.toInt * 2 ^ (b.toNat % 32)) ∧
    (sra a b).toInt = a.toInt / 2 ^ (b.toNat % 32) ∧
    (srl a b).toNat = a.toNat / 2 ^ (b.toNat % 32) ∧
    (slll x b).toInt = toInt64 (x.toInt * 2 ^ (b.toNat % 64)) ∧
    (sral x b).toInt = x.toInt / 2 ^ (b.toNat % 64) ∧
    (srll x b).toNat = x.toNat / 2 ^ (b.toNat % 64) := by
  have h31 : (b &&& 31).toNat = b.toNat % 2 ^ 5 := toNat_and_two_pow_sub_one b (k := 5) (by decide)
  have h63 : (b &&& 63).toNat = b.toNat % 2 ^ 6 := toNat_and_two_pow_sub_one b (k := 6) (by decide)
  refine ⟨?_, ?_, ?_, ?_, ?_, ?_⟩
  · rw [sll, toInt_shiftLeftMasked, h31]; rfl
  · rw [sra, toInt_shiftRightMasked, h31]; rfl
  · rw [srl, toNat_ushiftRightMasked, h31]; rfl
  · rw [slll, toInt_shiftLeftMasked, h63]; rfl
  · rw [sral, toInt_shiftRightMasked, h63]; rfl
  · rw [srll, toNat_ushiftRightMasked, h63]; rfl

example : sra (-7#32) 33#32 = -4#32 ∧ srl (-8#32) 31#32 = 1#32 := by decide

end SquawkVM
