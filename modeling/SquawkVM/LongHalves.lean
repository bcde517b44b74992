import SquawkVM.Options
import SquawkVM.SwitchEvents

/-! The two `int` halves of a 64-bit value, as the slow VM passes `long`s through the `int`
operands and results of its channels: `makeLong` of `cio.c` and the join of
`GLOBAL_WAITFOREVENT` put the halves together, the `INTERNAL_GETTIME_HIGH`/`LOW` cases of
`cioExecute` and `setLongCounter` of `globals.h` split a value, and `getLongCounter` joins the
halves of a counter as an unsigned value.

Every split followed by every join gives the value back, signed for the `jlong` joins and
unsigned for `getLongCounter`, and a join followed by a split gives the halves back. The masks
`& 0xFFFFFFFF` keep a low half with bit 31 set from spreading its sign into the high half. -/

namespace SquawkVM

/-- `makeLong(high, low)`: `high` shifted into the upper word (GCC shifts a negative `jlong` in
two's complement), with `low & 0xFFFFFFFF` below it; the `|` adds the two, as the shifted
word's low bits are clear. -/
def makeLong (high low : Int) : Int := toInt64 (high * 2 ^ 32 + low % 2 ^ 32)

/-- `getLongCounter(high, low)`: the halves as `unsigned`, joined in a `ujlong`. -/
def getLongCounter (high low : Int) : Int := high % 2 ^ 32 * 2 ^ 32 + low % 2 ^ 32

/-- The `INTERNAL_GETTIME_HIGH` (`high`) and `INTERNAL_GETTIME_LOW` cases of `cioExecute` on the
`ujlong` global `lastTime`: the result, and `lastTime` after the call. `HIGH` stores the clock
`sysTimeMillis()` in `lastTime` and returns `(int)(lastTime >> 32)`, `LOW` returns
`(int)lastTime`. -/
def cioGetTime (high : Bool) (sysTimeMillis : Int) (lastTime : Nat) : Int × Nat :=
  if high then
    let lastTime := (sysTimeMillis % 2 ^ 64).toNat
    (toInt32 (lastTime / 2 ^ 32 : Nat), lastTime)
  else (toInt32 lastTime, lastTime)

/-- The join of `GLOBAL_WAITFOREVENT` is `makeLong`. -/
theorem waitForEventMillis_eq_makeLong : waitForEventMillis = makeLong := rfl

/-! ### Split, then join -/

theorem makeLong_setLongCounter (x : Int) :
    makeLong (setLongCounter x).1 (setLongCounter x).2 = toInt64 x := by
  have hq := toInt32_emod (x / 2 ^ 32)
  have hx := toInt32_emod x
  simp only [makeLong, setLongCounter, Int.fdiv_eq_ediv _ (show (0 : Int) ≤ 2 ^ 32 by decide)]
  apply toInt64_congr
  omega

theorem getLongCounter_setLongCounter (x : Int) :
    getLongCounter (setLongCounter x).1 (setLongCounter x).2 = x % 2 ^ 64 := by
  unfold getLongCounter setLongCounter
  rw [toInt32_emod, toInt32_emod, Int.fdiv_eq_ediv _ (by decide)]
  omega

/-- `INTERNAL_GETTIME_HIGH` and then `INTERNAL_GETTIME_LOW` return the halves `setLongCounter`
gives the clock, whatever `lastTime` held. -/
theorem cioGetTime_halves (c : Int) (t : Nat) :
    ((cioGetTime true c t).1, (cioGetTime false 0 (cioGetTime true c t).2).1) =
      setLongCounter c := by
  have hc : ((c % 2 ^ 64).toNat : Int) = c % 2 ^ 64 :=
    Int.toNat_of_nonneg (Int.emod_nonneg _ (by decide))
  simp only [cioGetTime, if_true, Bool.false_eq_true, if_false, setLongCounter, Prod.mk.injEq]
  constructor <;> apply toInt32_congr <;>
    simp only [Int.natCast_div, hc, Int.fdiv_eq_ediv _ (show (0 : Int) ≤ 2 ^ 32 by decide)] <;>
    omega

/-! ### Join, then split -/

theorem setLongCounter_makeLong {hi lo : Int} (h0 : -2 ^ 31 ≤ hi) (h1 : hi < 2 ^ 31)
    (h2 : -2 ^ 31 ≤ lo) (h3 : lo < 2 ^ 31) : setLongCounter (makeLong hi lo) = (hi, lo) := by
  rw [makeLong, toInt64_of_lt (by omega) (by omega), setLongCounter,
    Int.fdiv_eq_ediv _ (by decide), show (hi * 2 ^ 32 + lo % 2 ^ 32) / 2 ^ 32 = hi by omega,
    toInt32_of_lt h0 h1, toInt32_congr (y := lo) (by omega), toInt32_of_lt h2 h3]

example : setLongCounter (makeLong (-1) (-2)) = (-1, -2) := by decide

/-- For every 64-bit value `x`: the halves `setLongCounter` stores, and the results of
`INTERNAL_GETTIME_HIGH` and `INTERNAL_GETTIME_LOW` when the clock reads `x`, are the same pair;
joined by `makeLong` or by `GLOBAL_WAITFOREVENT` they give `x` as a signed value, and joined by
`getLongCounter` they give `x` as an unsigned value. For every pair of `int`s, splitting
`makeLong(hi, lo)` gives the pair back. -/
theorem long_halves_round_trip :
    (∀ x : BitVec 64,
      makeLong (setLongCounter x.toInt).1 (setLongCounter x.toInt).2 = x.toInt ∧
      waitForEventMillis (setLongCounter x.toInt).1 (setLongCounter x.toInt).2 = x.toInt ∧
      getLongCounter (setLongCounter x.toInt).1 (setLongCounter x.toInt).2 = x.toNat ∧
      ∀ lastTime, ((cioGetTime true x.toInt lastTime).1,
        (cioGetTime false 0 (cioGetTime true x.toInt lastTime).2).1) = setLongCounter x.toInt) ∧
    ∀ hi lo : Int, -2 ^ 31 ≤ hi → hi < 2 ^ 31 → -2 ^ 31 ≤ lo → lo < 2 ^ 31 →
      setLongCounter (makeLong hi lo) = (hi, lo) := by
  refine ⟨fun x => ?_, fun _ _ => setLongCounter_makeLong⟩
  -- `x.toInt` is the `long long` residue of `x.toNat`
  have hx : toInt64 x.toInt = x.toInt := by
    rw [BitVec.toInt_eq_toNat_bmod]; exact Int.bmod_bmod
  have hn : x.toInt % 2 ^ 64 = x.toNat := by
    have h : (x.toNat : Int).bmod (2 ^ 64) % ((2 ^ 64 : Nat) : Int) =
        x.toNat % ((2 ^ 64 : Nat) : Int) := Int.bmod_emod
    rw [BitVec.toInt_eq_toNat_bmod]
    exact h.trans (Int.emod_eq_of_lt (Int.natCast_nonneg _) (by have := x.isLt; omega))
  rw [waitForEventMillis_eq_makeLong, makeLong_setLongCounter, hx,
    getLongCounter_setLongCounter, hn]
  exact ⟨rfl, rfl, rfl, cioGetTime_halves _⟩

end SquawkVM
