import SquawkVM.Decoder
import SquawkVM.Options

/-! `verifyBuildFlags` of `squawk.c`, the first check of `Squawk_setup`: the build constants
against the machine and the image, stopping the VM at the first that is wrong. -/

namespace SquawkVM

/-- The build constants `verifyBuildFlags` checks. -/
structure BuildFlags where
  PLATFORM_BIG_ENDIAN : Bool
  ROM_BIG_ENDIAN : Bool
  SQUAWK_64 : Bool
  HDR_BYTES_PER_WORD : Nat
  PLATFORM_UNALIGNED_LOADS : Bool

/-- What `verifyBuildFlags` learns from the machine: whether the last byte of the `int` 1 is 1
(`et.c[3] == 1`), and the `int` that `*((int *)xxip)` reads at each byte offset of the probe. -/
structure HostInts where
  bigEndian : Bool
  loadInt : Nat → Int

/-- The probe `bytecode[]`: the bytes 1 to 15. -/
def probeBytes (i : Nat) : UInt8 := if i < 15 then (i + 1).toUInt8 else 0

/-- The `expect` of the probe at offset `i`: its four bytes `b1`..`b4`, the first one the most
significant on a big-endian platform and the least significant otherwise. -/
def probeExpect (PLATFORM_BIG_ENDIAN : Bool) (i : Nat) : Int :=
  let b1 := (probeBytes i).toNat
  let b2 := (probeBytes (i + 1)).toNat
  let b3 := (probeBytes (i + 2)).toNat
  let b4 := (probeBytes (i + 3)).toNat
  toInt32 (if PLATFORM_BIG_ENDIAN then (b1 <<< 24) ||| (b2 <<< 16) ||| (b3 <<< 8) ||| b4
    else (b4 <<< 24) ||| (b3 <<< 16) ||| (b2 <<< 8) ||| b1)

/-- `verifyBuildFlags()`: the checks in order, each stopping the VM with its message. -/
def verifyBuildFlags (F : BuildFlags) (H : HostInts) : Except VMStop Unit :=
  let bigEndian := H.bigEndian
  let should := if bigEndian then "true" else "false"
  let build := if F.PLATFORM_BIG_ENDIAN then "-big" else "-little"
  let bits := if F.SQUAWK_64 then 64 else 32
  let imageBits := F.HDR_BYTES_PER_WORD * 8
  if bigEndian ≠ F.PLATFORM_BIG_ENDIAN then
    .error ⟨[.stderr s!"PLATFORM_BIG_ENDIAN constant is incorrect: should be {should}\n"], -1⟩
  else if F.ROM_BIG_ENDIAN ≠ F.PLATFORM_BIG_ENDIAN then
    .error ⟨[.stderr s!"ROM endiness not correct, build with {build}\n"], -1⟩
  else if F.SQUAWK_64 ≠ (F.HDR_BYTES_PER_WORD == 8) then
    .error ⟨[.stderr
      s!"A {bits} bit squawk executable cannot be run with a {imageBits} bit image\n"], -1⟩
  else if F.PLATFORM_UNALIGNED_LOADS then
    (List.range 8).forM fun i =>
      if probeExpect F.PLATFORM_BIG_ENDIAN i ≠ H.loadInt i then
        .error ⟨[.stderr "PLATFORM_UNALIGNED_LOADS constant is incorrect: should be false\n"], -1⟩
      else .ok ()
  else .ok ()

/-- A traversal in `Except` that fails has failed at one of its steps. -/
theorem forM_except_eq_error {α ε : Type} {xs : List α} {g : α → Except ε PUnit} {e : ε}
    (h : xs.forM g = .error e) : ∃ x ∈ xs, g x = .error e := by
  induction xs with
  | nil => cases h
  | cons x xs ih =>
    change (g x >>= fun _ => xs.forM g) = _ at h
    cases hx : g x with
    | error e' =>
      rw [hx] at h
      cases h
      exact ⟨x, .head _, hx⟩
    | ok u =>
      rw [hx] at h
      obtain ⟨y, hy, hgy⟩ := ih h
      exact ⟨y, .tail _ hy, hgy⟩

/-- Every check that fails stops the VM with exit code `-1` after one line on `stderr`. -/
theorem verifyBuildFlags_error (F : BuildFlags) (H : HostInts) {e : VMStop}
    (h : verifyBuildFlags F H = .error e) : e.exitCode = -1 ∧ ∃ msg, e.out = [.stderr msg] := by
  simp only [verifyBuildFlags] at h
  split_ifs at h <;> first
    | (cases h; exact ⟨rfl, _, rfl⟩)
    | (obtain ⟨i, -, hi⟩ := forM_except_eq_error h
       split at hi <;> cases hi
       exact ⟨rfl, _, rfl⟩)

end SquawkVM
