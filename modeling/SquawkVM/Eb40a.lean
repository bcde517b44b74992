import SquawkVM.MemoryLayout
import SquawkVM.Options

/-! The build for the eb40a board (`rts/gcc-eb40a/os.c`), the one platform of `src/`. It defines
`FLASH_MEMORY`, so `setupMemory` takes the bootstrap suite from flash and carves the buffer from
`newBuffer` into NVM, RAM, the service thread's stack and the copy of the command line only, NVM
at the start of the buffer. Its `sysconf` reports pages of 4 bytes, its `mprotect` does nothing,
and the back-branch hook of the dispatch loop blinks the watchdog LED. -/

namespace SquawkVM

/-- `setupMemory(ramSize, nvmSize, argc, argv)` of a `FLASH_MEMORY` build, when
`loadBootstrapSuiteFromFlash` reports the ROM at `romStart` and `romSize` bytes long, the file
name has `romFileNameLength` characters, and `valloc` returns `memory`; `none` if an `assume`
stops the VM. -/
def setupMemoryFlash (P : Platform) (w : Nat) (ramSize nvmSize : Int) (argv : List Nat)
    (romFileNameLength : Nat) (romStart : BitVec w) (romSize : Int) (memory : BitVec w) :
    Option (Layout w) :=
  if P.ASSUME ∧ P.TYPEMAP then none else
  let page : BitVec w := BitVec.ofInt w P.pageSize
  let romFileNameSize : Int := romFileNameLength + 1
  let argvTotalSize := calculateSizeForCopyOfCStringArray w argv
  let memorySize : BitVec w := 0
  let memorySize := roundUp (memorySize + BitVec.ofInt w ramSize) page
  let memorySize := roundUp (memorySize + BitVec.ofInt w nvmSize) page
  let memorySize := roundUp (memorySize + BitVec.ofInt w P.SERVICE_CHUNK_SIZE) page
  let memorySize := roundUp (memorySize + BitVec.ofInt w argvTotalSize +
    BitVec.ofInt w romFileNameSize) page
  let realMemorySize := toInt32 (if P.TYPEMAP then memorySize * 2 else memorySize).toNat
  let actualSize := newBufferActualSize w P.pageSize (BitVec.ofInt w realMemorySize)
  let memoryEnd := memory + memorySize
  let romEnd := romStart + BitVec.ofInt w romSize
  let nvmStart := roundUp memory page
  let nvmEnd := nvmStart + BitVec.ofInt w nvmSize
  let ramStart := roundUp nvmEnd page
  let ramEnd := ramStart + BitVec.ofInt w ramSize
  let serviceStack := roundUp ramEnd page + BitVec.ofNat w (TWOWORDS w)
  let argvStart := roundUp (serviceStack + BitVec.ofInt w (P.SERVICE_CHUNK_SIZE_MINUS2WORDS w)) page
  let offset := writeCStringArray w argv (toInt32 (argvStart - memory).toInt)
  let offset := writeCString romFileNameLength offset
  let argvEnd := memory + BitVec.ofInt w offset
  if P.ASSUME ∧ ¬(argvEnd ≤ memoryEnd ∧ isWordAligned romStart ∧ isWordAligned nvmStart ∧
      isWordAligned ramStart ∧ isWordAligned serviceStack) then none
  else some ⟨memory, (BitVec.ofInt w actualSize).toNat, memoryEnd, romStart, romEnd, nvmStart,
    nvmEnd, ramStart, ramEnd, serviceStack, argvStart, argvEnd⟩

/-- The layout of a `FLASH_MEMORY` build: the ROM in flash without wrap, and NVM from the start of
the buffer, then RAM, the service stack's two header words and stack, and the command line, in
order inside the allocated block. -/
def Layout.FitsFlash (P : Platform) (l : Layout w) : Prop :=
  l.romStart.toNat ≤ l.romEnd.toNat ∧ l.nvmStart = l.memory ∧
    l.nvmStart.toNat ≤ l.nvmEnd.toNat ∧
    l.nvmEnd.toNat ≤ l.ramStart.toNat ∧ l.ramStart.toNat ≤ l.ramEnd.toNat ∧
    l.ramEnd.toNat + TWOWORDS w ≤ l.serviceStack.toNat ∧
    l.serviceStack.toNat + P.SERVICE_CHUNK_SIZE_MINUS2WORDS w ≤ l.argv.toNat ∧
    l.argv.toNat ≤ l.argvEnd.toNat ∧ l.argvEnd.toNat ≤ l.memoryEnd.toNat ∧
    l.memoryEnd.toNat ≤ l.memory.toNat + l.allocatedSize

instance (P : Platform) (l : Layout w) : Decidable (l.FitsFlash P) := by
  unfold Layout.FitsFlash
  infer_instance

/-- The `memorySize` sum of the `FLASH_MEMORY` build, from `0`, when none of its steps wraps: the
sum of the other build for a boot file of no bytes. -/
theorem memorySizeFlash_eq {w k : Nat} (hk : k < w) (ramSize nvmSize SC A N : Nat)
    (h : layoutSize k 0 ramSize nvmSize SC A N + 2 ^ k ≤ 2 ^ w) :
    roundUp (roundUp (roundUp (roundUp (0 + BitVec.ofNat w ramSize) (BitVec.ofNat w (2 ^ k)) +
      BitVec.ofNat w nvmSize) (BitVec.ofNat w (2 ^ k)) + BitVec.ofNat w SC)
      (BitVec.ofNat w (2 ^ k)) + BitVec.ofNat w A + BitVec.ofNat w N) (BitVec.ofNat w (2 ^ k)) =
        BitVec.ofNat w (layoutSize k 0 ramSize nvmSize SC A N) := by
  have h0 : roundUp (BitVec.ofNat w 0) (BitVec.ofNat w (2 ^ k)) = 0 := by
    rw [roundUp_ofNat hk (by have := Nat.two_pow_pos k; omega)]
    simp [roundUpNat, Nat.div_eq_of_lt (Nat.sub_lt (Nat.two_pow_pos k) Nat.one_pos)]
  rw [← memorySize_eq hk 0 ramSize nvmSize SC A N h, h0]

/-- When nothing wraps (pages of `2 ^ k` bytes, a multiple of the word size; a service chunk that
holds its two header words; the page-rounded sizes within an `int`; a word-aligned ROM in flash
that does not wrap; and a page-aligned block from `valloc` with room for the buffer and one page
more), the `FLASH_MEMORY` build passes its `assume`s and lays NVM out from the start of the
buffer, then RAM, the service stack and the command line, in order inside the buffer. -/
theorem setupMemoryFlash_fits_without_wrap (P : Platform) {w k j : Nat} (hw : 32 ≤ w)
    (hkw : k < w) (hpage : P.pageSize = 2 ^ k) (hword : bytesPerWord w = 2 ^ j) (hjk : j ≤ k)
    {SC : Nat} (hSCdef : P.SERVICE_CHUNK_SIZE = SC) (hSC : TWOWORDS w ≤ SC)
    (hT : ¬(P.ASSUME = true ∧ P.TYPEMAP = true))
    (ramSize nvmSize romSize : Nat) (argv : List Nat) (romFileNameLength : Nat)
    (romStart memory : BitVec w) (hromAl : 2 ^ j ∣ romStart.toNat)
    (hrom : romStart.toNat + romSize < 2 ^ w) (hmem : 2 ^ k ∣ memory.toNat)
    (hsize : roundUpNat k (layoutSize k 0 ramSize nvmSize SC (argvCopySize w argv)
      (romFileNameLength + 1) * (if P.TYPEMAP then 2 else 1)) ≤ INT_MAX)
    (hspace : memory.toNat + layoutSize k 0 ramSize nvmSize SC (argvCopySize w argv)
      (romFileNameLength + 1) + 2 ^ k ≤ 2 ^ w) :
    ∃ l, setupMemoryFlash P w ramSize nvmSize argv romFileNameLength romStart romSize memory =
      some l ∧ l.FitsFlash P := by
  have hp : 0 < 2 ^ k := Nat.two_pow_pos k
  have h32 : 2 * 2 ^ 31 ≤ 2 ^ w := by
    rw [← Nat.pow_succ']; exact Nat.pow_le_pow_right (by decide) hw
  have hINT : INT_MAX = 2 ^ 31 - 1 := rfl
  obtain ⟨m, hm, rfl⟩ : ∃ m, m < 2 ^ w ∧ memory = BitVec.ofNat w m :=
    ⟨memory.toNat, memory.isLt, BitVec.eq_of_toNat_eq (Nat.mod_eq_of_lt memory.isLt).symm⟩
  obtain ⟨r, hr, rfl⟩ : ∃ r, r < 2 ^ w ∧ romStart = BitVec.ofNat w r :=
    ⟨romStart.toNat, romStart.isLt, BitVec.eq_of_toNat_eq (Nat.mod_eq_of_lt romStart.isLt).symm⟩
  rw [BitVec.toNat_ofNat, Nat.mod_eq_of_lt hm] at hmem hspace
  rw [BitVec.toNat_ofNat, Nat.mod_eq_of_lt hr] at hromAl hrom
  -- the regions' offsets from memory, and where they end
  have d1 := le_roundUpNat k nvmSize
  have d2 := le_roundUpNat k (roundUpNat k nvmSize + ramSize)
  have d3 := le_roundUpNat k (roundUpNat k (roundUpNat k nvmSize + ramSize) + SC)
  have hend := argvEnd_le_layoutSize k (Nat.le_refl 0) ramSize nvmSize SC (argvCopySize w argv)
    (romFileNameLength + 1)
  have h00 : roundUpNat k 0 = 0 := by
    simp [roundUpNat, Nat.div_eq_of_lt (Nat.sub_lt hp Nat.one_pos)]
  rw [h00, Nat.zero_add] at hend
  have hF := Nat.le_mul_of_pos_right
    (layoutSize k 0 ramSize nvmSize SC (argvCopySize w argv) (romFileNameLength + 1))
    (show 0 < if P.TYPEMAP then 2 else 1 by split <;> decide)
  have hSF := le_roundUpNat k
    (layoutSize k 0 ramSize nvmSize SC (argvCopySize w argv) (romFileNameLength + 1) *
      (if P.TYPEMAP then 2 else 1))
  -- the arithmetic of `setupMemory`, in unbounded numbers
  have hpg : BitVec.ofInt w ((2 : Int) ^ k) = BitVec.ofNat w (2 ^ k) := by
    exact_mod_cast BitVec.ofInt_natCast w (2 ^ k)
  have hchunk : BitVec.ofInt w (P.SERVICE_CHUNK_SIZE_MINUS2WORDS w) =
      BitVec.ofNat w (SC - TWOWORDS w) := by
    rw [Platform.SERVICE_CHUNK_SIZE_MINUS2WORDS, hSCdef, ← Nat.cast_sub hSC, BitVec.ofInt_natCast]
  have hN : (romFileNameLength : Int) + 1 = (romFileNameLength + 1 : Nat) := by omega
  have hru1 : ∀ n, roundUpNat k (m + n) = m + roundUpNat k n := roundUpNat_add_of_dvd k hmem
  have hm0 : roundUpNat k m = m := by simpa [h00] using hru1 0
  have hru : ∀ a n, roundUpNat k (m + a + n) = m + roundUpNat k (a + n) := fun a n => by
    rw [Nat.add_assoc, hru1]
  have hstack : ∀ x, x + TWOWORDS w + (SC - TWOWORDS w) = x + SC := fun x => by omega
  unfold setupMemoryFlash
  rw [if_neg hT]
  simp (disch := omega) only [hpg, hchunk, hSCdef, BitVec.ofInt_natCast, hN,
    calculateSizeForCopyOfCStringArray_eq, hpage]
  rw [memorySizeFlash_eq hkw _ _ _ _ _ (by omega)]
  simp (disch := omega) only [BitVec.ofNat_add_ofNat, roundUp_ofNat hkw, hm0, hru1, hru, hstack,
    toInt_ofNat_add_sub, toInt32_of_le, writeCStringArray_eq, writeCString_eq, ← Nat.cast_add,
    BitVec.ofInt_natCast]
  rw [toNat_allocatedSize hw hkw P.TYPEMAP hsize]
  -- the `assume`s, then the layout
  have hjk' : 2 ^ j ∣ 2 ^ k := Nat.pow_dvd_pow 2 hjk
  have hal : ∀ a, a < 2 ^ w → 2 ^ j ∣ a → isWordAligned (BitVec.ofNat w a) = true := fun a ha h =>
    isWordAligned_of_dvd hword (by omega) _ (by rw [BitVec.toNat_ofNat, Nat.mod_eq_of_lt ha]; exact h)
  have hwords : 2 ^ j ∣ TWOWORDS w := by rw [TWOWORDS, hword]; exact Nat.dvd_mul_left _ _
  rw [if_neg]
  · refine ⟨_, rfl, ?_⟩
    unfold Layout.FitsFlash Platform.SERVICE_CHUNK_SIZE_MINUS2WORDS
    simp (disch := omega) only [BitVec.toNat_ofNat, Nat.mod_eq_of_lt, hSCdef]
    refine ⟨?_, trivial, ?_, ?_, ?_, ?_, ?_, ?_, ?_, ?_⟩ <;> omega
  · exact fun h => h.2 ⟨BitVec.le_def.2 (by
      simp (disch := omega) only [BitVec.toNat_ofNat, Nat.mod_eq_of_lt]; omega),
      hal _ hr hromAl, hal _ hm (hjk'.trans hmem),
      hal _ (by omega) (hjk'.trans (Nat.dvd_add hmem (dvd_roundUpNat k _))),
      hal _ (by omega) (Nat.dvd_add (hjk'.trans (Nat.dvd_add hmem (dvd_roundUpNat k _))) hwords)⟩

/-- The command line the eb40a `main` hands to `Squawk_main`: the board has no shell, so `os.c`
fixes it, one for the build with `EB40AFLASH` and one for the build without. -/
def eb40aArgv (EB40AFLASH : Bool) : List CString :=
  if EB40AFLASH then
    ["-verbose".toList, "-Xmx:64000".toList, "-Xmxnvm:8".toList, "-flashsuite:010A0000".toList,
      "squawk.application.Startup".toList]
  else
    ["-verbose".toList, "-Xmx:20000".toList, "-Xmxnvm:8".toList, "-flashsuite:011A0000".toList,
      "squawk.application.Startup".toList]

/-- On the board's command line `processArgs` takes `-Xmx:20000` and `-Xmxnvm:8` for itself and
hands `setupMemory` the other three arguments, of 8, 20 and 26 characters. -/
example : (processArgs ⟨false, false, false, false⟩ false (VMOptions.init ⟨false, false, false, false⟩)
    (eb40aArgv false)).toOption.map (fun st => (st.opts.ramSize, st.opts.nvmSize,
      (List.range st.newIndex).map fun i => (st.argv i).length)) = some (20000, 8, [8, 20, 26]) := by
  decide

/-- The eb40a boot of the build without `EB40AFLASH`: `-Xmx:20000 -Xmxnvm:8`, the three arguments
left for the Java side, `squawk.suite`, the board's 4-byte pages and 4 KB service chunk, a ROM
in flash and a buffer at `0x10000`. -/
theorem setupMemoryFlash_fits_on_eb40a :
    ∃ l, setupMemoryFlash ⟨4, 4 * 1024, false, true⟩ 32 ((20000 : Nat) : Int) ((8 : Nat) : Int)
        [8, 20, 26] 12 0x1100000#32 ((0x40000 : Nat) : Int) 0x10000#32 = some l ∧
      l.FitsFlash ⟨4, 4 * 1024, false, true⟩ :=
  setupMemoryFlash_fits_without_wrap _ (k := 2) (j := 2) (by decide) (by decide) (by decide)
    (by decide) (by decide) rfl (by decide) (by decide) _ _ _ _ _ _ _ (by decide) (by decide)
    (by decide) (by decide) (by decide)

/-! ### The watchdog LED -/

/-- `WATCHDOG_LED` and `DONE_LED` of `os.c`. -/
def WATCHDOG_LED : Nat := 0x80
def DONE_LED : Nat := 0x40

/-- A call of the board's LED driver. -/
inductive LedCall where
  | turnOn (mask : Nat)
  | turnOff (mask : Nat)
  deriving DecidableEq, Repr

/-- The globals `count` and `led_is_on` of `os.c`. -/
structure LedState where
  count : Int
  led_is_on : Int
  deriving DecidableEq, Repr

/-- `updateLEDStatus()`, the `osbackbranch()` hook: `count` goes up by one as an `int` (wrapping
past `INT_MAX`, as the board's compiler does), and on every multiple of 250 (C's `%`) the
watchdog LED flips. -/
def updateLEDStatus (s : LedState) : LedState × List LedCall :=
  let count := toInt32 (s.count + 1)
  if count.tmod 250 = 0 then
    if s.led_is_on ≠ 0 then (⟨count, 0⟩, [.turnOff WATCHDOG_LED])
    else (⟨count, 1⟩, [.turnOn WATCHDOG_LED])
  else (⟨count, s.led_is_on⟩, [])

/-- `updateLEDFinished()`, the `osfinish()` hook of `stopVM`. -/
def updateLEDFinished : List LedCall := [.turnOff WATCHDOG_LED, .turnOn DONE_LED]

end SquawkVM
