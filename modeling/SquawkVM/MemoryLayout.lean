import SquawkVM.Machine

/-! The memory layout of the slow VM (`setupMemory` of `squawk.c`): one buffer from `newBuffer`
carved into ROM, NVM, RAM, the service thread's stack and the copy of the command line, with
`UWord` sizes and addresses of the build's word width and `int` sizes where the code has them.
The `FLASH_MEMORY` build, which takes ROM from flash, is in `SquawkVM.Eb40a`. -/

namespace SquawkVM

/-- What `setupMemory` takes from the platform: the `int` from `getSystemPageSize()`,
`SERVICE_CHUNK_SIZE`, and the build flags `TYPEMAP` and `ASSUME`. -/
structure Platform where
  pageSize : Int
  SERVICE_CHUNK_SIZE : Int
  TYPEMAP : Bool
  ASSUME : Bool

/-- `TWOWORDS` of a `w`-bit build. -/
def TWOWORDS (w : Nat) : Nat := 2 * bytesPerWord w

/-- `SERVICE_CHUNK_SIZE_MINUS2WORDS`. -/
def Platform.SERVICE_CHUNK_SIZE_MINUS2WORDS (P : Platform) (w : Nat) : Int :=
  P.SERVICE_CHUNK_SIZE - TWOWORDS w

/-- A page size `setupMemory` can work with: a power of two that is a multiple of the word
size. -/
def Platform.Valid (P : Platform) (w : Nat) : Prop :=
  0 < P.pageSize ∧ isPowerOf2 (BitVec.ofInt w P.pageSize) = true ∧
    (bytesPerWord w : Int) ∣ P.pageSize

instance (P : Platform) (w : Nat) : Decidable (P.Valid w) :=
  inferInstanceAs (Decidable (_ ∧ _ ∧ _))

/-- `calculateSizeForCopyOfCStringArray(argc, argv)` for strings of the given lengths: the
pointer array, then each string and its terminator from the last one down, in an `int`. -/
def calculateSizeForCopyOfCStringArray (w : Nat) (lengths : List Nat) : Int :=
  lengths.foldr (fun (length : Nat) (total : Int) => toInt32 (total + length + 1))
    (toInt32 (lengths.length * bytesPerWord w))

/-- `writeCString(string, offset)` for a string of the given length: the offset past its
terminator. -/
def writeCString (length : Nat) (offset : Int) : Int := toInt32 (offset + length + 1)

/-- `writeCStringArray(argc, argv, offset)`: the pointer array, then each string in order. -/
def writeCStringArray (w : Nat) (lengths : List Nat) (offset : Int) : Int :=
  lengths.foldl (fun offset length => writeCString length offset)
    (toInt32 (offset + lengths.length * bytesPerWord w))

/-- The `int actualSize` of `newBuffer(size, ...)`: `size` rounded up to whole pages in `UWord`
arithmetic, then kept in an `int`. -/
def newBufferActualSize (w : Nat) (pageSize : Int) (size : BitVec w) : Int :=
  toInt32 ((size + BitVec.ofInt w (pageSize - 1)) &&& ~~~(BitVec.ofInt w (pageSize - 1))).toNat

/-- The addresses `setupMemory` sets, and the size of the block `newBuffer` allocated. -/
structure Layout (w : Nat) where
  memory : BitVec w
  allocatedSize : Nat
  memoryEnd : BitVec w
  romStart : BitVec w
  romEnd : BitVec w
  nvmStart : BitVec w
  nvmEnd : BitVec w
  ramStart : BitVec w
  ramEnd : BitVec w
  serviceStack : BitVec w
  argv : BitVec w
  argvEnd : BitVec w
  deriving DecidableEq, Repr

/-- `setupMemory(ramSize, nvmSize, argc, argv)` when the boot file is `fileSize` bytes long,
`loadBootstrapSuite` reports `romSize`, the file name has `romFileNameLength` characters, and
`valloc` returns `memory`; `none` if an `assume` stops the VM. `Address_add` adds a
sign-extended offset, `Address_diff` is a signed word difference, and `loeq` compares
unsigned. -/
def setupMemory (P : Platform) (w : Nat) (ramSize nvmSize : Int) (argv : List Nat)
    (romFileNameLength : Nat) (fileSize romSize : Int) (memory : BitVec w) : Option (Layout w) :=
  let page : BitVec w := BitVec.ofInt w P.pageSize
  let romFileNameSize : Int := romFileNameLength + 1
  let argvTotalSize := calculateSizeForCopyOfCStringArray w argv
  let memorySize := roundUp (BitVec.ofInt w fileSize) page
  let memorySize := roundUp (memorySize + BitVec.ofInt w ramSize) page
  let memorySize := roundUp (memorySize + BitVec.ofInt w nvmSize) page
  let memorySize := roundUp (memorySize + BitVec.ofInt w P.SERVICE_CHUNK_SIZE) page
  let memorySize := roundUp (memorySize + BitVec.ofInt w argvTotalSize +
    BitVec.ofInt w romFileNameSize) page
  let realMemorySize := toInt32 (if P.TYPEMAP then memorySize * 2 else memorySize).toNat
  let actualSize := newBufferActualSize w P.pageSize (BitVec.ofInt w realMemorySize)
  let memoryEnd := memory + memorySize
  let romStart := memory
  let romEnd := romStart + BitVec.ofInt w romSize
  let nvmStart := roundUp romEnd page
  let nvmEnd := nvmStart + BitVec.ofInt w nvmSize
  let ramStart := roundUp nvmEnd page
  let ramEnd := ramStart + BitVec.ofInt w ramSize
  let serviceStack := roundUp ramEnd page + BitVec.ofNat w (TWOWORDS w)
  let argvStart := roundUp (serviceStack + BitVec.ofInt w (P.SERVICE_CHUNK_SIZE_MINUS2WORDS w)) page
  let offset := writeCStringArray w argv (toInt32 (argvStart - memory).toInt)
  let offset := writeCString romFileNameLength offset
  let argvEnd := memory + BitVec.ofInt w offset
  if P.ASSUME ∧ ¬(argvEnd ≤ memoryEnd ∧ isWordAligned romStart ∧ isWordAligned nvmStart ∧
      isWordAligned ramStart ∧ isWordAligned serviceStack) then none
  else some ⟨memory, (BitVec.ofInt w actualSize).toNat, memoryEnd, romStart, romEnd, nvmStart,
    nvmEnd, ramStart, ramEnd, serviceStack, argvStart, argvEnd⟩

/-- Where `setupMemory` puts ROM, NVM and RAM: ROM at the start of the buffer, NVM and RAM on
the page after the end of the region before them. -/
theorem setupMemory_regions {P : Platform} {w : Nat} {ramSize nvmSize : Int} {argv : List Nat}
    {romFileNameLength : Nat} {fileSize romSize : Int} {memory : BitVec w} {l : Layout w}
    (h : setupMemory P w ramSize nvmSize argv romFileNameLength fileSize romSize memory = some l) :
    l.memory = memory ∧ l.romStart = memory ∧
      l.nvmStart = roundUp l.romEnd (BitVec.ofInt w P.pageSize) ∧
      l.ramStart = roundUp l.nvmEnd (BitVec.ofInt w P.pageSize) := by
  rw [setupMemory, ite_eq_right_iff.mpr] at h
  · cases h; exact ⟨rfl, rfl, rfl, rfl⟩
  · intro hc
    rw [if_pos hc] at h
    cases h

/-- A layout that holds together: the regions in address order with no wrap, the service
stack's two header words after RAM, the argument area after the stack, and everything inside
the allocated block. -/
def Layout.Fits (P : Platform) (l : Layout w) : Prop :=
  l.memory.toNat ≤ l.romStart.toNat ∧ l.romStart.toNat ≤ l.romEnd.toNat ∧
    l.romEnd.toNat ≤ l.nvmStart.toNat ∧ l.nvmStart.toNat ≤ l.nvmEnd.toNat ∧
    l.nvmEnd.toNat ≤ l.ramStart.toNat ∧ l.ramStart.toNat ≤ l.ramEnd.toNat ∧
    l.ramEnd.toNat + TWOWORDS w ≤ l.serviceStack.toNat ∧
    l.serviceStack.toNat + P.SERVICE_CHUNK_SIZE_MINUS2WORDS w ≤ l.argv.toNat ∧
    l.argv.toNat ≤ l.argvEnd.toNat ∧ l.argvEnd.toNat ≤ l.memoryEnd.toNat ∧
    l.memoryEnd.toNat ≤ l.memory.toNat + l.allocatedSize

instance (P : Platform) (l : Layout w) : Decidable (l.Fits P) := by
  unfold Layout.Fits
  infer_instance

/-- On a 32-bit build, `-Xmx:2147483647 -Xmxnvm:2147483647` wrap `memorySize` to a few pages:
`setupMemory` allocates 32 KB and still places NVM and RAM two gigabytes long from the start of
it, so NVM runs past the end of the buffer and RAM wraps below its own start. The final
`assume` checks only the end of the copied command line, which lies inside the buffer, so the
VM goes on even when `ASSUME` is set. -/
theorem setupMemory_wraps_at_max_sizes :
    (⟨4096, 24 * 1024, false, true⟩ : Platform).Valid 32 ∧
    ∃ l, setupMemory ⟨4096, 24 * 1024, false, true⟩ 32 INT_MAX INT_MAX [] 12 4096 4096 0x10000#32 =
        some l ∧ ¬l.Fits ⟨4096, 24 * 1024, false, true⟩ := by
  refine ⟨by decide, ?_⟩
  have h : (setupMemory ⟨4096, 24 * 1024, false, true⟩ 32 INT_MAX INT_MAX [] 12 4096 4096
      0x10000#32).any (fun l => !decide (l.Fits ⟨4096, 24 * 1024, false, true⟩)) = true := by
    decide
  revert h
  cases setupMemory ⟨4096, 24 * 1024, false, true⟩ 32 INT_MAX INT_MAX [] 12 4096 4096 0x10000#32 with
  | none => simp
  | some l => simp

/-! ### The layout when nothing wraps -/

/-- The bytes `calculateSizeForCopyOfCStringArray` counts, without wrap. -/
def argvCopySize (w : Nat) (lengths : List Nat) : Nat :=
  lengths.length * bytesPerWord w + (lengths.map (· + 1)).sum

theorem foldr_copy_size (lengths : List Nat) (c : Int) (h0 : 0 ≤ c)
    (h : c + ((lengths.map (· + 1)).sum : Nat) ≤ INT_MAX) :
    lengths.foldr (fun (length : Nat) (total : Int) => toInt32 (total + length + 1)) c =
      c + ((lengths.map (· + 1)).sum : Nat) := by
  induction lengths with
  | nil => simp
  | cons a l ih =>
    simp only [List.map_cons, List.sum_cons, Nat.cast_add] at h ⊢
    rw [List.foldr_cons, ih (by omega), toInt32_of_le (by omega) (by omega)]
    omega

theorem calculateSizeForCopyOfCStringArray_eq (w : Nat) (lengths : List Nat)
    (h : argvCopySize w lengths ≤ INT_MAX) :
    calculateSizeForCopyOfCStringArray w lengths = argvCopySize w lengths := by
  unfold calculateSizeForCopyOfCStringArray argvCopySize at *
  simp only [Nat.cast_add, Nat.cast_mul] at h ⊢
  have h0 : (0 : Int) ≤ lengths.length * bytesPerWord w := Int.mul_nonneg (by omega) (by omega)
  generalize (lengths.length : Int) * bytesPerWord w = c at h h0 ⊢
  rw [toInt32_of_le h0 (by omega), foldr_copy_size _ _ h0 h]

theorem foldl_writeCString (lengths : List Nat) (c : Int) (h0 : 0 ≤ c)
    (h : c + ((lengths.map (· + 1)).sum : Nat) ≤ INT_MAX) :
    lengths.foldl (fun offset length => writeCString length offset) c =
      c + ((lengths.map (· + 1)).sum : Nat) := by
  induction lengths generalizing c with
  | nil => simp
  | cons a l ih =>
    simp only [List.map_cons, List.sum_cons, Nat.cast_add] at h ⊢
    rw [List.foldl_cons, writeCString, toInt32_of_le (by omega) (by omega), ih _ (by omega) (by omega)]
    omega

theorem writeCStringArray_eq (w : Nat) (lengths : List Nat) {offset : Int} (h0 : 0 ≤ offset)
    (h : offset + argvCopySize w lengths ≤ INT_MAX) :
    writeCStringArray w lengths offset = offset + argvCopySize w lengths := by
  unfold writeCStringArray argvCopySize at *
  simp only [Nat.cast_add, Nat.cast_mul] at h ⊢
  have hc : (0 : Int) ≤ lengths.length * bytesPerWord w := Int.mul_nonneg (by omega) (by omega)
  generalize (lengths.length : Int) * bytesPerWord w = c at h hc ⊢
  rw [toInt32_of_le (by omega) (by omega), foldl_writeCString _ _ (by omega) (by omega)]
  omega

theorem writeCString_eq (length : Nat) {offset : Int} (h0 : 0 ≤ offset)
    (h : offset + (length + 1 : Nat) ≤ INT_MAX) :
    writeCString length offset = offset + (length + 1 : Nat) := by
  rw [writeCString, toInt32_of_le (by omega) (by omega)]
  omega

/-- The buffer size `setupMemory` computes when no sum wraps, for pages of `2 ^ k` bytes. -/
def layoutSize (k fileSize ramSize nvmSize serviceChunk argvSize nameSize : Nat) : Nat :=
  roundUpNat k (roundUpNat k (roundUpNat k (roundUpNat k (roundUpNat k fileSize + ramSize) +
    nvmSize) + serviceChunk) + argvSize + nameSize)

/-- The `memorySize` sum of `setupMemory` when none of its steps wraps. -/
theorem memorySize_eq {w k : Nat} (hk : k < w) (fileSize ramSize nvmSize SC A N : Nat)
    (h : layoutSize k fileSize ramSize nvmSize SC A N + 2 ^ k ≤ 2 ^ w) :
    roundUp (roundUp (roundUp (roundUp (roundUp (BitVec.ofNat w fileSize) (BitVec.ofNat w (2 ^ k)) +
      BitVec.ofNat w ramSize) (BitVec.ofNat w (2 ^ k)) + BitVec.ofNat w nvmSize)
      (BitVec.ofNat w (2 ^ k)) + BitVec.ofNat w SC) (BitVec.ofNat w (2 ^ k)) + BitVec.ofNat w A +
      BitVec.ofNat w N) (BitVec.ofNat w (2 ^ k)) =
        BitVec.ofNat w (layoutSize k fileSize ramSize nvmSize SC A N) := by
  have hp : 0 < 2 ^ k := Nat.two_pow_pos k
  have c0 := le_roundUpNat k fileSize
  have c1 := le_roundUpNat k (roundUpNat k fileSize + ramSize)
  have c2 := le_roundUpNat k (roundUpNat k (roundUpNat k fileSize + ramSize) + nvmSize)
  have c3 := le_roundUpNat k
    (roundUpNat k (roundUpNat k (roundUpNat k fileSize + ramSize) + nvmSize) + SC)
  have c4 := le_roundUpNat k (roundUpNat k (roundUpNat k (roundUpNat k (roundUpNat k fileSize +
    ramSize) + nvmSize) + SC) + A + N)
  unfold layoutSize at h ⊢
  simp (disch := omega) only [BitVec.ofNat_add_ofNat, roundUp_ofNat hk]

/-- With the ROM no longer than the boot file, the regions `setupMemory` lays out, up to the end
of the copied command line, fit in `memorySize`, which adds the same sizes in another order. -/
theorem argvEnd_le_layoutSize (k : Nat) {romSize fileSize : Nat} (h : romSize ≤ fileSize)
    (ramSize nvmSize SC A N : Nat) :
    roundUpNat k (roundUpNat k (roundUpNat k (roundUpNat k romSize + nvmSize) + ramSize) + SC) +
      A + N ≤ layoutSize k fileSize ramSize nvmSize SC A N := by
  have hregions : roundUpNat k (roundUpNat k (roundUpNat k romSize + nvmSize) + ramSize) ≤
      roundUpNat k (roundUpNat k (roundUpNat k fileSize + ramSize) + nvmSize) := by
    rw [roundUpNat_add_of_dvd k (dvd_roundUpNat k _), roundUpNat_add_of_dvd k (dvd_roundUpNat k _),
      roundUpNat_add_of_dvd k (dvd_roundUpNat k _), roundUpNat_add_of_dvd k (dvd_roundUpNat k _)]
    have := roundUpNat_mono k h
    omega
  have := roundUpNat_mono k (Nat.add_le_add_right hregions SC)
  have := le_roundUpNat k
    (roundUpNat k (roundUpNat k (roundUpNat k (roundUpNat k fileSize + ramSize) + nvmSize) + SC) +
      A + N)
  unfold layoutSize
  omega

/-- `newBuffer` rounds a size that does not wrap up to whole pages. -/
theorem newBufferActualSize_eq {w k : Nat} (hk : k < w) (size : BitVec w)
    (h : size.toNat + (2 ^ k - 1) < 2 ^ w) (hmax : roundUpNat k size.toNat ≤ INT_MAX) :
    newBufferActualSize w (2 ^ k) size = roundUpNat k size.toNat := by
  have hmask : BitVec.ofInt w ((2 : Int) ^ k - 1) = BitVec.ofNat w (2 ^ k - 1) := by
    rw [← BitVec.ofInt_natCast, Nat.cast_sub Nat.one_le_two_pow]; push_cast; rfl
  have hp : 0 < 2 ^ k := Nat.two_pow_pos k
  have hmod : (BitVec.ofNat w (2 ^ k - 1)).toNat = 2 ^ k - 1 := Nat.mod_eq_of_lt (by omega)
  unfold newBufferActualSize
  rw [hmask, toNat_and_not_mask hk.le, BitVec.toNat_add, hmod, Nat.mod_eq_of_lt h]
  exact toInt32_of_le (Int.natCast_nonneg _) hmax

/-- The block `newBuffer` allocates for a `memorySize` of `S` bytes when nothing wraps. -/
theorem toNat_allocatedSize {w k : Nat} (hw : 32 ≤ w) (hk : k < w) (TYPEMAP : Bool) {S : Nat}
    (h : roundUpNat k (S * (if TYPEMAP then 2 else 1)) ≤ INT_MAX) :
    (BitVec.ofInt w (newBufferActualSize w (2 ^ k) (BitVec.ofInt w
      (toInt32 (if TYPEMAP then BitVec.ofNat w S * 2 else BitVec.ofNat w S).toNat)))).toNat =
        roundUpNat k (S * (if TYPEMAP then 2 else 1)) := by
  have h32 : 2 * 2 ^ 31 ≤ 2 ^ w := by
    rw [← Nat.pow_succ']; exact Nat.pow_le_pow_right (by decide) hw
  have hk2 : 2 * 2 ^ k ≤ 2 ^ w := by
    rw [← Nat.pow_succ']; exact Nat.pow_le_pow_right (by decide) hk
  have hofNat : ∀ n, n < 2 ^ w → (BitVec.ofNat w n).toNat = n := fun n h => Nat.mod_eq_of_lt h
  have hle := le_roundUpNat k (S * (if TYPEMAP then 2 else 1))
  unfold INT_MAX at h
  have hreal : (if TYPEMAP then BitVec.ofNat w S * 2 else BitVec.ofNat w S).toNat =
      S * (if TYPEMAP then 2 else 1) := by
    cases TYPEMAP
    · simp only [Bool.false_eq_true, if_false, Nat.mul_one] at hle h ⊢
      exact hofNat S (by omega)
    · have h2 : (2 : BitVec w).toNat = 2 := hofNat 2 (by omega)
      simp only [if_true] at hle h ⊢
      rw [BitVec.toNat_mul, hofNat S (by omega), h2, Nat.mod_eq_of_lt (by omega)]
  rw [hreal, toInt32_of_le (by omega) (by unfold INT_MAX; omega), BitVec.ofInt_natCast,
    newBufferActualSize_eq hk _ (by rw [hofNat _ (by omega)]; omega)
      (by rw [hofNat _ (by omega)]; unfold INT_MAX; omega),
    hofNat _ (by omega), BitVec.ofInt_natCast, hofNat _ (by omega)]

/-- When nothing wraps (pages are `2 ^ k` bytes, a multiple of the word size, the service
chunk holds its two header words, the page-rounded sizes fit an `int`, and `valloc` returns a
page-aligned block with room for the buffer and one page more), `setupMemory` passes its
`assume` and lays the regions out in order inside the buffer. -/
theorem setupMemory_fits_without_wrap (P : Platform) {w k j : Nat} (hw : 32 ≤ w) (hkw : k < w)
    (hpage : P.pageSize = 2 ^ k) (hword : bytesPerWord w = 2 ^ j) (hjk : j ≤ k)
    {SC : Nat} (hSCdef : P.SERVICE_CHUNK_SIZE = SC) (hSC : TWOWORDS w ≤ SC)
    (ramSize nvmSize fileSize romSize : Nat) (argv : List Nat) (romFileNameLength : Nat)
    (memory : BitVec w) (hrom : romSize ≤ fileSize) (hmem : 2 ^ k ∣ memory.toNat)
    (hsize : roundUpNat k (layoutSize k fileSize ramSize nvmSize SC (argvCopySize w argv)
      (romFileNameLength + 1) * (if P.TYPEMAP then 2 else 1)) ≤ INT_MAX)
    (hspace : memory.toNat + layoutSize k fileSize ramSize nvmSize SC (argvCopySize w argv)
      (romFileNameLength + 1) + 2 ^ k ≤ 2 ^ w) :
    ∃ l, setupMemory P w ramSize nvmSize argv romFileNameLength fileSize romSize memory = some l ∧
      l.Fits P := by
  have hp : 0 < 2 ^ k := Nat.two_pow_pos k
  have h32 : 2 * 2 ^ 31 ≤ 2 ^ w := by
    rw [← Nat.pow_succ']; exact Nat.pow_le_pow_right (by decide) hw
  have hINT : INT_MAX = 2 ^ 31 - 1 := rfl
  obtain ⟨m, hm, rfl⟩ : ∃ m, m < 2 ^ w ∧ memory = BitVec.ofNat w m :=
    ⟨memory.toNat, memory.isLt, BitVec.eq_of_toNat_eq (Nat.mod_eq_of_lt memory.isLt).symm⟩
  rw [BitVec.toNat_ofNat, Nat.mod_eq_of_lt hm] at hmem hspace
  -- the regions' offsets from memory, and where they end
  have d0 := le_roundUpNat k romSize
  have d1 := le_roundUpNat k (roundUpNat k romSize + nvmSize)
  have d2 := le_roundUpNat k (roundUpNat k (roundUpNat k romSize + nvmSize) + ramSize)
  have d3 := le_roundUpNat k
    (roundUpNat k (roundUpNat k (roundUpNat k romSize + nvmSize) + ramSize) + SC)
  have hend := argvEnd_le_layoutSize k hrom ramSize nvmSize SC (argvCopySize w argv)
    (romFileNameLength + 1)
  have hF := Nat.le_mul_of_pos_right
    (layoutSize k fileSize ramSize nvmSize SC (argvCopySize w argv) (romFileNameLength + 1))
    (show 0 < if P.TYPEMAP then 2 else 1 by split <;> decide)
  have hSF := le_roundUpNat k
    (layoutSize k fileSize ramSize nvmSize SC (argvCopySize w argv) (romFileNameLength + 1) *
      (if P.TYPEMAP then 2 else 1))
  -- the arithmetic of `setupMemory`, in unbounded numbers
  have hpg : BitVec.ofInt w ((2 : Int) ^ k) = BitVec.ofNat w (2 ^ k) := by
    exact_mod_cast BitVec.ofInt_natCast w (2 ^ k)
  have hchunk : BitVec.ofInt w (P.SERVICE_CHUNK_SIZE_MINUS2WORDS w) =
      BitVec.ofNat w (SC - TWOWORDS w) := by
    rw [Platform.SERVICE_CHUNK_SIZE_MINUS2WORDS, hSCdef, ← Nat.cast_sub hSC, BitVec.ofInt_natCast]
  have hN : (romFileNameLength : Int) + 1 = (romFileNameLength + 1 : Nat) := by omega
  have hru1 : ∀ n, roundUpNat k (m + n) = m + roundUpNat k n := roundUpNat_add_of_dvd k hmem
  have hru : ∀ a n, roundUpNat k (m + a + n) = m + roundUpNat k (a + n) := fun a n => by
    rw [Nat.add_assoc, hru1]
  have hstack : ∀ x, x + TWOWORDS w + (SC - TWOWORDS w) = x + SC := fun x => by omega
  simp (disch := omega) only [setupMemory, hpg, hchunk, hSCdef, BitVec.ofInt_natCast, hN,
    calculateSizeForCopyOfCStringArray_eq, hpage]
  rw [memorySize_eq hkw _ _ _ _ _ _ (by omega)]
  simp (disch := omega) only [BitVec.ofNat_add_ofNat, roundUp_ofNat hkw, hru1, hru, hstack,
    toInt_ofNat_add_sub, toInt32_of_le, writeCStringArray_eq, writeCString_eq, ← Nat.cast_add,
    BitVec.ofInt_natCast]
  rw [toNat_allocatedSize hw hkw P.TYPEMAP hsize]
  -- the `assume`, then the layout
  have hjk' : 2 ^ j ∣ 2 ^ k := Nat.pow_dvd_pow 2 hjk
  have hal : ∀ a, a < 2 ^ w → 2 ^ j ∣ a → isWordAligned (BitVec.ofNat w a) = true := fun a ha h =>
    isWordAligned_of_dvd hword (by omega) _ (by rw [BitVec.toNat_ofNat, Nat.mod_eq_of_lt ha]; exact h)
  have hwords : 2 ^ j ∣ TWOWORDS w := by rw [TWOWORDS, hword]; exact Nat.dvd_mul_left _ _
  rw [if_neg]
  · refine ⟨_, rfl, ?_⟩
    unfold Layout.Fits Platform.SERVICE_CHUNK_SIZE_MINUS2WORDS
    simp (disch := omega) only [BitVec.toNat_ofNat, Nat.mod_eq_of_lt, hSCdef]
    refine ⟨?_, ?_, ?_, ?_, ?_, ?_, ?_, ?_, ?_, ?_, ?_⟩ <;> omega
  · exact fun h => h.2 ⟨BitVec.le_def.2 (by
      simp (disch := omega) only [BitVec.toNat_ofNat, Nat.mod_eq_of_lt]; omega),
      hal _ hm (hjk'.trans hmem),
      hal _ (by omega) (hjk'.trans (Nat.dvd_add hmem (dvd_roundUpNat k _))),
      hal _ (by omega) (hjk'.trans (Nat.dvd_add hmem (dvd_roundUpNat k _))),
      hal _ (by omega) (Nat.dvd_add (hjk'.trans (Nat.dvd_add hmem (dvd_roundUpNat k _))) hwords)⟩

/-- The default `-Xmx` and `-Xmxnvm` of 8 MB on a 32-bit build with 4 KB pages. -/
theorem setupMemory_fits_at_default_sizes :
    ∃ l, setupMemory ⟨4096, 24 * 1024, false, true⟩ 32 ((8 * 1024 * 1024 : Nat) : Int)
        ((8 * 1024 * 1024 : Nat) : Int) [10, 12] 12 ((200000 : Nat) : Int) ((200000 : Nat) : Int)
        0x10000#32 = some l ∧ l.Fits ⟨4096, 24 * 1024, false, true⟩ :=
  setupMemory_fits_without_wrap _ (k := 12) (j := 2) (by decide) (by decide) (by decide)
    (by decide) (by decide) rfl (by decide) _ _ _ _ _ _ _ (by decide) (by decide) (by decide)
    (by decide)

end SquawkVM
