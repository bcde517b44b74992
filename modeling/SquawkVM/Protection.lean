import SquawkVM.MemoryLayout

/-! The read-only protection of ROM and NVM (`toggleMemoryProtection` in `Squawk_setup` and
around `INTERNAL_COPYBYTES`): on a POSIX host it covers exactly the pages of ROM and NVM. -/

namespace SquawkVM

/-- What `mprotect(start, len, ...)` does on the host: on a POSIX system with pages of `2 ^ k`
bytes it sets the whole pages of `[start, start + len)`, and fails when `start` is not at a
page boundary; on the eb40a board it does nothing and succeeds. -/
inductive MprotectHost where
  | posix (k : Nat)
  | eb40a

/-- `toggleMemoryProtection(start, end, readonly)` on the bytes marked read-only by `prot`, with
`len = Address_diff(end, start)` as a `UWord`: the new marks, and whether `mprotect` failed (the
VM then prints that it could not toggle the protection and goes on). -/
def toggleMemoryProtection {w : Nat} (host : MprotectHost) (start end_ : BitVec w)
    (readonly : Bool) (prot : Nat → Bool) : (Nat → Bool) × Bool :=
  match host with
  | .posix k =>
    if 2 ^ k ∣ start.toNat then
      (fun a => if start.toNat ≤ a ∧ a < start.toNat + roundUpNat k (end_ - start).toNat then
        readonly else prot a, false)
    else (prot, true)
  | .eb40a => (prot, false)

/-- What `Squawk_setup` leaves once `setupMemory` has returned the layout `l`, from memory that is
all writable: NVM, then ROM, made read-only; and whether an `mprotect` failed. -/
def squawkSetupProtection {w : Nat} (host : MprotectHost) (l : Layout w) : (Nat → Bool) × Bool :=
  let nvm := toggleMemoryProtection host l.nvmStart l.nvmEnd true fun _ => false
  let rom := toggleMemoryProtection host l.romStart l.romEnd true nvm.1
  (rom.1, nvm.2 || rom.2)

/-- What `checkPostWrite` reads: the build's `ASSUME` flag and the globals
`cheneyStartMemoryProtect` and `cheneyEndMemoryProtect` of the collector. -/
structure WriteWatch where
  ASSUME : Bool
  cheneyStart : Nat
  cheneyEnd : Nat

/-- `checkPostWrite(ea, size)`: in an `ASSUME` build, `assume` that `ea` lies below
`cheneyStartMemoryProtect` or at or above `cheneyEndMemoryProtect`, unless the start is `0`;
`size` is not read. `false` when the `assume` fails and `fatalVMError` stops the VM. -/
def checkPostWrite (ww : WriteWatch) (ea : Nat) : Bool :=
  !ww.ASSUME || ww.cheneyStart = 0 || ea < ww.cheneyStart || ww.cheneyEnd ≤ ea

/-- Why a `COPYBYTES` stops the VM: its `memmove` writes a read-only byte, whose fault stops the
VM, or `checkPostWrite` fails after it. -/
inductive CopyStop where
  | fault
  | assumeFailed
  deriving DecidableEq, Repr

/-- `INTERNAL_COPYBYTES` as far as protection goes, for `lth = i1`, `i4`, and the destination
`Address_add(dst, dstoffset)`: NVM made writable when `i4 == 1`, the `memmove` of `lth` bytes
(`size_t` of the `int`), `checkPostWrite` on the destination, and NVM made read-only again. -/
def copyBytes {w : Nat} (host : MprotectHost) (l : Layout w) (ww : WriteWatch) (lth i4 : Int)
    (target : Nat) (prot : Nat → Bool) : Except CopyStop (Nat → Bool) :=
  let nvmDst := decide (i4 = 1)
  let prot := if nvmDst then (toggleMemoryProtection host l.nvmStart l.nvmEnd false prot).1
    else prot
  if (List.range (lth % 2 ^ w).toNat).any fun i => prot (target + i) then .error .fault
  else if checkPostWrite ww target then
    .ok (if nvmDst then (toggleMemoryProtection host l.nvmStart l.nvmEnd true prot).1 else prot)
  else .error .assumeFailed

/-- A run of `COPYBYTES` operations `(lth, i4, target)`, until one stops the VM. -/
def runCopyBytes {w : Nat} (host : MprotectHost) (l : Layout w) (ww : WriteWatch) :
    List (Int × Int × Nat) → (Nat → Bool) → Except CopyStop (Nat → Bool)
  | [], prot => .ok prot
  | (lth, i4, target) :: ops, prot =>
    (copyBytes host l ww lth i4 target prot).bind (runCopyBytes host l ww ops)

/-! ### Whole pages of ROM and NVM -/

/-- The bytes of ROM and NVM with the ends of their last pages: `[memory, ramStart)`. -/
def Layout.readOnly {w : Nat} (l : Layout w) (a : Nat) : Bool :=
  l.memory.toNat ≤ a ∧ a < l.ramStart.toNat

/-- The bytes a copy may not write: ROM's pages, and NVM's unless `i4 == 1`. -/
def Layout.copyForbidden {w : Nat} (l : Layout w) (i4 : Int) (a : Nat) : Bool :=
  l.memory.toNat ≤ a ∧ a < (if i4 = 1 then l.nvmStart.toNat else l.ramStart.toNat)

/-- Why the copy `(lth, i4, target)` stops the VM when ROM and NVM are read-only, if it does: a
byte it may not write, or a destination that `checkPostWrite` rejects. -/
def Layout.copyStop {w : Nat} (l : Layout w) (ww : WriteWatch) (op : Int × Int × Nat) :
    Option CopyStop :=
  if (List.range (op.1 % 2 ^ w).toNat).any (fun i => l.copyForbidden op.2.1 (op.2.2 + i)) then
    some .fault
  else if checkPostWrite ww op.2.2 then none else some .assumeFailed

/-- A layout from `setupMemory` whose regions lie in order with no wrap, in a buffer at a page
boundary: its ROM, NVM and RAM start at page boundaries `[memory, nvmStart, ramStart)`, each
region's pages ending where the next begins. -/
structure PageLayout {w : Nat} (k : Nat) (l : Layout w) : Prop where
  memory_dvd : 2 ^ k ∣ l.memory.toNat
  rom_start : l.romStart = l.memory
  rom_le : l.romStart.toNat ≤ l.romEnd.toNat
  nvm_le : l.nvmStart.toNat ≤ l.nvmEnd.toNat
  nvm_start : l.nvmStart.toNat = roundUpNat k l.romEnd.toNat
  ram_start : l.ramStart.toNat = roundUpNat k l.nvmEnd.toNat

theorem PageLayout.of_setupMemory {P : Platform} {w k : Nat} (hkw : k < w)
    (hpage : P.pageSize = 2 ^ k) {ramSize nvmSize : Int} {argv : List Nat}
    {romFileNameLength : Nat} {fileSize romSize : Int} {memory : BitVec w}
    (hmem : 2 ^ k ∣ memory.toNat) {l : Layout w}
    (hl : setupMemory P w ramSize nvmSize argv romFileNameLength fileSize romSize memory = some l)
    (hfits : l.Fits P) : PageLayout k l := by
  obtain ⟨hm, hrom, hnvm, hram⟩ := setupMemory_regions hl
  have hpg : BitVec.ofInt w P.pageSize = BitVec.ofNat w (2 ^ k) := by
    rw [hpage]; exact_mod_cast BitVec.ofInt_natCast w (2 ^ k)
  obtain ⟨-, h1, h2, h3, h4, -⟩ := hfits
  rw [hpg] at hnvm hram
  exact ⟨hm ▸ hmem, hrom.trans hm.symm, h1, h3,
    by rw [hnvm]; exact toNat_roundUp_of_le hkw (hnvm ▸ h2),
    by rw [hram]; exact toNat_roundUp_of_le hkw (hram ▸ h4)⟩

/-- `mprotect` from a page boundary `start` to `end` covers `[start, roundUp end)`. -/
theorem toggleMemoryProtection_posix {w k : Nat} {start end_ : BitVec w} (hs : 2 ^ k ∣ start.toNat)
    (hle : start.toNat ≤ end_.toNat) (readonly : Bool) (prot : Nat → Bool) :
    toggleMemoryProtection (.posix k) start end_ readonly prot =
      (fun a => if start.toNat ≤ a ∧ a < roundUpNat k end_.toNat then readonly else prot a,
        false) := by
  have hsub : (end_ - start).toNat = end_.toNat - start.toNat :=
    BitVec.toNat_sub_of_le (BitVec.le_def.2 hle)
  rw [toggleMemoryProtection, if_pos hs, hsub, ← roundUpNat_add_of_dvd k hs,
    Nat.add_sub_cancel' hle]

section PageLayout

variable {w k : Nat} {l : Layout w} (hp : PageLayout k l)
include hp

theorem PageLayout.memory_le_nvmStart : l.memory.toNat ≤ l.nvmStart.toNat := by
  have := le_roundUpNat k l.romEnd.toNat
  have := hp.rom_le
  rw [hp.rom_start] at this
  rw [hp.nvm_start]
  omega

theorem PageLayout.nvmStart_le_ramStart : l.nvmStart.toNat ≤ l.ramStart.toNat := by
  have := le_roundUpNat k l.nvmEnd.toNat
  have := hp.nvm_le
  rw [hp.ram_start]
  omega

/-- `mprotect` on NVM covers its pages, up to the start of RAM. -/
theorem PageLayout.toggle_nvm (readonly : Bool) (prot : Nat → Bool) :
    toggleMemoryProtection (.posix k) l.nvmStart l.nvmEnd readonly prot =
      (fun a => if l.nvmStart.toNat ≤ a ∧ a < l.ramStart.toNat then readonly else prot a,
        false) := by
  rw [toggleMemoryProtection_posix (hp.nvm_start ▸ dvd_roundUpNat k _) hp.nvm_le, hp.ram_start]

/-- NVM's pages made read-only again over ROM's give ROM and NVM. -/
theorem PageLayout.readOnly_eq :
    (fun a => if l.nvmStart.toNat ≤ a ∧ a < l.ramStart.toNat then true else l.copyForbidden 1 a) =
      l.readOnly := by
  have := hp.memory_le_nvmStart
  have := hp.nvmStart_le_ramStart
  funext a
  apply Bool.eq_iff_iff.2
  by_cases h : l.nvmStart.toNat ≤ a ∧ a < l.ramStart.toNat
  · simp [h, Layout.readOnly]; omega
  · simp [h, Layout.readOnly, Layout.copyForbidden]; omega

/-- NVM's pages made writable leave ROM's. -/
theorem PageLayout.copyForbidden_eq :
    (fun a => if l.nvmStart.toNat ≤ a ∧ a < l.ramStart.toNat then false else l.readOnly a) =
      l.copyForbidden 1 := by
  have := hp.memory_le_nvmStart
  have := hp.nvmStart_le_ramStart
  funext a
  apply Bool.eq_iff_iff.2
  by_cases h : l.nvmStart.toNat ≤ a ∧ a < l.ramStart.toNat
  · simp [h, Layout.copyForbidden]
  · simp [h, Layout.readOnly, Layout.copyForbidden]; omega

/-- `Squawk_setup` makes exactly the pages of ROM and NVM read-only, and both `mprotect` calls
succeed. -/
theorem squawkSetupProtection_posix : squawkSetupProtection (.posix k) l = (l.readOnly, false) := by
  have hrom := hp.rom_start
  rw [squawkSetupProtection, hp.toggle_nvm,
    toggleMemoryProtection_posix (hrom ▸ hp.memory_dvd) hp.rom_le, ← hp.nvm_start, hrom]
  simp only [Bool.or_false, Prod.mk.injEq, and_true]
  rw [← hp.readOnly_eq]
  funext a
  simp only [Layout.copyForbidden, if_true]
  split_ifs <;> simp_all

/-- From ROM and NVM read-only, NVM is writable during a copy exactly when `i4 == 1`. -/
theorem copy_prot_eq (i4 : Int) :
    (if decide (i4 = 1) then
      (toggleMemoryProtection (.posix k) l.nvmStart l.nvmEnd false l.readOnly).1
    else l.readOnly) = l.copyForbidden i4 := by
  by_cases hi4 : i4 = 1
  · subst hi4
    simp only [decide_True, if_true, hp.toggle_nvm, hp.copyForbidden_eq]
  · simp only [hi4, decide_False, Bool.false_eq_true, if_false]
    funext a
    simp [Layout.readOnly, Layout.copyForbidden, hi4]

/-- After a copy NVM is made read-only again over what the copy found. -/
theorem copy_restore_eq (i4 : Int) :
    (if decide (i4 = 1) then
      (toggleMemoryProtection (.posix k) l.nvmStart l.nvmEnd true (l.copyForbidden i4)).1
    else l.copyForbidden i4) = l.readOnly := by
  by_cases hi4 : i4 = 1
  · subst hi4
    simp only [decide_True, if_true, hp.toggle_nvm, hp.readOnly_eq]
  · simp only [hi4, decide_False, Bool.false_eq_true, if_false]
    funext a
    simp [Layout.readOnly, Layout.copyForbidden, hi4]

/-- From ROM and NVM read-only, one `COPYBYTES` stops the VM exactly when `copyStop` says, and
otherwise leaves them read-only. -/
theorem copyBytes_posix (ww : WriteWatch) (lth i4 : Int) (target : Nat) :
    copyBytes (.posix k) l ww lth i4 target l.readOnly =
      match l.copyStop ww (lth, i4, target) with
      | none => .ok l.readOnly
      | some e => .error e := by
  simp only [copyBytes, copy_prot_eq hp, copy_restore_eq hp, Layout.copyStop]
  split_ifs <;> rfl

/-- A run of `COPYBYTES` from ROM and NVM read-only stops at the first copy that `copyStop`
rejects, for its reason, or leaves them read-only. -/
theorem runCopyBytes_posix (ww : WriteWatch) (ops : List (Int × Int × Nat)) :
    runCopyBytes (.posix k) l ww ops l.readOnly =
      match ops.findSome? (l.copyStop ww) with
      | none => .ok l.readOnly
      | some e => .error e := by
  induction ops with
  | nil => rfl
  | cons op ops ih =>
    obtain ⟨lth, i4, target⟩ := op
    rw [runCopyBytes, copyBytes_posix hp, List.findSome?_cons]
    cases l.copyStop ww (lth, i4, target) <;> simp only [Except.bind, ih]

end PageLayout

end SquawkVM
