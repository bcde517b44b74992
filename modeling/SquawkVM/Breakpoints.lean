import Mathlib.Data.List.Range
import Mathlib.Logic.Function.Basic

/-! The breakpoint table of the low-level debugger (`debug.c`): `db_bp_table`, the array
`db_current_ips` of breakpoint addresses plus one that `db_checkBreak` scans, and the
`B:S`/`B:C` commands that change them. -/

namespace SquawkVM

/-- `DB_MAX_BPS`. -/
def DB_MAX_BPS : Nat := 20

/-- A `ByteAddress` on the 32-bit targets of the debugger, which passes addresses as `int`. -/
abbrev ByteAddress := BitVec 32

/-- The debugger globals `db_bp_table[i].db_ip`, `db_current_ips[i]` and `db_bp_set`. Slots
below `DB_MAX_BPS` of the table and up to `DB_MAX_BPS` of `db_current_ips` exist. -/
structure DebugState where
  bpTable : Nat → ByteAddress
  currentIps : Nat → ByteAddress
  bpSet : Bool

/-- The globals as the C runtime zeroes them and `db_prepare` zeroes them again. -/
def DebugState.zero : DebugState := ⟨fun _ => 0, fun _ => 0, false⟩

/-- One iteration of the first loop of `db_regenerate_current_ips`, with `j` the write index. -/
def regenerateStep (bpTable : Nat → ByteAddress) (acc : (Nat → ByteAddress) × Nat) (i : Nat) :
    (Nat → ByteAddress) × Nat :=
  if bpTable i ≠ 0 then (Function.update acc.1 acc.2 (bpTable i + 1), acc.2 + 1) else acc

/-- `db_regenerate_current_ips`: the set slots plus one are compacted to the front, then the
rest of the first `DB_MAX_BPS` entries are zeroed. -/
def dbRegenerateCurrentIps (s : DebugState) : DebugState :=
  let r := (List.range DB_MAX_BPS).foldl (regenerateStep s.bpTable) (s.currentIps, 0)
  { s with currentIps :=
      (List.range' r.2 (DB_MAX_BPS - r.2)).foldl (fun ips i => Function.update ips i 0) r.1 }

/-- What the debugger reads besides its globals: VM memory, the `OPC_EXTEND` and
`OPC_EXTEND0` opcodes of the generated `rom.h`, whether `char` is signed on the target,
and `db_debug_enabled`. -/
structure DebugEnv where
  memory : ByteAddress → UInt8
  OPC_EXTEND : Int
  OPC_EXTEND0 : Int
  charSigned : Bool
  debugEnabled : Bool

/-- The value of `char op = *((ByteAddress)addr)`. -/
def DebugEnv.charAt (env : DebugEnv) (a : ByteAddress) : Int :=
  if env.charSigned ∧ 128 ≤ (env.memory a).toNat then (env.memory a).toNat - 256
  else (env.memory a).toNat

/-- The address `B:S` stores: moved past an `EXTEND`-family prefix onto the real opcode. The
`int` sum and the cast to a 32-bit pointer agree modulo `2^32`. -/
def breakpointAddress (env : DebugEnv) (addr : Int) : ByteAddress :=
  if env.charAt (BitVec.ofInt 32 addr) = env.OPC_EXTEND then BitVec.ofInt 32 (addr + 2)
  else if env.charAt (BitVec.ofInt 32 addr) = env.OPC_EXTEND0 then BitVec.ofInt 32 (addr + 1)
  else BitVec.ofInt 32 addr

/-- The loop of `B:C` that recomputes `db_bp_set`: `FALSE` each round, `TRUE` and `break` at
the first set slot. -/
def clearScan (bpTable : Nat → ByteAddress) : List Nat → Bool → Bool
  | [], bpSet => bpSet
  | i :: is, _ => if bpTable i ≠ 0 then true else clearScan bpTable is false

/-- `db_process_break_cmd` on the fields its `sscanf` assigned. `.error` carries the message
printed before `exit(-1)`. -/
def dbProcessBreakCmd (env : DebugEnv) (subcmd : Char) (bpnum addr : Int) (s : DebugState) :
    Except String DebugState :=
  if bpnum < 0 ∨ DB_MAX_BPS ≤ bpnum then
    .error s!"ERROR - Breakpoint number {bpnum} is not valid\n"
  else match subcmd with
    | 'S' => .ok (dbRegenerateCurrentIps
        { s with bpTable := Function.update s.bpTable bpnum.toNat (breakpointAddress env addr),
                 bpSet := true })
    | 'C' =>
      let bpTable := Function.update s.bpTable bpnum.toNat 0
      .ok (dbRegenerateCurrentIps
        { s with bpTable, bpSet := clearScan bpTable (List.range DB_MAX_BPS) s.bpSet })
    | _ => .error s!"ERROR - Debug break cmd {subcmd} is not valid\n"

@[simp] theorem dbRegenerateCurrentIps_bpTable (s : DebugState) :
    (dbRegenerateCurrentIps s).bpTable = s.bpTable := rfl

theorem dbProcessBreakCmd_out_of_range {env : DebugEnv} {subcmd : Char} {bpnum addr : Int}
    {s : DebugState} (h : bpnum < 0 ∨ DB_MAX_BPS ≤ bpnum) :
    dbProcessBreakCmd env subcmd bpnum addr s =
      .error s!"ERROR - Breakpoint number {bpnum} is not valid\n" :=
  if_pos h

/-- A `B:S` or `B:C` that does not end the process names a slot in range, and leaves the state
its branch builds. -/
theorem dbProcessBreakCmd_ok_iff {env : DebugEnv} {subcmd : Char} {bpnum addr : Int}
    {s s' : DebugState} :
    dbProcessBreakCmd env subcmd bpnum addr s = .ok s' ↔ 0 ≤ bpnum ∧ bpnum < DB_MAX_BPS ∧
      (subcmd = 'S' ∧ s' = dbRegenerateCurrentIps
          { s with bpTable := Function.update s.bpTable bpnum.toNat (breakpointAddress env addr),
                   bpSet := true } ∨
        subcmd = 'C' ∧ s' = dbRegenerateCurrentIps
          { s with bpTable := Function.update s.bpTable bpnum.toNat 0,
                   bpSet := clearScan (Function.update s.bpTable bpnum.toNat 0)
                     (List.range DB_MAX_BPS) s.bpSet }) := by
  by_cases hb : bpnum < 0 ∨ DB_MAX_BPS ≤ bpnum
  · rw [dbProcessBreakCmd_out_of_range hb]
    exact ⟨(nomatch ·), fun h => by omega⟩
  · unfold dbProcessBreakCmd
    rw [if_neg hb]
    have hr : 0 ≤ bpnum ∧ bpnum < DB_MAX_BPS := by omega
    split
    · simp only [Except.ok.injEq, hr, true_and]
      exact ⟨fun h => .inl h.symm, (·.elim Eq.symm fun h => absurd h.1 (by decide))⟩
    · simp only [Except.ok.injEq, hr, true_and]
      exact ⟨fun h => .inr h.symm, (·.elim (fun h => absurd h.1 (by decide)) Eq.symm)⟩
    · next hS hC =>
      exact ⟨(nomatch ·), fun h => (h.2.2.elim (hS ·.1) (hC ·.1)).elim⟩

/-- A `B:S` or `B:C` that does not end the process changes one slot of the table, in range. -/
theorem dbProcessBreakCmd_only_slot {env : DebugEnv} {subcmd : Char} {bpnum addr : Int}
    {s s' : DebugState} (h : dbProcessBreakCmd env subcmd bpnum addr s = .ok s') :
    0 ≤ bpnum ∧ bpnum < DB_MAX_BPS ∧ ∀ i, i ≠ bpnum.toNat → s'.bpTable i = s.bpTable i := by
  obtain ⟨h0, h1, ⟨-, rfl⟩ | ⟨-, rfl⟩⟩ := dbProcessBreakCmd_ok_iff.mp h <;>
    exact ⟨h0, h1, fun i hi => Function.update_noteq hi _ _⟩

/-! ### The fast-lookup array matches the table -/

/-- The addresses plus one of the set slots, in slot order: what `db_current_ips` should
start with. -/
def currentIpsOf (bpTable : Nat → ByteAddress) : List ByteAddress :=
  ((List.range DB_MAX_BPS).filter fun i => bpTable i ≠ 0).map fun i => bpTable i + 1

/-- The consistency of the two tables: `db_current_ips` lists the set slots plus one then
zeros, its last entry ends every scan, and `db_bp_set` is on while a slot is set. -/
structure BreakpointInv (s : DebugState) : Prop where
  current_ips : (List.range DB_MAX_BPS).map s.currentIps =
    currentIpsOf s.bpTable ++ List.replicate (DB_MAX_BPS - (currentIpsOf s.bpTable).length) 0
  sentinel : s.currentIps DB_MAX_BPS = 0
  bp_set : (∃ i < DB_MAX_BPS, s.bpTable i ≠ 0) → s.bpSet = true

theorem foldl_regenerateStep (bpTable : Nat → ByteAddress) (ips : Nat → ByteAddress) (n : Nat) :
    let r := (List.range n).foldl (regenerateStep bpTable) (ips, 0)
    (List.range r.2).map r.1 = ((List.range n).filter fun i => bpTable i ≠ 0).map (bpTable · + 1) ∧
      ∀ k, r.2 ≤ k → r.1 k = ips k := by
  induction n with
  | zero => simp
  | succ n ih =>
    simp only [List.range_succ, List.foldl_append, List.foldl_cons, List.foldl_nil,
      List.filter_append, List.map_append]
    generalize (List.range n).foldl (regenerateStep bpTable) (ips, 0) = r at ih ⊢
    obtain ⟨hfront, hrest⟩ := ih
    unfold regenerateStep
    split
    · next hne =>
      refine ⟨?_, fun k hk => ?_⟩
      · rw [List.range_succ, List.map_append, List.map_congr_left fun k hk =>
          Function.update_noteq (List.mem_range.mp hk).ne _ _, hfront, List.filter_singleton]
        simp only [decide_eq_true hne, cond_true, List.map_cons, List.map_nil,
          Function.update_same]
      · dsimp only at hk ⊢
        rw [Function.update_noteq (by omega), hrest k (by omega)]
    · next heq =>
      rw [List.filter_singleton]
      simp only [decide_eq_false heq, cond_false, List.map_nil, List.append_nil]
      exact ⟨hfront, hrest⟩

theorem foldl_update_zero (ips : Nat → ByteAddress) (j m k : Nat) :
    (List.range' j m).foldl (fun ips i => Function.update ips i 0) ips k =
      if j ≤ k ∧ k < j + m then 0 else ips k := by
  induction m generalizing j ips with
  | zero => simp only [List.range'_zero, List.foldl_nil]; split <;> first | omega | rfl
  | succ m ih =>
    rw [List.range'_succ, List.foldl_cons, ih]
    by_cases hk : k = j
    · subst hk; simp
    · simp only [Function.update_noteq hk]
      congr 1
      apply propext
      omega

theorem dbRegenerateCurrentIps_spec (s : DebugState) :
    (List.range DB_MAX_BPS).map (dbRegenerateCurrentIps s).currentIps =
      currentIpsOf s.bpTable ++ List.replicate (DB_MAX_BPS - (currentIpsOf s.bpTable).length) 0 ∧
    (dbRegenerateCurrentIps s).currentIps DB_MAX_BPS = s.currentIps DB_MAX_BPS := by
  obtain ⟨hfront, hrest⟩ := foldl_regenerateStep s.bpTable s.currentIps DB_MAX_BPS
  simp only [dbRegenerateCurrentIps, foldl_update_zero]
  generalize (List.range DB_MAX_BPS).foldl (regenerateStep s.bpTable) (s.currentIps, 0) = r
    at hfront hrest ⊢
  have hlen : (currentIpsOf s.bpTable).length = r.2 := by
    simpa [currentIpsOf] using (congrArg List.length hfront).symm
  have hle : r.2 ≤ DB_MAX_BPS := hlen ▸ by
    simpa [currentIpsOf] using List.length_filter_le _ (List.range DB_MAX_BPS)
  refine ⟨?_, by rw [if_neg (by omega), hrest _ hle]⟩
  rw [hlen]
  simp only [currentIpsOf]
  rw [← hfront]
  have hsplit : List.range DB_MAX_BPS = List.range r.2 ++ List.range' r.2 (DB_MAX_BPS - r.2) := by
    have h := List.range'_append 0 r.2 (DB_MAX_BPS - r.2) 1
    rw [Nat.zero_add, Nat.one_mul, Nat.sub_add_cancel hle] at h
    rw [List.range_eq_range', List.range_eq_range', h]
  rw [hsplit, List.map_append]
  congr 1
  · exact List.map_congr_left fun k hk => by
      rw [foldl_update_zero, if_neg (by simp at hk; omega)]
  · rw [List.map_congr_left fun k hk => by
      rw [foldl_update_zero, if_pos (by simp [List.mem_range'] at hk; omega)]]
    simp

theorem clearScan_cons (bpTable : Nat → ByteAddress) (bpSet : Bool) :
    ∀ (i : Nat) (l : List Nat),
      clearScan bpTable (i :: l) bpSet = (i :: l).any fun i => bpTable i ≠ 0
  | i, [] => by by_cases hi : bpTable i = 0 <;> simp [clearScan, hi]
  | i, j :: l => by
    rw [clearScan]
    by_cases hi : bpTable i = 0
    · rw [if_neg (not_not.mpr hi), clearScan_cons bpTable false j l, List.any_cons (a := i),
        decide_eq_false (not_not.mpr hi), Bool.false_or]
    · rw [if_pos hi, List.any_cons, decide_eq_true hi, Bool.true_or]

/-- Every `B:S` and `B:C` that does not end the process keeps the tables consistent. -/
theorem dbProcessBreakCmd_inv {env : DebugEnv} {subcmd : Char} {bpnum addr : Int}
    {s s' : DebugState} (hs : BreakpointInv s) (h : dbProcessBreakCmd env subcmd bpnum addr s = .ok s') :
    BreakpointInv s' := by
  unfold dbProcessBreakCmd at h
  split at h
  · cases h
  · split at h <;> cases h
    · obtain ⟨hips, hsent⟩ := dbRegenerateCurrentIps_spec
        { s with bpTable := Function.update s.bpTable bpnum.toNat (breakpointAddress env addr),
                 bpSet := true }
      exact ⟨hips, hsent.trans hs.sentinel, fun _ => rfl⟩
    · obtain ⟨hips, hsent⟩ := dbRegenerateCurrentIps_spec
        { s with bpTable := Function.update s.bpTable bpnum.toNat 0,
                 bpSet := clearScan (Function.update s.bpTable bpnum.toNat 0) (List.range DB_MAX_BPS) s.bpSet }
      refine ⟨hips, hsent.trans hs.sentinel, fun ⟨i, hi, hne⟩ => ?_⟩
      show clearScan _ _ _ = true
      rw [show List.range DB_MAX_BPS = 0 :: List.range' 1 (DB_MAX_BPS - 1) from rfl,
        clearScan_cons, ← show List.range DB_MAX_BPS = 0 :: List.range' 1 (DB_MAX_BPS - 1) from rfl,
        List.any_eq_true]
      exact ⟨i, List.mem_range.mpr hi, by simpa using hne⟩

/-- The states the debugger can be in: zeroed by `db_prepare`, then changed by `B:S` and
`B:C` commands that do not end the process. -/
inductive DbReachable (env : DebugEnv) : DebugState → Prop
  | prepare : DbReachable env DebugState.zero
  | breakCmd {s s' : DebugState} {subcmd : Char} {bpnum addr : Int} :
      DbReachable env s → dbProcessBreakCmd env subcmd bpnum addr s = .ok s' → DbReachable env s'

theorem BreakpointInv.zero : BreakpointInv DebugState.zero :=
  ⟨by decide, rfl, fun ⟨_, _, h⟩ => absurd rfl h⟩

/-- In every state reached from `db_prepare` by `B:S` and `B:C` commands, the first
`DB_MAX_BPS` entries of `db_current_ips` are the set slots' addresses plus one in slot order,
then zeros; `db_current_ips[DB_MAX_BPS]` is zero; and `db_bp_set` holds while a slot is set. -/
theorem db_current_ips_consistent (env : DebugEnv) {s : DebugState} (h : DbReachable env s) :
    BreakpointInv s := by
  induction h with
  | prepare => exact BreakpointInv.zero
  | breakCmd _ hstep ih => exact dbProcessBreakCmd_inv ih hstep

theorem db_current_ips_consistent_after_set :
    ∃ s, dbProcessBreakCmd ⟨fun _ => 0, 1, 2, false, true⟩ 'S' 3 100 DebugState.zero = .ok s ∧
      BreakpointInv s :=
  ⟨_, rfl, db_current_ips_consistent _ (@DbReachable.breakCmd _ _ _ 'S' 3 100 .prepare rfl)⟩

end SquawkVM
