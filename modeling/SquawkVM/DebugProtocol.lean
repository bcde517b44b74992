import SquawkVM.Breakpoints
import Mathlib.Data.List.Nodup

/-! The line protocol of the low-level debugger (`debug.c`): the replies it prints, the
command loop `db_process_client_commands`, `db_prepare`, and the breakpoint check
`db_checkBreak` the dispatch loop of `Squawk_main` runs before every instruction. -/

namespace SquawkVM

/-- What the debugger prints, one constructor per kind of line of `debug.c`. -/
inductive DbOutput where
  /-- `db_send_ready`: the ROM start, and the flash address on the flash builds. -/
  | ready (romStart : Int) (flashAddress : Option Int)
  /-- `db_send_bp_hit`. -/
  | hit (bpnum : Nat)
  /-- `db_send_data_result`: parameter words, then local words (`none` for `DEADBEEF`). -/
  | state (params : List Int) (locals : List (Option Int))
  /-- `db_send_memory`. -/
  | memory (words : List Int)
  /-- An `ERROR - ...` line printed before `exit(-1)`. -/
  | error (msg : String)
  deriving DecidableEq, Repr

/-- What `db_send_data_result` and `db_send_memory` read through code outside `src/`: 32-bit
words of VM memory by byte address (`getUWord`, `getObject`, `*ptr`), the frame offsets
`FP_method` and `FP_parm0` (in words), the first method-info byte and `minfoValue(mp, 3)`
that `db_get_parameter_count` decodes, `getLocalCount`, and the `DEADBEEF` filler. -/
structure FrameEnv where
  wordAt : Int → Int
  FP_method : Int
  FP_parm0 : Int
  methodInfoByte : Int → Int
  minfoValue3 : Int → Int
  localCount : Int → Int
  DEADBEEF : Int

/-- `db_get_parameter_count(mp)`. -/
def dbGetParameterCount (fenv : FrameEnv) (mp : Int) : Int :=
  if fenv.methodInfoByte mp % 256 < 128 then fenv.methodInfoByte mp % 256 / 4
  else fenv.minfoValue3 mp

/-- The `P:` loop of `db_send_data_result` from word address `p`, `k` rounds before the
bound: `k` words each followed by a comma, then the word at the bound. -/
def dbParamWords (fenv : FrameEnv) (p : Int) : Nat → List Int
  | 0 => [fenv.wordAt p]
  | k + 1 => fenv.wordAt p :: dbParamWords fenv (p + 4) k

/-- The `L:` loop of `db_send_data_result`: `k` words downward from `p`. -/
def dbLocalWords (fenv : FrameEnv) (p : Int) : Nat → List (Option Int)
  | 0 => []
  | k + 1 =>
    (if fenv.wordAt p = fenv.DEADBEEF then none else some (fenv.wordAt p)) ::
      dbLocalWords fenv (p - 4) k

/-- `db_send_data_result(db_opcode, actual_ip, actual_fp)` for a frame at byte address `fp`. -/
def dbSendDataResult (env : DebugEnv) (fenv : FrameEnv) (opcode : Int) (ip : ByteAddress)
    (fp : Int) : DbOutput :=
  let mid := if opcode = env.OPC_EXTEND ∨ opcode = env.OPC_EXTEND0 then ((ip - 1).toNat : Int)
    else fenv.wordAt (fp + 4 * fenv.FP_method)
  let nlocals := fenv.localCount mid
  let start := fp + 4 * fenv.FP_parm0
  let bound := fp + 4 * (fenv.FP_parm0 + dbGetParameterCount fenv mid - 1)
  .state (dbParamWords fenv start ((bound - start) / 4).toNat)
    (dbLocalWords fenv (fp - 4) (nlocals - 1).toNat)

/-- The `P:` loop reads `k + 1` words upward from `p`. -/
theorem dbParamWords_eq (fenv : FrameEnv) : ∀ (p : Int) (k : Nat),
    dbParamWords fenv p k = (List.range (k + 1)).map fun (i : Nat) => fenv.wordAt (p + 4 * i)
  | p, 0 => by simp [dbParamWords, List.range_succ_eq_map]
  | p, k + 1 => by
    rw [dbParamWords, dbParamWords_eq fenv (p + 4) k, List.range_succ_eq_map (k + 1), List.map_cons,
      List.map_map]
    congr 1
    · simp
    · exact List.map_congr_left fun i _ => by simp only [Function.comp_apply]; congr 1; omega

/-- The `L:` loop reads `k` words downward from `p`. -/
theorem dbLocalWords_eq (fenv : FrameEnv) : ∀ (p : Int) (k : Nat),
    dbLocalWords fenv p k = (List.range k).map fun (i : Nat) =>
      if fenv.wordAt (p - 4 * i) = fenv.DEADBEEF then none else some (fenv.wordAt (p - 4 * i))
  | p, 0 => rfl
  | p, k + 1 => by
    rw [dbLocalWords, dbLocalWords_eq fenv (p - 4) k, List.range_succ_eq_map k, List.map_cons,
      List.map_map]
    congr 1
    · simp
    · exact List.map_congr_left fun i _ => by
        simp only [Function.comp_apply, show p - 4 - 4 * (i : Int) = p - 4 * ((i + 1 : Nat) : Int) by omega]

/-- For every frame, the `*DEBUG*:D:R:S` reply lists in its `P:` section the words from
`fp + FP_parm0` on, one per parameter but at least one: the loop stops one word short of the
last parameter and the word after it is printed in any case, so a method without parameters
reports the word at `fp + FP_parm0`. The `L:` section lists the words from `fp - 1` down to
`fp - (nlocals - 1)`, each `DEADBEEF` as `X`. -/
theorem dbSendDataResult_lists_at_least_one_parameter (env : DebugEnv) (fenv : FrameEnv)
    (opcode : Int) (ip : ByteAddress) (fp : Int) :
    let mid := if opcode = env.OPC_EXTEND ∨ opcode = env.OPC_EXTEND0 then ((ip - 1).toNat : Int)
      else fenv.wordAt (fp + 4 * fenv.FP_method)
    dbSendDataResult env fenv opcode ip fp =
      .state ((List.range (max (dbGetParameterCount fenv mid).toNat 1)).map fun (i : Nat) =>
          fenv.wordAt (fp + 4 * fenv.FP_parm0 + 4 * i))
        ((List.range (fenv.localCount mid - 1).toNat).map fun (i : Nat) =>
          if fenv.wordAt (fp - 4 - 4 * i) = fenv.DEADBEEF then none
          else some (fenv.wordAt (fp - 4 - 4 * i))) := by
  simp only [dbSendDataResult, dbParamWords_eq, dbLocalWords_eq]
  congr 3
  omega

example : dbSendDataResult ⟨fun _ => 0, 1, 2, false, true⟩
    ⟨fun a => a, 0, 1, fun _ => 0, fun _ => 0, fun _ => 1, 0xDEADBEEF⟩ 0 0 100 = .state [104] [] := by
  decide

/-- `db_send_memory(addr, size)`. -/
def dbSendMemory (fenv : FrameEnv) (addr size : Int) : DbOutput :=
  .memory ((List.range size.toNat).map fun k => fenv.wordAt (addr + 4 * k))

/-- `db_process_data_cmd` on the fields its `sscanf` assigned. -/
def dbProcessDataCmd (env : DebugEnv) (fenv : FrameEnv) (subcmd subsubcmd : Char) (i1 i2 : Int)
    (opcode : Int) (ip : ByteAddress) (fp : Int) : Except String DbOutput :=
  match subcmd with
  | 'S' => .error "ERROR - Debug data set cmd is not implemented\n"
  | 'G' => match subsubcmd with
    | 'S' => .ok (dbSendDataResult env fenv opcode ip fp)
    | 'M' => .ok (dbSendMemory fenv i1 i2)
    | _ => .error s!"ERROR - Debug data subcmd {subsubcmd} is not valid\n"
  | _ => .error s!"ERROR - Debug data cmd {subcmd} is not valid\n"

/-- A line read by `db_input`, as the `sscanf` calls of the command loop see it. -/
inductive DbCommand where
  /-- Header `*DEBUG*`, command `B`: the fields of `"%9s:%c:%i:%i"`. -/
  | breakCmd (subcmd : Char) (bpnum addr : Int)
  /-- Header `*DEBUG*`, command `C`. -/
  | cont
  /-- Header `*DEBUG*`, command `D`: the fields of `"%9s:%c:%c:%i,%i"`. -/
  | dataCmd (subcmd subsubcmd : Char) (i1 i2 : Int)
  /-- Header `*DEBUG*`, any other command letter. -/
  | other (cmd : Char)
  /-- A header other than `*DEBUG*`. -/
  | badHeader
  deriving DecidableEq, Repr

/-- Where a stretch of debugger code leaves the process, with what it printed. -/
inductive DbOutcome where
  /-- Execution goes on in state `s` with the unread input `rest`. -/
  | resumed (out : List DbOutput) (s : DebugState) (rest : List DbCommand)
  /-- The process called `exit(-1)`. -/
  | exited (out : List DbOutput)
  /-- The scan of `db_checkBreak` read past the end of `db_current_ips`. -/
  | overrun (out : List DbOutput) (s : DebugState) (rest : List DbCommand)

/-- Everything printed. -/
def DbOutcome.output : DbOutcome → List DbOutput
  | .resumed out _ _ => out
  | .exited out => out
  | .overrun out _ _ => out

/-- Lines printed before the rest of an outcome. -/
def DbOutcome.prepend (pre : List DbOutput) : DbOutcome → DbOutcome
  | .resumed out s rest => .resumed (pre ++ out) s rest
  | .exited out => .exited (pre ++ out)
  | .overrun out s rest => .overrun (pre ++ out) s rest

theorem DbOutcome.prepend_eq_resumed {pre : List DbOutput} {o : DbOutcome} {out : List DbOutput}
    {s : DebugState} {rest : List DbCommand} (h : o.prepend pre = .resumed out s rest) :
    ∃ out', o = .resumed out' s rest ∧ out = pre ++ out' := by
  cases o <;> cases h
  exact ⟨_, rfl, rfl⟩

section
variable (env : DebugEnv) (fenv : FrameEnv) (opcode : Int) (ip : ByteAddress) (fp : Int)

/-- `db_process_client_commands(db_opcode, actual_ip, actual_fp)`: read lines until `C`. An
empty input is `fgets` returning `NULL`. -/
def dbProcessClientCommands : DebugState → List DbCommand → DbOutcome
  | _, [] => .exited [.error "ERROR - No data read\n"]
  | s, c :: cs => match c with
    | .badHeader => .exited [.error "ERROR - Debug cmd header not *DEBUG*\n"]
    | .other cmd => .exited [.error s!"ERROR - Debug cmd {cmd} is not valid\n"]
    | .cont => .resumed [] s cs
    | .breakCmd subcmd bpnum addr => match dbProcessBreakCmd env subcmd bpnum addr s with
      | .error msg => .exited [.error msg]
      | .ok s' => dbProcessClientCommands s' cs
    | .dataCmd subcmd subsubcmd i1 i2 =>
      match dbProcessDataCmd env fenv subcmd subsubcmd i1 i2 opcode ip fp with
      | .error msg => .exited [.error msg]
      | .ok out => (dbProcessClientCommands s cs).prepend [out]

/-- The scan `while (bp_ip = db_current_ips[i++])` of `db_checkBreak` from index `i`, with
`fuel` entries of the array left; on a match the inner loop looks for the first slot of
`db_bp_table` holding `actual_ip - 1`, reports it and serves commands. -/
def dbCheckBreakScan : (fuel i : Nat) → DebugState → List DbCommand → DbOutcome
  | 0, _, s, cmds => .overrun [] s cmds
  | fuel + 1, i, s, cmds =>
    if s.currentIps i = 0 then .resumed [] s cmds
    else if s.currentIps i = ip then
      match (List.range DB_MAX_BPS).find? (fun j => s.bpTable j = ip - 1) with
      | none => dbCheckBreakScan fuel (i + 1) s cmds
      | some j => match dbProcessClientCommands env fenv opcode ip fp s cmds with
        | .resumed out s' cmds' => (dbCheckBreakScan fuel (i + 1) s' cmds').prepend (.hit j :: out)
        | .exited out => .exited (.hit j :: out)
        | .overrun out s' cmds' => .overrun (.hit j :: out) s' cmds'
    else dbCheckBreakScan fuel (i + 1) s cmds

/-- `db_checkBreak(opcode, actual_ip, actual_fp)`. -/
def dbCheckBreak (s : DebugState) (cmds : List DbCommand) : DbOutcome :=
  if env.debugEnabled ∧ s.bpSet then dbCheckBreakScan env fenv opcode ip fp (DB_MAX_BPS + 1) 0 s cmds
  else .resumed [] s cmds

end

/-- `db_prepare`: zero the tables, announce the ROM address, and serve commands before the
first instruction runs. -/
def dbPrepare (env : DebugEnv) (fenv : FrameEnv) (romStart : Int) (flashAddress : Option Int)
    (cmds : List DbCommand) : DbOutcome :=
  if env.debugEnabled then
    (dbProcessClientCommands env fenv 0 0 0 DebugState.zero cmds).prepend
      [.ready romStart flashAddress]
  else .resumed [] DebugState.zero cmds

/-- Two slots holding one address make a single `db_checkBreak` report the first slot twice,
as the scan goes on after a hit and meets the second copy; and a slot holding `0xFFFFFFFF`,
whose address plus one wraps to the terminator `0`, hides a later slot's breakpoint. -/
theorem dbCheckBreak_duplicate_and_wrapped_slots :
    let env : DebugEnv := ⟨fun _ => 0, 1, 2, false, true⟩
    let fenv : FrameEnv := ⟨fun _ => 0, 0, 1, fun _ => 0, fun _ => 0, fun _ => 1, 0xDEADBEEF⟩
    (∃ s, (dbProcessBreakCmd env 'S' 0 100 DebugState.zero >>= dbProcessBreakCmd env 'S' 1 100) =
        .ok s ∧ (dbCheckBreak env fenv 0 101 0 s [.cont, .cont]).output = [.hit 0, .hit 0]) ∧
    (∃ s, (dbProcessBreakCmd env 'S' 0 (-1) DebugState.zero >>= dbProcessBreakCmd env 'S' 1 100) =
        .ok s ∧ s.bpTable 1 = 100 ∧ (dbCheckBreak env fenv 0 101 0 s [.cont]).output = []) :=
  ⟨⟨_, rfl, by decide⟩, ⟨_, rfl, by decide, by decide⟩⟩

/-! ### One notice per hit when the slots are distinct -/

/-- A table the scan of `db_checkBreak` serves as intended: no two set slots hold one address,
and no slot holds the address whose successor wraps to the terminator `0`. -/
structure DistinctSlots (bpTable : Nat → ByteAddress) : Prop where
  injective : ∀ i < DB_MAX_BPS, ∀ j < DB_MAX_BPS, bpTable i ≠ 0 → bpTable i = bpTable j → i = j
  no_wrap : ∀ i < DB_MAX_BPS, bpTable i + 1 ≠ 0

theorem ByteAddress.succ_inj {a b : ByteAddress} (h : a + 1 = b + 1) : a = b := by
  rw [← BitVec.add_sub_cancel a 1, h, BitVec.add_sub_cancel]

theorem mem_currentIpsOf {bpTable : Nat → ByteAddress} {x : ByteAddress} :
    x ∈ currentIpsOf bpTable ↔ ∃ i < DB_MAX_BPS, bpTable i ≠ 0 ∧ bpTable i + 1 = x := by
  simp [currentIpsOf, and_assoc]

theorem currentIpsOf_nodup {bpTable : Nat → ByteAddress} (hd : DistinctSlots bpTable) :
    (currentIpsOf bpTable).Nodup := by
  refine ((List.nodup_range DB_MAX_BPS).filter _).map_on fun i hi j hj hij => ?_
  simp only [List.mem_filter, List.mem_range, decide_eq_true_eq] at hi hj
  exact hd.injective i hi.1 j hj.1 hi.2 (ByteAddress.succ_inj hij)

/-- Under the invariant, entry `k` of `db_current_ips` is entry `k` of the set slots'
addresses plus one, then `0`. -/
theorem currentIps_getElem? {s : DebugState} (hs : BreakpointInv s) {k : Nat}
    (hk : k < DB_MAX_BPS) :
    (currentIpsOf s.bpTable ++
      List.replicate (DB_MAX_BPS - (currentIpsOf s.bpTable).length) 0)[k]? =
        some (s.currentIps k) := by
  rw [← hs.current_ips, List.getElem?_map, List.getElem?_range hk]
  rfl

section
variable (env : DebugEnv) (fenv : FrameEnv) (opcode : Int) (ip : ByteAddress) (fp : Int)

/-- From entry `i`, the scan stops at the terminator `z` without a notice when no entry before
it is `ip`. -/
theorem dbCheckBreakScan_quiet {s : DebugState} {cmds : List DbCommand} {z : Nat}
    (hz : s.currentIps z = 0) :
    ∀ fuel i, i ≤ z → z < i + fuel → (∀ k, i ≤ k → k < z → s.currentIps k ≠ ip) →
      dbCheckBreakScan env fenv opcode ip fp fuel i s cmds = .resumed [] s cmds
  | 0, _, hi, hf, _ => absurd hf (by omega)
  | fuel + 1, i, hi, hf, hne => by
    rw [dbCheckBreakScan]
    by_cases h0 : s.currentIps i = 0
    · rw [if_pos h0]
    · have hiz : i < z := lt_of_le_of_ne hi fun h => h0 (h ▸ hz)
      rw [if_neg h0, if_neg (hne i le_rfl hiz)]
      exact dbCheckBreakScan_quiet hz fuel (i + 1) hiz (by omega) fun k hk => hne k (by omega)

/-- From entry `i`, when entry `k` is the only one before the terminator `z` equal to `ip`, the
scan sends the one notice for slot `j` that the lookup finds and serves the client; a session
that leaves the table as it was ends the scan. -/
theorem dbCheckBreakScan_hit {s : DebugState} {cmds cmds' : List DbCommand}
    {out : List DbOutput} {z k j : Nat} (hz : s.currentIps z = 0) (hkz : k < z)
    (hnz : ∀ k' ≤ k, s.currentIps k' ≠ 0) (hk : s.currentIps k = ip)
    (hne : ∀ k' < z, k' ≠ k → s.currentIps k' ≠ ip)
    (hfind : (List.range DB_MAX_BPS).find? (fun j => s.bpTable j = ip - 1) = some j)
    (hsess : dbProcessClientCommands env fenv opcode ip fp s cmds = .resumed out s cmds') :
    ∀ fuel i, i ≤ k → z < i + fuel →
      dbCheckBreakScan env fenv opcode ip fp fuel i s cmds = .resumed (.hit j :: out) s cmds'
  | 0, _, _, hf => absurd hf (by omega)
  | fuel + 1, i, hi, hf => by
    rw [dbCheckBreakScan, if_neg (hnz i hi)]
    by_cases hik : i = k
    · subst hik
      have hrest := @dbCheckBreakScan_quiet env fenv opcode ip fp s cmds' z hz fuel (i + 1)
        hkz (by omega) fun k' hk' hk'z => hne k' hk'z (by omega)
      rw [if_pos hk, hfind]
      simp only [hsess, hrest, DbOutcome.prepend, List.append_nil]
    · rw [if_neg (hne i (by omega) hik)]
      exact dbCheckBreakScan_hit hz hkz hnz hk hne hfind hsess fuel (i + 1) (by omega) (by omega)

end

/-- With distinct slots none of which wraps, `db_checkBreak` at `ip = a + 1` (the opcode at
`a` was fetched) sends nothing when no slot holds `a`. When slot `j` holds `a`, it sends the
one notice naming `j` and serves the client, and after a session that leaves the table as it
was, sends nothing more. -/
theorem dbCheckBreak_single_hit (env : DebugEnv) (fenv : FrameEnv) (opcode fp : Int)
    {s : DebugState} (hs : BreakpointInv s) (hd : DistinctSlots s.bpTable) (a : ByteAddress)
    (cmds : List DbCommand) :
    ((∀ j < DB_MAX_BPS, s.bpTable j = 0 ∨ s.bpTable j ≠ a) →
      dbCheckBreak env fenv opcode (a + 1) fp s cmds = .resumed [] s cmds) ∧
    (∀ j < DB_MAX_BPS, s.bpTable j ≠ 0 → s.bpTable j = a → env.debugEnabled = true →
      ∀ out cmds', dbProcessClientCommands env fenv opcode (a + 1) fp s cmds = .resumed out s cmds' →
        dbCheckBreak env fenv opcode (a + 1) fp s cmds = .resumed (.hit j :: out) s cmds') := by
  set n := (currentIpsOf s.bpTable).length
  have hn : n ≤ DB_MAX_BPS := by
    simpa [n, currentIpsOf] using List.length_filter_le _ (List.range DB_MAX_BPS)
  -- the entries before `n` are the set slots plus one, and entry `n` ends the scan
  have hentry : ∀ k (hk : k < n), s.currentIps k = (currentIpsOf s.bpTable)[k] := fun k hk => by
    have := currentIps_getElem? hs (by omega : k < DB_MAX_BPS)
    rw [List.getElem?_append_left hk, List.getElem?_eq_getElem hk] at this
    exact (Option.some.inj this).symm
  have hz : s.currentIps n = 0 := by
    rcases Nat.lt_or_eq_of_le hn with hlt | heq
    · have := currentIps_getElem? hs hlt
      rw [List.getElem?_append_right le_rfl, List.getElem?_replicate, if_pos (by omega)] at this
      exact (Option.some.inj this).symm
    · exact heq ▸ hs.sentinel
  have hslot : ∀ k (hk : k < n), ∃ i < DB_MAX_BPS, s.bpTable i ≠ 0 ∧
      s.bpTable i + 1 = s.currentIps k := fun k hk =>
    hentry k hk ▸ mem_currentIpsOf.1 (List.getElem_mem hk)
  refine ⟨fun hnone => ?_, fun j hj hset ha hen out cmds' hsess => ?_⟩
  · -- no slot holds `a`: the scan meets the terminator first
    unfold dbCheckBreak
    split
    · refine dbCheckBreakScan_quiet env fenv opcode _ fp hz _ 0 (Nat.zero_le _) (by omega)
        fun k _ hk hip => ?_
      obtain ⟨i, hi, hne, heq⟩ := hslot k hk
      exact (hnone i hi).elim hne fun h => h (ByteAddress.succ_inj (heq.trans hip))
    · rfl
  · -- slot `j` holds `a`: its entry `k` is the only one equal to `a + 1`
    obtain ⟨k, hk, hkeq⟩ := List.mem_iff_getElem.1 (mem_currentIpsOf.2 ⟨j, hj, hset, by rw [ha]⟩)
    have hfind : (List.range DB_MAX_BPS).find? (fun j => s.bpTable j = a + 1 - 1) = some j := by
      rw [BitVec.add_sub_cancel]
      cases hf : (List.range DB_MAX_BPS).find? (fun j => s.bpTable j = a) with
      | none => exact absurd (List.find?_eq_none.1 hf j (List.mem_range.2 hj)) (by simpa using ha)
      | some j' =>
        have hj' := List.mem_range.1 (List.mem_of_find?_eq_some hf)
        have ha' : s.bpTable j' = a := by simpa using List.find?_some hf
        rw [hd.injective j' hj' j hj (ha' ▸ ha ▸ hset) (ha'.trans ha.symm)]
    have hbp : s.bpSet = true := hs.bp_set ⟨j, hj, hset⟩
    unfold dbCheckBreak
    rw [if_pos ⟨hen, hbp⟩]
    refine dbCheckBreakScan_hit env fenv opcode _ fp hz hk (fun k' hk' => ?_) (by rw [hentry k hk, hkeq])
      (fun k' hk' hne heq => hne ?_) hfind hsess _ 0 (Nat.zero_le _) (by omega)
    · obtain ⟨i, hi, _, heq⟩ := hslot k' (by omega)
      exact heq ▸ hd.no_wrap i hi
    · rw [hentry k' hk', ← hkeq] at heq
      exact ((currentIpsOf_nodup hd).getElem_inj_iff).1 heq

/-- One breakpoint set by `B:S` at address 100: fetching the opcode there sends the notice for
slot 3 once, and the client's `C` resumes. -/
theorem dbCheckBreak_single_hit_at_one_breakpoint :
    ∃ s, dbProcessBreakCmd ⟨fun _ => 0, 1, 2, false, true⟩ 'S' 3 100 DebugState.zero = .ok s ∧
      dbCheckBreak ⟨fun _ => 0, 1, 2, false, true⟩
        ⟨fun _ => 0, 0, 1, fun _ => 0, fun _ => 0, fun _ => 1, 0xDEADBEEF⟩ 0 (100 + 1) 0 s [.cont] =
          .resumed [.hit 3] s [] :=
  ⟨_, rfl, (dbCheckBreak_single_hit _ _ 0 0
    (@dbProcessBreakCmd_inv ⟨fun _ => 0, 1, 2, false, true⟩ 'S' 3 100 _ _ BreakpointInv.zero rfl)
    ⟨by decide, by decide⟩ 100 [.cont]).2 3 (by decide) (by decide) rfl rfl [] [] rfl⟩

/-! ### The tables stay consistent through every session and scan -/

/-- An outcome of debugger code that stays inside `db_current_ips` and, when execution goes on,
leaves the two tables consistent. -/
def DbOutcome.Consistent : DbOutcome → Prop
  | .resumed _ s _ => BreakpointInv s
  | .exited _ => True
  | .overrun _ _ _ => False

@[simp] theorem DbOutcome.consistent_prepend (pre : List DbOutput) (o : DbOutcome) :
    (o.prepend pre).Consistent ↔ o.Consistent := by
  cases o <;> rfl

section
variable (env : DebugEnv) (fenv : FrameEnv) (opcode : Int) (ip : ByteAddress) (fp : Int)

/-- A session of the command loop ends the process or resumes with consistent tables: its
`B:S` and `B:C` commands keep the invariant. -/
theorem dbProcessClientCommands_consistent :
    ∀ (s : DebugState) (cmds : List DbCommand), BreakpointInv s →
      (dbProcessClientCommands env fenv opcode ip fp s cmds).Consistent
  | _, [], _ => trivial
  | s, c :: cs, hs => by
    cases c with
    | breakCmd subcmd bpnum addr =>
      simp only [dbProcessClientCommands]
      cases hb : dbProcessBreakCmd env subcmd bpnum addr s with
      | error msg => trivial
      | ok s' => exact dbProcessClientCommands_consistent s' cs (dbProcessBreakCmd_inv hs hb)
    | cont => exact hs
    | dataCmd subcmd subsubcmd i1 i2 =>
      simp only [dbProcessClientCommands]
      cases dbProcessDataCmd env fenv subcmd subsubcmd i1 i2 opcode ip fp with
      | error msg => trivial
      | ok out => exact (DbOutcome.consistent_prepend _ _).2 (dbProcessClientCommands_consistent s cs hs)
    | other cmd => trivial
    | badHeader => trivial

/-- From an entry `i ≤ DB_MAX_BPS` with fuel to reach `db_current_ips[DB_MAX_BPS]`, the scan
stops at a `0` before it runs out, even when the sessions at its hits rewrite the array: every
consistent state ends the array with the sentinel. -/
theorem dbCheckBreakScan_consistent :
    ∀ (fuel i : Nat) (s : DebugState) (cmds : List DbCommand), BreakpointInv s →
      i ≤ DB_MAX_BPS → DB_MAX_BPS + 1 ≤ i + fuel →
      (dbCheckBreakScan env fenv opcode ip fp fuel i s cmds).Consistent
  | 0, _, _, _, _, hi, hf => absurd hf (by omega)
  | fuel + 1, i, s, cmds, hs, hi, hf => by
    rw [dbCheckBreakScan]
    by_cases h0 : s.currentIps i = 0
    · rw [if_pos h0]
      exact hs
    · -- a set entry lies before the sentinel
      have hlt : i < DB_MAX_BPS := lt_of_le_of_ne hi fun h => h0 (h ▸ hs.sentinel)
      have next := fun s' cmds' (hs' : BreakpointInv s') =>
        dbCheckBreakScan_consistent fuel (i + 1) s' cmds' hs' hlt (by omega)
      rw [if_neg h0]
      split
      · split
        · exact next s cmds hs
        · have hsess := dbProcessClientCommands_consistent env fenv opcode ip fp s cmds hs
          split
          · next s' cmds' hr =>
            rw [hr] at hsess
            exact (DbOutcome.consistent_prepend _ _).2 (next s' cmds' hsess)
          · trivial
          · next hr => rw [hr] at hsess; exact hsess.elim
      · exact next s cmds hs

/-- `db_checkBreak` on consistent tables never reads past `db_current_ips`, and resumes with
consistent tables. -/
theorem dbCheckBreak_consistent {s : DebugState} (hs : BreakpointInv s) (cmds : List DbCommand) :
    (dbCheckBreak env fenv opcode ip fp s cmds).Consistent := by
  unfold dbCheckBreak
  split
  · exact dbCheckBreakScan_consistent env fenv opcode ip fp _ 0 s cmds hs (Nat.zero_le _) le_rfl
  · exact hs

end

/-- `db_prepare` ends the process or resumes with consistent tables. -/
theorem dbPrepare_consistent (env : DebugEnv) (fenv : FrameEnv) (romStart : Int)
    (flashAddress : Option Int) (cmds : List DbCommand) :
    (dbPrepare env fenv romStart flashAddress cmds).Consistent := by
  unfold dbPrepare
  split
  · exact (DbOutcome.consistent_prepend _ _).2
      (dbProcessClientCommands_consistent env fenv 0 0 0 _ cmds BreakpointInv.zero)
  · exact BreakpointInv.zero

end SquawkVM
