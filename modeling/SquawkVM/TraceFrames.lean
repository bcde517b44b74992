import SquawkVM.Machine

/-! The two walks of the tracer (`trace.c`) over the frames of a call stack:
`calculateCallDepth` counts the frames from a frame pointer to the top of the stack, and
`traceFrames` prints one record for each of them. Both follow `FP_returnFP` until it is null and
stop the VM past 2000 frames, so they end on every memory, a cyclic chain of frames included.

Both are given by the first null among the first 2001 frame pointers of the chain
(`callDepthSpec`). On a chain of `n ≤ 2000` frames `calculateCallDepth` returns `n` and
`traceFrames` prints the records of those `n` frames, in order; on a longer chain
`calculateCallDepth` stops the VM, and `traceFrames` stops it after the record of frame 2001. -/

namespace SquawkVM

/-- The words of a frame that the tracer reads: `getObject(fp, FP_returnFP)`,
`getObject(fp, FP_returnIP)` and `getObject(fp, FP_method)` of the frame at `fp`. -/
structure FrameLinks where
  returnFP : Int → Int
  returnIP : Int → Int
  method : Int → Int

namespace FrameLinks

/-- The frame pointer `n` links up the chain from `fp`. -/
def frameAt (F : FrameLinks) (fp : Int) : Nat → Int
  | 0 => fp
  | n + 1 => frameAt F (F.returnFP fp) n

/-- The instruction pointer of the frame `n` links up the chain from the frame `fp` whose
instruction pointer is `ip`. -/
def ipAt (F : FrameLinks) (ip fp : Int) : Nat → Int
  | 0 => ip
  | n + 1 => ipAt F (F.returnIP fp) (F.returnFP fp) n

/-- The method pointer and bytecode offset that `traceFrames` prints for the frame `n` links up
the chain; before an `EXTEND` (`extend`) the innermost frame's method starts at `ip`. -/
def traceRecord (F : FrameLinks) (extend : Bool) (ip fp : Int) (n : Nat) : Int × Int :=
  let traceMP := if n = 0 ∧ extend then ip else F.method (F.frameAt fp n)
  (traceMP, toInt32 (F.ipAt ip fp n - traceMP))

theorem traceRecord_zero (F : FrameLinks) (extend : Bool) (ip fp : Int) :
    F.traceRecord extend ip fp 0 =
      ((if extend then ip else F.method fp), toInt32 (ip - if extend then ip else F.method fp)) := by
  cases extend <;> rfl

/-- Past the innermost frame, the records are those of the caller's chain. -/
theorem traceRecord_succ (F : FrameLinks) (extend : Bool) (ip fp : Int) (n : Nat) :
    F.traceRecord extend ip fp (n + 1) = F.traceRecord false (F.returnIP fp) (F.returnFP fp) n := by
  simp [traceRecord, frameAt, ipAt]

theorem map_traceRecord_range_succ (F : FrameLinks) (extend : Bool) (ip fp : Int) (n : Nat) :
    (List.range (n + 1)).map (F.traceRecord extend ip fp) =
      F.traceRecord extend ip fp 0 ::
        (List.range n).map (F.traceRecord false (F.returnIP fp) (F.returnFP fp)) := by
  simp only [List.range_succ_eq_map, List.map_cons, List.map_map, Function.comp_def,
    traceRecord_succ]

end FrameLinks

/-- The message of `calculateCallDepth` past 2000 frames. -/
def callDepthMsg : String := "**Call depth suspiciously deep - infinite recursion?**"

/-- The message of `traceFrames` past 2000 frames. -/
def callStackMsg : String := "**** Call stack suspiciously deep - infinite recursion? ****"

/-- The loop of `calculateCallDepth` at `traceFP` with `depth` frames counted: the depth, or the
message of the `fatalVMError` that stops the VM. `fuel` bounds the iterations. -/
def calculateCallDepthLoop (F : FrameLinks) : Nat → Int → Nat → Option (Except String Nat)
  | 0, _, _ => none
  | fuel + 1, traceFP, depth =>
    if traceFP ≠ 0 then
      if depth + 1 > 2000 then some (.error callDepthMsg)
      else calculateCallDepthLoop F fuel (F.returnFP traceFP) (depth + 1)
    else some (.ok depth)

/-- `calculateCallDepth(traceFP)`. -/
def calculateCallDepth (F : FrameLinks) (fuel : Nat) (traceFP : Int) : Option (Except String Nat) :=
  calculateCallDepthLoop F fuel traceFP 0

/-- The loop of `traceFrames` with `recursionGuard` frames printed: the records it prints, and
the message of the `fatalVMError` that stops the VM, if one does (`assume(pc >= 0)` fails with
an empty message, before the record). -/
def traceFramesLoop (F : FrameLinks) (ASSUME : Bool) (OPC_EXTEND OPC_EXTEND0 : Nat) :
    Nat → Int → Int → Int → Nat → Option (List (Int × Int) × Option String)
  | 0, _, _, _, _ => none
  | fuel + 1, opcode, traceIP, traceFP, recursionGuard =>
    if traceFP ≠ 0 then
      let extend := opcode = OPC_EXTEND ∨ opcode = OPC_EXTEND0
      let traceMP := if extend then traceIP else F.method traceFP
      let pc := toInt32 (traceIP - traceMP)
      if ASSUME ∧ pc < 0 then some ([], some "")
      else if recursionGuard + 1 > 2000 then some ([(traceMP, pc)], some callStackMsg)
      else
        (traceFramesLoop F ASSUME OPC_EXTEND OPC_EXTEND0 fuel (if extend then -1 else opcode)
          (F.returnIP traceFP) (F.returnFP traceFP) (recursionGuard + 1)).map
          fun w => ((traceMP, pc) :: w.1, w.2)
    else some ([], none)

/-- The line `traceFrames` prints for a frame: after a `*THREADSWITCH*` line, or as a line of a
stack trace. -/
def traceFrameLine (forThreadSwitch : Bool) (r : Int × Int) : String :=
  if forThreadSwitch then ":" ++ toString r.1 ++ "@" ++ toString r.2
  else "*STACKTRACE*:" ++ toString r.1 ++ ":" ++ toString r.2 ++ "\n"

/-- `traceFrames(opcode, traceIP, traceFP, forThreadSwitch)`: the lines it prints, and the
message of the `fatalVMError` that stops the VM, if one does. -/
def traceFrames (F : FrameLinks) (ASSUME : Bool) (OPC_EXTEND OPC_EXTEND0 : Nat) (fuel : Nat)
    (opcode traceIP traceFP : Int) (forThreadSwitch : Bool) : Option (List String × Option String) :=
  (traceFramesLoop F ASSUME OPC_EXTEND OPC_EXTEND0 fuel opcode traceIP traceFP 0).map
    fun w => (w.1.map (traceFrameLine forThreadSwitch), w.2)

/-! ### Both walks end at the first null among 2001 frames -/

/-- What both walks find: the index of the first null frame pointer among the first 2001 of
the chain, or `fatalVMError` when there is none. -/
def callDepthSpec (F : FrameLinks) (fp : Int) : Except String Nat :=
  match (List.range 2001).find? (fun i => F.frameAt fp i = 0) with
  | some n => .ok n
  | none => .error callDepthMsg

/-- The search for a null frame pointer, one frame at a time. -/
theorem find?_frameAt_succ (F : FrameLinks) (fp : Int) (k : Nat) :
    (List.range (k + 1)).find? (fun i => F.frameAt fp i = 0) =
      if fp = 0 then some 0
      else ((List.range k).find? (fun i => F.frameAt (F.returnFP fp) i = 0)).map (· + 1) := by
  rw [List.range_succ_eq_map, List.find?_cons, List.find?_map]
  by_cases h : fp = 0 <;> simp [h, FrameLinks.frameAt, Function.comp_def]

/-- From any frame, with `k` frames left before the limit, `calculateCallDepth` adds the index
of the first null frame pointer among the next `k`, or stops the VM. -/
theorem calculateCallDepthLoop_eq (F : FrameLinks) :
    ∀ (k fuel : Nat) (fp : Int) (depth : Nat), depth + k = 2001 → k ≤ fuel → 0 < k →
      calculateCallDepthLoop F fuel fp depth =
        some (match (List.range k).find? (fun i => F.frameAt fp i = 0) with
          | some n => .ok (depth + n)
          | none => .error callDepthMsg)
  | 0, _, _, _, _, _, hk => absurd hk (by decide)
  | k + 1, fuel + 1, fp, depth, hd, hfuel, _ => by
    rw [calculateCallDepthLoop, find?_frameAt_succ]
    by_cases hfp : fp = 0
    · simp [hfp]
    · rw [if_pos hfp, if_neg hfp]
      by_cases hk : k = 0
      · subst hk; simp [show depth + 1 > 2000 by omega]
      · rw [if_neg (by omega), calculateCallDepthLoop_eq F k fuel _ (depth + 1) (by omega) (by omega)
          (by omega)]
        cases (List.range k).find? (fun i => F.frameAt (F.returnFP fp) i = 0) <;>
          simp [Nat.add_assoc, Nat.add_comm 1]

/-- From any frame, with `k` frames left before the limit and no failing `assume`,
`traceFrames` prints the records of the frames before the first null frame pointer among the
next `k`, or of all `k` frames and then stops the VM. -/
theorem traceFramesLoop_eq (F : FrameLinks) (ASSUME : Bool) (OPC_EXTEND OPC_EXTEND0 : Nat) :
    ∀ (k fuel : Nat) (opcode ip fp : Int) (guard : Nat), guard + k = 2001 → k ≤ fuel → 0 < k →
      (ASSUME = true → ∀ i, 0 ≤ (F.traceRecord (opcode = OPC_EXTEND ∨ opcode = OPC_EXTEND0)
        ip fp i).2) →
      traceFramesLoop F ASSUME OPC_EXTEND OPC_EXTEND0 fuel opcode ip fp guard =
        some (match (List.range k).find? (fun i => F.frameAt fp i = 0) with
          | some n => ((List.range n).map
              (F.traceRecord (opcode = OPC_EXTEND ∨ opcode = OPC_EXTEND0) ip fp), none)
          | none => ((List.range k).map
              (F.traceRecord (opcode = OPC_EXTEND ∨ opcode = OPC_EXTEND0) ip fp), some callStackMsg))
  | 0, _, _, _, _, _, _, _, hk, _ => absurd hk (by decide)
  | k + 1, fuel + 1, opcode, ip, fp, guard, hd, hfuel, _, hpc => by
    have hpc0 : ¬(ASSUME = true ∧ toInt32 (ip - (if opcode = OPC_EXTEND ∨ opcode = OPC_EXTEND0
        then ip else F.method fp)) < 0) := fun ⟨ha, hlt⟩ => by
      have := hpc ha 0
      simp only [FrameLinks.traceRecord, FrameLinks.ipAt, FrameLinks.frameAt, true_and] at this
      split at hlt <;> simp_all <;> omega
    simp only [traceFramesLoop]
    rw [find?_frameAt_succ]
    by_cases hfp : fp = 0
    · simp [hfp]
    · rw [if_pos hfp, if_neg hfp]
      simp only [if_neg hpc0]
      have hnext : decide ((if opcode = OPC_EXTEND ∨ opcode = OPC_EXTEND0 then -1 else opcode) =
          OPC_EXTEND ∨ (if opcode = OPC_EXTEND ∨ opcode = OPC_EXTEND0 then -1 else opcode) =
          OPC_EXTEND0) = false := by
        split <;> simp_all
      by_cases hk : k = 0
      · subst hk
        rw [if_pos (by omega)]
        simp only [List.range_zero, List.find?_nil, Option.map_none',
          FrameLinks.map_traceRecord_range_succ, FrameLinks.traceRecord_zero, List.map_nil,
          decide_eq_true_eq]
      · rw [if_neg (by omega), traceFramesLoop_eq F ASSUME OPC_EXTEND OPC_EXTEND0 k fuel _ _ _
          (guard + 1) (by omega) (by omega) (by omega)
          (fun ha i => by rw [hnext, ← FrameLinks.traceRecord_succ]; exact hpc ha (i + 1)), hnext]
        cases (List.range k).find? (fun i => F.frameAt (F.returnFP fp) i = 0) <;>
          simp [FrameLinks.map_traceRecord_range_succ, FrameLinks.traceRecord_zero]

end SquawkVM
