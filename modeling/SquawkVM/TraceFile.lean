import SquawkVM.Dispatch
import Mathlib.Tactic.Ring

/-! The trace file of a `TRACE` build (`trace.c`): its grammar, kept by every call of `trace` and
so by every run of the dispatch loop. `printStackTracePrim` opens the file too; its stack traces
are interleaved with these calls in `SquawkVM.StackTrace`. -/

namespace SquawkVM

/-! ### The grammar of the trace file -/

/-- The thread a `*TRACE*` record names. -/
def TraceLine.recordOf : TraceLine → Option Int
  | .record threadID .. => some threadID
  | _ => none

/-- Whether the line is a `*TRACE*` record. -/
def TraceLine.isRecord (line : TraceLine) : Bool := line.recordOf.isSome

/-- The lines after the header, read with `cur` the thread of the last `*THREADSWITCH*` line:
no second header, and every record names `cur`. -/
def followsSwitch : Option Int → List TraceLine → Bool
  | _, [] => true
  | _, .header .. :: _ => false
  | _, .threadSwitch threadID _ :: lines => followsSwitch (some threadID) lines
  | cur, .record threadID .. :: lines => cur == some threadID && followsSwitch cur lines

/-- The thread of the last `*THREADSWITCH*` line, `cur` if there is none. -/
def lastSwitch : Option Int → List TraceLine → Option Int
  | cur, [] => cur
  | _, .threadSwitch threadID _ :: lines => lastSwitch (some threadID) lines
  | cur, _ :: lines => lastSwitch cur lines

/-- A trace file a reader can take apart: empty, or the header and then lines that follow their
`*THREADSWITCH*` lines. -/
def wellFormedTrace : List TraceLine → Bool
  | [] => true
  | .header .. :: lines => followsSwitch none lines
  | _ :: _ => false

theorem followsSwitch_append (L M : List TraceLine) : ∀ cur,
    followsSwitch cur (L ++ M) = (followsSwitch cur L && followsSwitch (lastSwitch cur L) M) := by
  induction L with
  | nil => intro cur; rfl
  | cons line L ih =>
    intro cur
    cases line <;> simp only [List.cons_append, followsSwitch, lastSwitch, List.append_eq, ih,
      Bool.false_and, Bool.and_assoc]

theorem lastSwitch_append (L M : List TraceLine) : ∀ cur,
    lastSwitch cur (L ++ M) = lastSwitch (lastSwitch cur L) M := by
  induction L with
  | nil => intro cur; rfl
  | cons line L ih =>
    intro cur
    cases line <;> simp only [List.cons_append, lastSwitch, List.append_eq, ih]

/-- What the lines written so far and the tracer's globals say of each other: nothing is written
while the file is closed, and once it is open the file is well formed and its last
`*THREADSWITCH*` line names `lastThreadID`. -/
structure TraceFileInv (g : TracerGlobals) (file : List TraceLine) : Prop where
  closed : g.traceFileOpen = false → file = []
  well_formed : wellFormedTrace file = true
  current : g.traceFileOpen = true → lastSwitch none file = some g.lastThreadID

/-- Lines appended to a well-formed file that is not empty are read from the thread of its last
`*THREADSWITCH*` line. -/
theorem wellFormedTrace_append {file : List TraceLine} (hf : wellFormedTrace file = true)
    (hne : file ≠ []) (lines : List TraceLine) :
    wellFormedTrace (file ++ lines) = followsSwitch (lastSwitch none file) lines := by
  cases file with
  | nil => exact absurd rfl hne
  | cons line rest =>
    cases line with
    | header =>
      simp only [wellFormedTrace] at hf
      simp only [List.cons_append, wellFormedTrace, lastSwitch, followsSwitch_append, hf,
        Bool.true_and]
    | threadSwitch => exact absurd hf Bool.false_ne_true
    | record => exact absurd hf Bool.false_ne_true

theorem TraceFileInv.init {g : TracerGlobals} (hg : g.traceFileOpen = false) : TraceFileInv g [] :=
  ⟨fun _ => rfl, rfl, fun h => absurd (hg ▸ h) Bool.false_ne_true⟩

/-! ### What one call of `trace` writes -/

section Call
variable {B : Build} {E : TraceEnv}

theorem threadSwitch_ok {fuel : Nat} {opened : Bool} {threadID : Int} {g g' : TracerGlobals}
    {traceIP : Nat} {traceFP : Int} {sw : List TraceLine}
    (h : threadSwitch B E fuel opened threadID g traceIP traceFP = .ok (g', sw)) :
    ((opened = true ∨ threadID ≠ g.lastThreadID) ∧ g' = { g with lastThreadID := threadID } ∧
        ∃ frames, sw = [.threadSwitch threadID frames]) ∨
      (¬(opened = true ∨ threadID ≠ g.lastThreadID) ∧ g' = g ∧ sw = []) := by
  unfold threadSwitch at h
  split_ifs at h with hc
  · split at h <;> cases h
    exact .inl ⟨hc, rfl, _, rfl⟩
  · cases h
    exact .inr ⟨hc, rfl, rfl⟩

/-- A call of `trace` that returns writes the header if it opened the file, the `*THREADSWITCH*`
part, and one record naming the current thread. -/
theorem trace_ok_lines {O : Opcodes} {bigEndian : Bool} {fuel : Nat} {code : Nat → UInt8}
    {instruction : DecodedInstruction} {regs regs' : Registers} {g g' : TracerGlobals}
    {traceIP : Nat} {traceFP traceSP : Int} {lines : List TraceLine}
    (h : trace B E O bigEndian fuel code instruction regs g traceIP traceFP traceSP =
      .ok (regs', g', lines)) :
    ∃ sw r, threadSwitch B E fuel (!g.traceFileOpen)
        (if E.currentThread ≠ 0 then E.threadNumber E.currentThread else -1)
        { g with traceFileOpen := true } traceIP traceFP = .ok (g', sw) ∧
      lines = (if !g.traceFileOpen then [TraceLine.header E.romStart E.romEnd E.nvmStart
        E.nvmEnd (if B.SQUAWK_64 then 64 else 32)] else []) ++ sw ++ [r] ∧
      r.recordOf = some (if E.currentThread ≠ 0 then E.threadNumber E.currentThread else -1) := by
  simp only [trace, Traced.bind_eq_ok, Traced.ite_fatal_eq_ok, Traced.ok.injEq,
    Prod.mk.injEq] at h
  obtain ⟨sw, hsw, -, -, depth, -, -, slots, -, -, hg, hl⟩ := h
  exact ⟨sw.2, _, hg ▸ hsw, hl.symm, rfl⟩

/-- What a record adds, read from any thread `cur`. -/
theorem TraceLine.record_facts {r : TraceLine} {tid : Int} (hr : r.recordOf = some tid)
    (cur : Option Int) : followsSwitch cur [r] = (cur == some tid) ∧ lastSwitch cur [r] = cur ∧
      [r].countP TraceLine.isRecord = 1 := by
  cases r <;> simp_all [TraceLine.recordOf, TraceLine.isRecord, followsSwitch, lastSwitch]

/-- One call of `trace` that returns, on a file that is empty while closed, and once open is well
formed, not empty, and has a last `*THREADSWITCH*` line naming `lastThreadID` or none at all
while `lastThreadID` is not the calling thread: the file is then open and well formed, its last
`*THREADSWITCH*` line names the new `lastThreadID`, and the call wrote one record. -/
theorem trace_extends_file {O : Opcodes} {bigEndian : Bool} {fuel : Nat} {code : Nat → UInt8}
    {instruction : DecodedInstruction} {regs regs' : Registers} {g g' : TracerGlobals}
    {traceIP : Nat} {traceFP traceSP : Int} {file lines : List TraceLine}
    (hclosed : g.traceFileOpen = false → file = []) (hwf : wellFormedTrace file = true)
    (hne : g.traceFileOpen = true → file ≠ [])
    (hcur : g.traceFileOpen = true → lastSwitch none file = some g.lastThreadID ∨
      (lastSwitch none file = none ∧
        g.lastThreadID ≠ if E.currentThread ≠ 0 then E.threadNumber E.currentThread else -1))
    (h : trace B E O bigEndian fuel code instruction regs g traceIP traceFP traceSP =
      .ok (regs', g', lines)) :
    g'.traceFileOpen = true ∧ wellFormedTrace (file ++ lines) = true ∧
      lastSwitch none (file ++ lines) = some g'.lastThreadID ∧
      lines.countP TraceLine.isRecord = 1 := by
  obtain ⟨sw, r, hsw, rfl, hr⟩ := trace_ok_lines h
  generalize (if E.currentThread ≠ 0 then E.threadNumber E.currentThread else -1) = tid
    at hsw hr hcur
  have hrec := TraceLine.record_facts hr
  cases hopen : g.traceFileOpen
  · -- the call opens the file: header, `*THREADSWITCH*`, record
    obtain rfl := hclosed hopen
    rcases threadSwitch_ok hsw with ⟨-, rfl, frames, rfl⟩ | ⟨hc, -, -⟩
    · obtain ⟨hf, hl, hc⟩ := hrec (some tid)
      refine ⟨rfl, ?_, ?_, ?_⟩
      · simp [hopen, wellFormedTrace, followsSwitch, hf]
      · simp [hopen, lastSwitch_append, lastSwitch, hl]
      · simp [hopen, List.countP_append, TraceLine.isRecord, TraceLine.recordOf, hc]
    · simp [hopen] at hc
  · -- the file is open: a `*THREADSWITCH*` line, or the record follows the last one
    rcases threadSwitch_ok hsw with ⟨-, rfl, frames, rfl⟩ | ⟨hc, rfl, rfl⟩
    · obtain ⟨hf, hl, hc⟩ := hrec (some tid)
      refine ⟨rfl, ?_, ?_, ?_⟩
      · simp [hopen, wellFormedTrace_append hwf (hne hopen), followsSwitch, hf]
      · simp [hopen, lastSwitch_append, lastSwitch, hl]
      · simp [hopen, List.countP_append, TraceLine.isRecord, TraceLine.recordOf, hc]
    · have htid : tid = g.lastThreadID := by simpa [hopen] using hc
      have hlast : lastSwitch none file = some g.lastThreadID := by
        rcases hcur hopen with h | ⟨-, h⟩
        · exact h
        · exact absurd htid.symm h
      obtain ⟨hf, hl, hc⟩ := hrec (some g.lastThreadID)
      refine ⟨rfl, ?_, ?_, ?_⟩
      · simp [hopen, wellFormedTrace_append hwf (hne hopen), hlast, hf, htid]
      · simp [hopen, lastSwitch_append, hlast, hl]
      · simpa [hopen] using hc

/-- One call of `trace` keeps the file well formed and writes one record. -/
theorem trace_keeps_file {O : Opcodes} {bigEndian : Bool} {fuel : Nat} {code : Nat → UInt8}
    {instruction : DecodedInstruction} {regs regs' : Registers} {g g' : TracerGlobals}
    {traceIP : Nat} {traceFP traceSP : Int} {file lines : List TraceLine}
    (hinv : TraceFileInv g file)
    (h : trace B E O bigEndian fuel code instruction regs g traceIP traceFP traceSP =
      .ok (regs', g', lines)) :
    TraceFileInv g' (file ++ lines) ∧ lines.countP TraceLine.isRecord = 1 := by
  have hne : g.traceFileOpen = true → file ≠ [] := fun h hnil => by
    simpa [hnil, lastSwitch] using hinv.current h
  obtain ⟨hopen, hwf, hlast, hc⟩ :=
    trace_extends_file hinv.closed hinv.well_formed hne (fun h => .inl (hinv.current h)) h
  exact ⟨⟨fun h => absurd (h ▸ hopen) Bool.false_ne_true, hwf, fun _ => hlast⟩, hc⟩

end Call

/-! ### Every sequence of calls -/

/-- What one call of `trace` reads: the VM as the tracer sees it at that moment (the current
thread and its number, the frames, the slots, the region bounds and the branch count), the
bytecode, the local it decodes into, the registers, and the three addresses it is passed. -/
structure TraceCall where
  E : TraceEnv
  code : Nat → UInt8
  instruction : DecodedInstruction
  regs : Registers
  traceIP : Nat
  traceFP : Int
  traceSP : Int

/-- The trace file the calls `calls` of `trace` write from the tracer's globals `g`, each call
from the globals the one before left, and the globals after the last; `none` once a call does
not return. -/
def traceCalls (B : Build) (O : Opcodes) (bigEndian : Bool) (fuel : Nat) :
    TracerGlobals → List TraceCall → Option (TracerGlobals × List TraceLine)
  | g, [] => some (g, [])
  | g, c :: calls =>
    match trace B c.E O bigEndian fuel c.code c.instruction c.regs g c.traceIP c.traceFP
        c.traceSP with
    | .ok (_, g', lines) =>
      (traceCalls B O bigEndian fuel g' calls).map fun r => (r.1, lines ++ r.2)
    | _ => none

theorem traceCalls_keeps_file (B : Build) (O : Opcodes) (bigEndian : Bool) (fuel : Nat) :
    ∀ (calls : List TraceCall) (g g' : TracerGlobals) (file lines : List TraceLine),
      TraceFileInv g file → traceCalls B O bigEndian fuel g calls = some (g', lines) →
        TraceFileInv g' (file ++ lines) ∧ lines.countP TraceLine.isRecord = calls.length
  | [], g, g', file, lines, hinv, h => by
    cases h
    exact ⟨by simpa using hinv, rfl⟩
  | c :: calls, g, g', file, lines, hinv, h => by
    rw [traceCalls] at h
    split at h
    · next g₁ lines₁ ht =>
      obtain ⟨hinv₁, hc₁⟩ := trace_keeps_file hinv ht
      obtain ⟨r, hr, hrl⟩ := Option.map_eq_some'.1 h
      cases hrl
      obtain ⟨hinv', hc'⟩ := traceCalls_keeps_file B O bigEndian fuel calls g₁ r.1 _ r.2 hinv₁ hr
      refine ⟨by simpa only [List.append_assoc] using hinv', ?_⟩
      rw [List.countP_append, hc₁, hc', List.length_cons, Nat.add_comm]
    · cases h

/-- Whatever the calls of `trace` see (threads switching between any two of them, any frames,
registers and instructions), from the globals as `initializeGlobals` leaves them (the file not
open, any `lastThreadID`), the file written by calls that all return is well formed: the header
first and nowhere else, every `*TRACE*` record naming the thread of the last `*THREADSWITCH*`
line before it; and it holds one record per call. -/
theorem traceCalls_writes_well_formed_file (B : Build) (O : Opcodes) (bigEndian : Bool)
    (fuel : Nat) {g : TracerGlobals} (hg : g.traceFileOpen = false) (calls : List TraceCall)
    {g' : TracerGlobals} {lines : List TraceLine}
    (h : traceCalls B O bigEndian fuel g calls = some (g', lines)) :
    wellFormedTrace lines = true ∧ lines.countP TraceLine.isRecord = calls.length := by
  obtain ⟨hinv, hcount⟩ :=
    traceCalls_keeps_file B O bigEndian fuel calls g g' [] lines (TraceFileInv.init hg) h
  exact ⟨hinv.well_formed, hcount⟩

/-- Two instructions traced in threads `7` and `8`: the file is the header, then for each a
`*THREADSWITCH*` line and its record. -/
theorem traceCalls_file_of_two_threads :
    (traceCalls ⟨false, true, false, false, false, false⟩
        ⟨100, 101, 102, 103, 104, 105, 106, 107, 108, 109, 110, 111, 112, 113, 114, 115, 116, 117,
          0, 0, 256, 0, false, by decide, by decide⟩ true 10 ⟨false, -2, 0, 0⟩
        [⟨⟨⟨fun _ => 0, fun _ => 0, fun _ => 1000⟩, 5, (· + 2), fun _ => 0, fun _ => 0,
            fun _ => 0, 0xDEADBEEF, 1, 2, 0, 0, 0, 0, 0, 0, 4⟩, fun _ => 0, ⟨0, 0, 0, 0⟩,
            ⟨1001, 2000, 1990, 0, 0, 0⟩, 1000, 2000, 1990⟩,
          ⟨⟨⟨fun _ => 0, fun _ => 0, fun _ => 1000⟩, 6, (· + 2), fun _ => 0, fun _ => 0,
            fun _ => 0, 0xDEADBEEF, 1, 2, 0, 0, 0, 0, 0, 0, 4⟩, fun _ => 0, ⟨0, 0, 0, 0⟩,
            ⟨1002, 2000, 1990, 0, 0, 0⟩, 1001, 2000, 1990⟩]).map (·.2.length) = some 5 ∧
    ∃ r, traceCalls ⟨false, true, false, false, false, false⟩
        ⟨100, 101, 102, 103, 104, 105, 106, 107, 108, 109, 110, 111, 112, 113, 114, 115, 116, 117,
          0, 0, 256, 0, false, by decide, by decide⟩ true 10 ⟨false, -2, 0, 0⟩
        [⟨⟨⟨fun _ => 0, fun _ => 0, fun _ => 1000⟩, 5, (· + 2), fun _ => 0, fun _ => 0,
            fun _ => 0, 0xDEADBEEF, 1, 2, 0, 0, 0, 0, 0, 0, 4⟩, fun _ => 0, ⟨0, 0, 0, 0⟩,
            ⟨1001, 2000, 1990, 0, 0, 0⟩, 1000, 2000, 1990⟩,
          ⟨⟨⟨fun _ => 0, fun _ => 0, fun _ => 1000⟩, 6, (· + 2), fun _ => 0, fun _ => 0,
            fun _ => 0, 0xDEADBEEF, 1, 2, 0, 0, 0, 0, 0, 0, 4⟩, fun _ => 0, ⟨0, 0, 0, 0⟩,
            ⟨1002, 2000, 1990, 0, 0, 0⟩, 1001, 2000, 1990⟩] = some r ∧
      wellFormedTrace r.2 = true ∧ r.2.countP TraceLine.isRecord = 2 := by
  refine ⟨by decide, (Option.isSome_iff_exists.mp ?_).imp fun r h =>
    ⟨h, (traceCalls_writes_well_formed_file _ _ _ _ rfl _ h :)⟩⟩
  decide

/-! ### The trace file of a run of the dispatch loop -/

section Runs
variable (B : Build) (E : TraceEnv) (O : Opcodes) (bigEndian : Bool) (fuel : Nat)
  (denv : DebugEnv) (fenv : FrameEnv) (instruction : DecodedInstruction) (execute : Execute)

/-- A round that goes on keeps the file in step with the tracer's globals, and writes one record
when the build traces with `tracing` on and none otherwise. -/
theorem instrument_keeps_file {s : VMState} {ipCopy : Nat} {opcode : Int} {cmds : List DbCommand}
    {s' : VMState} {lines : List TraceLine} {out : List DbOutput} {rest : List DbCommand}
    {file : List TraceLine}
    (h : instrument B E O bigEndian fuel denv fenv instruction s ipCopy opcode cmds =
      .proceeds s' lines out rest) (hinv : TraceFileInv s.tracer file) :
    TraceFileInv s'.tracer (file ++ lines) ∧
      lines.countP TraceLine.isRecord = if B.TRACE = true ∧ s.tracing = true then 1 else 0 := by
  obtain ⟨-, -, -, -, ⟨ht, rfl, hopen, hlast⟩ | ⟨hT, htr, g, regs', hg1, hg2, htrace⟩⟩ :=
    instrument_proceeds B E O bigEndian fuel denv fenv instruction h
  · rw [if_neg ht, List.append_nil]
    exact ⟨⟨fun h => hinv.closed (hopen.symm.trans h), hinv.well_formed,
      fun h => (hinv.current (hopen.symm.trans h)).trans (by rw [hlast])⟩, rfl⟩
  · rw [if_pos ⟨hT, htr⟩]
    exact trace_keeps_file ⟨fun h => hinv.closed (hg1.symm.trans h), hinv.well_formed,
      fun h => (hinv.current (hg1.symm.trans h)).trans (by rw [hg2])⟩ htrace

theorem dispatchTranscript_keeps_file : ∀ (n : Nat) (s : VMState) (cmds : List DbCommand)
    (file : List TraceLine) {s' : VMState} {lines : List TraceLine} {out : List DbOutput}
    {rest : List DbCommand},
    dispatchTranscript B E O bigEndian fuel denv fenv instruction execute n s cmds =
      some (s', lines, out, rest) → TraceFileInv s.tracer file →
      TraceFileInv s'.tracer (file ++ lines) ∧ s'.tracing = s.tracing ∧
        lines.countP TraceLine.isRecord = if B.TRACE = true ∧ s.tracing = true then n else 0
  | 0, s, cmds, file, _, _, _, _, h, hinv => by
    cases h
    exact ⟨by simpa using hinv, rfl, by split <;> rfl⟩
  | n + 1, s, cmds, file, s', lines, out, rest, h, hinv => by
    rw [dispatchTranscript] at h
    split at h
    · next s₁ lines₁ out₁ rest₁ hi =>
      obtain ⟨⟨s₂, lines₂, outs, rest₂⟩, hr, he⟩ := Option.map_eq_some'.1 h
      cases he
      have htr₁ := (instrument_proceeds B E O bigEndian fuel denv fenv instruction hi).2.2.2.1
      obtain ⟨hinv₁, hc₁⟩ := instrument_keeps_file B E O bigEndian fuel denv fenv instruction hi hinv
      obtain ⟨hinv₂, htr₂, hc₂⟩ := dispatchTranscript_keeps_file n _ rest₁ _ hr hinv₁
      refine ⟨by simpa only [List.append_assoc] using hinv₂, htr₂.trans htr₁, ?_⟩
      rw [List.countP_append, hc₁, hc₂]
      simp only [htr₁]
      split_ifs <;> omega
    · cases h

end Runs

/-- What `traceLocalsAndStack` prints for the word at `p`: `X` for `DEADBEEF`, else its value. -/
def TraceEnv.slotItem (E : TraceEnv) (p : Int) : SlotItem :=
  .value (if E.slotAt p = E.DEADBEEF then none else some (E.slotAt p))

/-- The `n` words from `p` down, a word of `step` bytes apart, separated by commas. -/
def slotsDown (item : Int → SlotItem) (p step : Int) : Nat → List SlotItem
  | 0 => []
  | 1 => [item p]
  | n + 2 => item p :: .sep ',' :: slotsDown item (p - step) step (n + 1)

section Slots
variable (B : Build) (E : TraceEnv) (sp0 xsp traceSP : Int)

theorem bpw_le_mul {b : Int} (hb : 0 < b) {m : Int} (hm : 1 ≤ m) : b ≤ m * b := by
  have h := Int.mul_nonneg (show 0 ≤ m - 1 by omega) hb.le
  rw [Int.sub_mul, Int.one_mul] at h
  omega

/-- The word `j + 2` words above `sp0`, as the loop steps down from it. -/
theorem word_above {b : Int} (j : Nat) {sp0 : Int} :
    sp0 + (((j + 1 : Nat) : Int) + 1) * b = sp0 + ((j : Int) + 1) * b + b := by
  rw [Nat.cast_succ, Int.add_mul _ 1, Int.one_mul]
  omega

theorem traceSlotsLoop_below {p : Int} (hp : p < xsp) (fuel : Nat) :
    traceSlotsLoop B E sp0 xsp traceSP (fuel + 1) p = some [] := by
  rw [traceSlotsLoop, if_neg (by omega)]

/-- Below the locals the loop lists the words down to `xsp` and stops: the next word is never
`sp0` again. -/
theorem traceSlotsLoop_stack (hb : 0 < E.bpw) : ∀ (n fuel : Nat) (p : Int), p ≤ sp0 →
    p = xsp + n * E.bpw → n + 1 < fuel →
      traceSlotsLoop B E sp0 xsp traceSP fuel p = some (slotsDown E.slotItem p E.bpw (n + 1))
  | _, 0, _, _, _, hf => absurd hf (by omega)
  | 0, fuel + 1, p, hp, hx, hf => by
    obtain ⟨fuel, rfl⟩ : ∃ k, fuel = k + 1 := ⟨fuel - 1, by omega⟩
    rw [traceSlotsLoop, if_pos (by omega)]
    simp only [if_neg (show p - E.bpw ≠ sp0 by omega), if_neg (show ¬(p - E.bpw ≥ xsp) by omega),
      traceSlotsLoop_below B E sp0 xsp traceSP (show p - E.bpw < xsp by omega)]
    rfl
  | n + 1, fuel + 1, p, hp, hx, hf => by
    have hn : 0 ≤ (n : Int) * E.bpw := Int.mul_nonneg (Int.natCast_nonneg n) hb.le
    have hx' : p - E.bpw = xsp + n * E.bpw := by rw [hx, Nat.cast_succ, Int.add_mul, Int.one_mul]; omega
    rw [traceSlotsLoop, if_pos (by omega)]
    simp only [if_neg (show p - E.bpw ≠ sp0 by omega), if_pos (show p - E.bpw ≥ xsp by omega),
      traceSlotsLoop_stack hb n fuel (p - E.bpw) (by omega) hx' (by omega)]
    rfl

/-- Down the locals the loop lists each one and, after the last, prints `:` and goes on at the
jump target of the build: `traceSP - 1` without `ROM_REVERSE_PARAMETERS`, else on from `sp0`. -/
theorem traceSlotsLoop_locals (hb : 0 < E.bpw) (hx : xsp ≤ sp0 + E.bpw) {st : List SlotItem}
    {k : Nat} (htgt : ∀ fuel, k < fuel → traceSlotsLoop B E sp0 xsp traceSP fuel
      (if B.ROM_REVERSE_PARAMETERS then sp0 else traceSP - E.bpw) = some st) :
    ∀ (j fuel : Nat), j + k + 1 < fuel →
      traceSlotsLoop B E sp0 xsp traceSP fuel (sp0 + (j + 1) * E.bpw) =
        some (slotsDown E.slotItem (sp0 + (j + 1) * E.bpw) E.bpw (j + 1) ++ .sep ':' :: st)
  | _, 0, hf => absurd hf (by omega)
  | 0, fuel + 1, hf => by
    rw [traceSlotsLoop, if_pos (by omega)]
    simp only [Nat.cast_zero, Int.zero_add, Int.one_mul, Int.add_sub_cancel, if_true,
      htgt fuel (by omega)]
    rfl
  | j + 1, fuel + 1, hf => by
    have hj := bpw_le_mul hb (show (1 : Int) ≤ j + 1 by omega)
    rw [word_above j, traceSlotsLoop, if_pos (by omega)]
    simp only [Int.add_sub_cancel, if_neg (show sp0 + ((j : Int) + 1) * E.bpw ≠ sp0 by omega),
      if_pos (show sp0 + ((j : Int) + 1) * E.bpw ≥ xsp by omega),
      traceSlotsLoop_locals hb hx htgt j fuel (by omega), slotsDown]
    rfl

/-- Without `ROM_REVERSE_PARAMETERS`, when `traceSP - 1` lies above `sp0`, the jump after the
locals lands above `sp0` again: the loop meets `sp0` and jumps back forever. -/
theorem traceSlotsLoop_cycle (hb : 0 < E.bpw) (hrev : B.ROM_REVERSE_PARAMETERS = false)
    (hx : xsp ≤ sp0) {c : Nat} (hc : traceSP - E.bpw = sp0 + (c + 1) * E.bpw) :
    ∀ (fuel j : Nat), traceSlotsLoop B E sp0 xsp traceSP fuel (sp0 + (j + 1) * E.bpw) = none
  | 0, _ => rfl
  | fuel + 1, 0 => by
    rw [traceSlotsLoop, if_pos (by omega)]
    simp only [Nat.cast_zero, Int.zero_add, Int.one_mul, Int.add_sub_cancel, if_true, hrev,
      Bool.false_eq_true, if_false, hc, traceSlotsLoop_cycle hb hrev hx hc fuel c]
    rfl
  | fuel + 1, j + 1 => by
    have hj := bpw_le_mul hb (show (1 : Int) ≤ j + 1 by omega)
    rw [word_above j, traceSlotsLoop, if_pos (by omega)]
    simp only [Int.add_sub_cancel, if_neg (show sp0 + ((j : Int) + 1) * E.bpw ≠ sp0 by omega),
      if_pos (show sp0 + ((j : Int) + 1) * E.bpw ≥ xsp by omega),
      traceSlotsLoop_cycle hb hrev hx hc fuel j, Option.map_none']

/-- From `p`, `m` words lie at or above `xsp`: the loop lists them and stops. -/
theorem traceSlotsLoop_words (hb : 0 < E.bpw) {p : Int} (hp : p ≤ sp0) (m : Nat)
    (hm : p + E.bpw = xsp + m * E.bpw ∨ m = 0 ∧ p < xsp) (fuel : Nat) (hf : m < fuel) :
    traceSlotsLoop B E sp0 xsp traceSP fuel p = some (slotsDown E.slotItem p E.bpw m) := by
  obtain ⟨fuel, rfl⟩ : ∃ k, fuel = k + 1 := ⟨fuel - 1, by omega⟩
  cases m with
  | zero =>
    have hlt : p < xsp := hm.elim (fun h => by simp only [Nat.cast_zero, Int.zero_mul] at h; omega)
      (·.2)
    exact traceSlotsLoop_below B E sp0 xsp traceSP hlt fuel
  | succ n =>
    have hx : p = xsp + n * E.bpw := by
      rcases hm with h | ⟨h, -⟩
      · rw [Nat.cast_succ, Int.add_mul, Int.one_mul] at h; omega
      · cases h
    exact traceSlotsLoop_stack B E sp0 xsp traceSP hb n (fuel + 1) p hp hx hf

end Slots

/-- `traceLocalsAndStack` on a frame of `nlocals + 1` locals, for an instruction other than
`EXTEND`. Without `ROM_REVERSE_PARAMETERS`, and with `nstack ≥ 1`: when `traceSP` lies `d` words
below the word above `sp0`, it lists the locals from `traceFP` down, `:`, the `nstack - d` words
from `traceSP - 1` down to `xsp`, and `:`; when `traceSP - 1` lies above `sp0`, the loop jumps
back above `sp0` forever. With `ROM_REVERSE_PARAMETERS`, it lists the locals, `:`, the `d` words
from `sp0` down to `traceSP`, and `:`. -/
theorem traceLocalsAndStack_lists_frame (B : Build) (E : TraceEnv) (hb : 0 < E.bpw)
    (sl opcode traceMP traceFP traceSP : Int)
    (hop : ¬(opcode = E.OPC_EXTEND ∨ opcode = E.OPC_EXTEND0)) (nlocals : Nat)
    (hL : E.localCount traceMP = nlocals + 1) (d : Nat) :
    let sp0 := traceFP - E.localCount traceMP * E.bpw
    let locals := slotsDown E.slotItem traceFP E.bpw (nlocals + 1)
    (B.ROM_REVERSE_PARAMETERS = false → 1 ≤ E.stackCount traceMP →
      traceSP = sp0 + E.bpw - d * E.bpw → ∀ fuel, nlocals + (E.stackCount traceMP - d).toNat + 1 < fuel →
        traceLocalsAndStack B E fuel sl opcode traceMP traceFP traceSP =
          .ok (locals ++ .sep ':' :: slotsDown E.slotItem (traceSP - E.bpw) E.bpw
            (E.stackCount traceMP - d).toNat ++ [.sep ':'])) ∧
    (B.ROM_REVERSE_PARAMETERS = false → 1 ≤ E.stackCount traceMP →
      traceSP = sp0 + E.bpw + (d + 1) * E.bpw → ∀ fuel,
        traceLocalsAndStack B E fuel sl opcode traceMP traceFP traceSP = .loops) ∧
    (B.ROM_REVERSE_PARAMETERS = true → traceSP = sp0 + E.bpw - d * E.bpw → ∀ fuel,
      nlocals + d + 1 < fuel →
        traceLocalsAndStack B E fuel sl opcode traceMP traceFP traceSP =
          .ok (locals ++ .sep ':' :: slotsDown E.slotItem sp0 E.bpw d ++ [.sep ':'])) := by
  intro sp0 locals
  have hfp : traceFP = sp0 + ((nlocals : Int) + 1) * E.bpw := by simp only [sp0, hL]; omega
  have hd : 0 ≤ (d : Int) * E.bpw := Int.mul_nonneg (Int.natCast_nonneg d) hb.le
  have hxsp : traceFP - (E.localCount traceMP + E.stackCount traceMP - 1) * E.bpw =
      sp0 - (E.stackCount traceMP - 1) * E.bpw := by simp only [sp0]; ring
  unfold traceLocalsAndStack
  simp only [if_neg hop, hxsp]
  refine ⟨fun hrev hS hsp fuel hf => ?_, fun hrev hS hsp fuel => ?_, fun hrev hsp fuel hf => ?_⟩
  · -- the default build: locals, then the words below `traceSP`
    have hS1 := Int.mul_nonneg (show 0 ≤ E.stackCount traceMP - 1 by omega) hb.le
    simp only [hrev, Bool.false_eq_true, if_false]
    have hstack := traceSlotsLoop_words B E sp0 (sp0 - (E.stackCount traceMP - 1) * E.bpw)
      traceSP hb (p := traceSP - E.bpw) (by omega) (E.stackCount traceMP - d).toNat (by
        by_cases hle : (d : Int) ≤ E.stackCount traceMP
        · refine .inl ?_
          rw [Int.toNat_of_nonneg (by omega), hsp]; ring
        · refine .inr ⟨by omega, ?_⟩
          have := Int.mul_lt_mul_of_pos_right (show E.stackCount traceMP - 1 < d by omega) hb
          rw [hsp]; omega)
    have hloop := traceSlotsLoop_locals B E sp0 (sp0 - (E.stackCount traceMP - 1) * E.bpw)
      traceSP hb (by omega) (k := (E.stackCount traceMP - d).toNat) (fun fuel hf => by
        simpa only [hrev, Bool.false_eq_true, if_false] using hstack fuel hf) nlocals fuel hf
    rw [← hfp] at hloop
    rw [show traceSlotsLoop B E (traceFP - E.localCount traceMP * E.bpw)
      (sp0 - (E.stackCount traceMP - 1) * E.bpw) traceSP fuel traceFP = _ from hloop]
  · -- the default build with `traceSP - 1` above `sp0`: the loop never ends
    have hS1 := Int.mul_nonneg (show 0 ≤ E.stackCount traceMP - 1 by omega) hb.le
    simp only [hrev, Bool.false_eq_true, if_false]
    have hloop := traceSlotsLoop_cycle B E sp0 (sp0 - (E.stackCount traceMP - 1) * E.bpw) traceSP
      hb hrev (by omega) (c := d) (by rw [hsp]; ring) fuel nlocals
    rw [← hfp] at hloop
    rw [show traceSlotsLoop B E (traceFP - E.localCount traceMP * E.bpw)
      (sp0 - (E.stackCount traceMP - 1) * E.bpw) traceSP fuel traceFP = _ from hloop]
  · -- the `ROM_REVERSE_PARAMETERS` build: locals, then the words from `sp0` down to `traceSP`
    simp only [hrev, if_true]
    have hstack := traceSlotsLoop_words B E sp0 traceSP traceSP hb (p := sp0) le_rfl d
      (.inl (by rw [hsp]; ring))
    have hloop := traceSlotsLoop_locals B E sp0 traceSP traceSP hb (by omega) (k := d)
      (fun fuel hf => by simpa only [hrev, if_true] using hstack fuel hf) nlocals fuel hf
    rw [← hfp] at hloop
    rw [show traceSlotsLoop B E (traceFP - E.localCount traceMP * E.bpw) traceSP traceSP fuel
      traceFP = _ from hloop]


/-- A frame of two locals and three stack words at `traceFP = 2000`, on four-byte words whose
slots hold their own addresses: with `traceSP = sp0` the record lists the locals `2000, 1996`
and the words `1988, 1984`; with `traceSP = traceFP` the loop never ends. -/
theorem traceLocalsAndStack_lists_two_locals :
    traceLocalsAndStack ⟨false, true, false, false, false, false⟩
        ⟨⟨fun _ => 0, fun _ => 0, fun _ => 0⟩, 0, fun _ => 0, fun _ => 2, fun _ => 3, fun p => p,
          0xDEADBEEF, 1, 2, 0, 0, 0, 0, 0, 0, 4⟩ 10 0 0 0 2000 1992 =
        .ok [.value (some 2000), .sep ',', .value (some 1996), .sep ':', .value (some 1988),
          .sep ',', .value (some 1984), .sep ':'] ∧
      ∀ fuel, traceLocalsAndStack ⟨false, true, false, false, false, false⟩
        ⟨⟨fun _ => 0, fun _ => 0, fun _ => 0⟩, 0, fun _ => 0, fun _ => 2, fun _ => 3, fun p => p,
          0xDEADBEEF, 1, 2, 0, 0, 0, 0, 0, 0, 4⟩ fuel 0 0 0 2000 2000 = .loops :=
  ⟨(traceLocalsAndStack_lists_frame _ _ (by decide) 0 0 0 2000 1992 (by decide) 1 rfl 1).1 rfl
      (by decide) (by decide) 10 (by decide),
    (traceLocalsAndStack_lists_frame _ _ (by decide) 0 0 0 2000 2000 (by decide) 1 rfl 0).2.1 rfl
      (by decide) (by decide)⟩

end SquawkVM
