import SquawkVM.Decoder
import SquawkVM.TraceFrames
import SquawkVM.DebugProtocol
import SquawkVM.LongHalves

/-! The instrumentation of the dispatch loop of `Squawk_main` (`squawk.c`): the hooks a round
runs between fetching the opcode and executing it. They are `osloop()`, then
`db_checkBreak(opcode, ip, fp)` in a `DB_DEBUG` build, then `trace(ipCopy, fp, sp)` of
`trace.c` while `tracing` is on in a `TRACE` build. `trace` decodes the instruction through the
fetch macros, which in a build without `MACROIZE` move the global `ip`; it saves `ip` on entry
and puts it back on its way out.

On every round that goes on to execute the instruction, the registers `ip`, `fp`, `sp`, `sl`,
`ss`, `bc` and the memory buffer are what they were before the hooks ran. The hooks write only
the debugger's tables, the tracer's globals and the trace file, and the one register `trace`
moves, it restores. Over whole runs, for every semantics of the instructions, the loop with its
hooks therefore ends where the bare fetch-and-execute loop ends. -/

namespace SquawkVM

/-- The build flags the instrumentation depends on. -/
structure Build where
  DB_DEBUG : Bool
  TRACE : Bool
  MACROIZE : Bool
  ASSUME : Bool
  ROM_REVERSE_PARAMETERS : Bool
  SQUAWK_64 : Bool

/-- The interpreter registers `ip`, `fp`, `sp`, `sl`, `ss` and `bc`; addresses are byte
addresses. -/
structure Registers where
  ip : Nat
  fp : Int
  sp : Int
  sl : Int
  ss : Int
  bc : Int
  deriving DecidableEq, Repr

/-- The globals of the tracer: `traceFileOpen`, `lastThreadID` of `trace.c`, and the copies
`lastIP` and `lastFP` that a `MACROIZE` build keeps for `printStackTrace`. -/
structure TracerGlobals where
  traceFileOpen : Bool
  lastThreadID : Int
  lastIP : Int
  lastFP : Int
  deriving DecidableEq, Repr

/-- What a round of the dispatch loop works on: the registers, the memory buffer, the
debugger's tables, the tracer's globals, and the Java global `tracing`. -/
structure VMState where
  regs : Registers
  memory : Nat → UInt8
  debug : DebugState
  tracer : TracerGlobals
  tracing : Bool

/-- What the tracer reads through code outside `src/`: the frame words, the current thread and
its number, `getLocalCount` and `getStackCount` of a method, the slot word
`getUWordTyped(p, 0, 0)`, `DEADBEEF`, the opcodes `OPC_EXTEND` and `OPC_EXTEND0`, the region
bounds `openTraceFile` prints, the Java globals behind `getBranchCount()`, and the bytes of a
word. -/
structure TraceEnv where
  F : FrameLinks
  currentThread : Int
  threadNumber : Int → Int
  localCount : Int → Int
  stackCount : Int → Int
  slotAt : Int → Int
  DEADBEEF : Int
  OPC_EXTEND : Nat
  OPC_EXTEND0 : Nat
  romStart : Int
  romEnd : Int
  nvmStart : Int
  nvmEnd : Int
  branchCountHigh : Int
  branchCountLow : Int
  bpw : Int

/-- What `traceLocalsAndStack` prints, item by item: a count (`%d`), a slot's value (`none`
for `DEADBEEF`, printed `X`), or a separator. -/
inductive SlotItem where
  | count (n : Int)
  | value (v : Option Int)
  | sep (c : Char)
  deriving DecidableEq, Repr

/-- A line of the trace file, as the tracer's `fprintf` calls fill it before formatting. -/
inductive TraceLine where
  /-- `openTraceFile`: `*TRACE*:*ROM*:%A:%A:*NVM*:%A:%A:*%d*`. -/
  | header (romStart romEnd nvmStart nvmEnd wordBits : Int)
  /-- `*THREADSWITCH*:%d` and the frame records `traceFrames` prints after it. -/
  | threadSwitch (threadID : Int) (frames : List (Int × Int))
  /-- `*TRACE*:...`: thread, call depth, method, bytecode offset, the decoded instruction, the
  slots, `traceSP`, the branch count, and the words of stack left. -/
  | record (threadID level traceMP pc : Int) (instruction : DecodedInstruction)
      (slots : List SlotItem) (traceSP branchCount headroom : Int)
  deriving DecidableEq, Repr

/-- How a stretch of the tracer ends: with a value, in `fatalVMError(msg)`, or in a loop that
runs past the bound on its rounds. -/
inductive Traced (α : Type) where
  | ok (a : α)
  | fatal (msg : String)
  | loops
  deriving DecidableEq, Repr

/-- The tracer's code in sequence: the rest runs on the value of the first part. -/
def Traced.bind {α β : Type} : Traced α → (α → Traced β) → Traced β
  | .ok a, f => f a
  | .fatal msg, _ => .fatal msg
  | .loops, _ => .loops

/-- A walk of `SquawkVM.TraceFrames`, whose `none` is a walk past its bound. -/
def Traced.ofOption {α : Type} : Option (Except String α) → Traced α
  | some (.ok a) => .ok a
  | some (.error msg) => .fatal msg
  | none => .loops

@[simp] theorem Traced.bind_eq_ok {α β : Type} {x : Traced α} {f : α → Traced β} {b : β} :
    x.bind f = .ok b ↔ ∃ a, x = .ok a ∧ f a = .ok b := by
  cases x <;> simp [Traced.bind]

@[simp] theorem Traced.ite_fatal_eq_ok {α : Type} {c : Prop} [Decidable c] {msg : String}
    {x : Traced α} {b : α} : (if c then .fatal msg else x) = .ok b ↔ ¬c ∧ x = .ok b := by
  split <;> simp_all

/-! ### `trace` -/

section Trace
variable (B : Build) (E : TraceEnv)

/-- The loop of `traceLocalsAndStack` from the slot at `p`, a word below the other each round;
past the locals (`p == sp0`) it goes on at `traceSP - 1` unless the build defines
`ROM_REVERSE_PARAMETERS`. When `traceSP` lies above the locals that jump comes back to them, and
the loop does not end: `fuel` bounds its rounds. -/
def traceSlotsLoop (sp0 xsp traceSP : Int) : Nat → Int → Option (List SlotItem)
  | 0, _ => none
  | fuel + 1, p =>
    if p ≥ xsp then
      let value := E.slotAt p
      let item := SlotItem.value (if value = E.DEADBEEF then none else some value)
      let p := p - E.bpw
      if p = sp0 then
        (traceSlotsLoop sp0 xsp traceSP fuel
          (if B.ROM_REVERSE_PARAMETERS then p else traceSP - E.bpw)).map (item :: .sep ':' :: ·)
      else if p ≥ xsp then (traceSlotsLoop sp0 xsp traceSP fuel p).map (item :: .sep ',' :: ·)
      else (traceSlotsLoop sp0 xsp traceSP fuel p).map (item :: ·)
    else some []

/-- `traceLocalsAndStack(opcode, traceMP, traceFP, traceSP)`, with the register `sl`. -/
def traceLocalsAndStack (fuel : Nat) (sl opcode traceMP traceFP traceSP : Int) :
    Traced (List SlotItem) :=
  let nlocals := E.localCount traceMP
  let nstack := E.stackCount traceMP
  if opcode = E.OPC_EXTEND ∨ opcode = E.OPC_EXTEND0 then
    .ok [.count nlocals, .sep ':', .count nstack, .sep ',', .count ((traceSP - sl) / E.bpw),
      .sep ':']
  else
    let sp0 := traceFP - nlocals * E.bpw
    let xsp := if B.ROM_REVERSE_PARAMETERS then traceSP
      else traceFP - (nlocals + nstack - 1) * E.bpw
    match traceSlotsLoop B E sp0 xsp traceSP fuel traceFP with
    | some items => .ok (items ++ [.sep ':'])
    | none => .loops

/-- The `*THREADSWITCH*` part of `trace`, taken when `openTraceFile()` opened the file or the
thread changed: `lastThreadID` takes the thread, and `traceFrames(-1, traceIP, traceFP, true)`
prints its frames. -/
def threadSwitch (fuel : Nat) (opened : Bool) (threadID : Int) (g : TracerGlobals)
    (traceIP : Nat) (traceFP : Int) : Traced (TracerGlobals × List TraceLine) :=
  if opened ∨ threadID ≠ g.lastThreadID then
    match traceFramesLoop E.F B.ASSUME E.OPC_EXTEND E.OPC_EXTEND0 fuel (-1) traceIP traceFP 0 with
    | none => .loops
    | some (_, some msg) => .fatal msg
    | some (frames, none) =>
      .ok ({ g with lastThreadID := threadID }, [.threadSwitch threadID frames])
  else .ok (g, [])

/-- `trace(traceIP, traceFP, traceSP)` on the registers and the tracer's globals, with
`instruction` the uninitialised local it decodes into: the registers and globals it leaves and
the lines it writes. Without `MACROIZE`, `decodeInstruction` sets the global `ip` to `traceIP`
and the fetch macros move it past the instruction; the last statement puts back the `ip` saved
on entry. `fuel` bounds the walks over the frames and the slots. -/
def trace (O : Opcodes) (bigEndian : Bool) (fuel : Nat) (code : Nat → UInt8)
    (instruction : DecodedInstruction) (regs : Registers) (g : TracerGlobals) (traceIP : Nat)
    (traceFP traceSP : Int) : Traced (Registers × TracerGlobals × List TraceLine) :=
  let saveIP := regs.ip
  let threadID := if E.currentThread ≠ 0 then E.threadNumber E.currentThread else -1
  let opened := !g.traceFileOpen
  let header := if opened then
      [TraceLine.header E.romStart E.romEnd E.nvmStart E.nvmEnd (if B.SQUAWK_64 then 64 else 32)]
    else []
  (threadSwitch B E fuel opened threadID { g with traceFileOpen := true } traceIP traceFP).bind
    fun sw =>
  let decoded := decodeInstruction O bigEndian code instruction traceIP
  let instruction := decoded.1
  let regs := if B.MACROIZE then regs else { regs with ip := decoded.2 }
  if B.ASSUME ∧ instruction.opcode = -1 then .fatal "" else
  let extend := instruction.opcode = E.OPC_EXTEND ∨ instruction.opcode = E.OPC_EXTEND0
  if B.ASSUME ∧ ¬extend ∧ traceFP = 0 then .fatal "" else
  let traceMP : Int := if extend then traceIP else E.F.method traceFP
  let level : Int := if extend then 0 else -1
  let pc := toInt32 (traceIP - traceMP)
  (Traced.ofOption (calculateCallDepth E.F fuel traceFP)).bind fun depth =>
  if B.ASSUME ∧ (instruction.tag < 0 ∨ 4 < instruction.tag) then .fatal "" else
  (traceLocalsAndStack B E fuel regs.sl instruction.opcode traceMP traceFP traceSP).bind
    fun slots =>
  let line := TraceLine.record threadID (level + depth) traceMP pc instruction slots traceSP
    (getLongCounter E.branchCountHigh E.branchCountLow) ((traceSP - regs.sl) / E.bpw)
  let regs := if B.MACROIZE then regs else { regs with ip := saveIP }
  .ok (regs, sw.1, header ++ sw.2 ++ [line])

/-- Every `trace` that returns leaves the registers as it found them: the `ip` the fetch macros
moved is the one it saved. -/
theorem trace_regs {O : Opcodes} {bigEndian : Bool} {fuel : Nat} {code : Nat → UInt8}
    {instruction : DecodedInstruction} {regs regs' : Registers} {g g' : TracerGlobals}
    {traceIP : Nat} {traceFP traceSP : Int} {lines : List TraceLine}
    (h : trace B E O bigEndian fuel code instruction regs g traceIP traceFP traceSP =
      .ok (regs', g', lines)) : regs' = regs := by
  simp only [trace, Traced.bind_eq_ok, Traced.ite_fatal_eq_ok, Traced.ok.injEq,
    Prod.mk.injEq] at h
  obtain ⟨-, -, -, -, -, -, -, -, -, hr, -⟩ := h
  rw [← hr]
  cases B.MACROIZE <;> rfl

end Trace

/-! ### One round of the dispatch loop -/

/-- `osloop()`: a no-op on the one platform of `src/` (`rts/gcc-eb40a/os.c`). -/
def osloop (s : VMState) : VMState := s

/-- How the instrumentation of a round ends. -/
inductive Instrumented where
  /-- The round goes on to execute the instruction in state `s`: `lines` were written to the
  trace file, `out` printed by the debugger, and `rest` is the debugger's unread input. -/
  | proceeds (s : VMState) (lines : List TraceLine) (out : List DbOutput) (rest : List DbCommand)
  /-- The debugger called `exit(-1)`. -/
  | exits (out : List DbOutput)
  /-- The tracer called `fatalVMError(msg)`. -/
  | fatal (out : List DbOutput) (msg : String)
  /-- `db_checkBreak` read past the end of `db_current_ips`. -/
  | overrun
  /-- A loop of the tracer runs past its bound. -/
  | loops

/-- `db_checkBreak(opcode, ip, fp)` in a `DB_DEBUG` build, on the round's registers and
debugger tables, reading the memory buffer and serving the client's commands `cmds`. -/
def roundCheckBreak (B : Build) (denv : DebugEnv) (fenv : FrameEnv) (s : VMState) (opcode : Int)
    (cmds : List DbCommand) : DbOutcome :=
  if B.DB_DEBUG then
    dbCheckBreak { denv with memory := fun a => s.memory a.toNat } fenv opcode
      (BitVec.ofNat 32 s.regs.ip) s.regs.fp s.debug cmds
  else .resumed [] s.debug cmds

/-- The instrumentation of a round of the dispatch loop, after `opcode = fetchUByte()` moved
`ip` past the opcode at `ipCopy`: `osloop()`; `db_checkBreak(opcode, ip, fp)`; the copies
`lastIP = ip; lastFP = fp` of a `TRACE` build with `MACROIZE`; and `trace(ipCopy, fp, sp)` while
`tracing` is on in a `TRACE` build. -/
def instrument (B : Build) (E : TraceEnv) (O : Opcodes) (bigEndian : Bool) (fuel : Nat)
    (denv : DebugEnv) (fenv : FrameEnv) (instruction : DecodedInstruction) (s : VMState)
    (ipCopy : Nat) (opcode : Int) (cmds : List DbCommand) : Instrumented :=
  let s := osloop s
  match roundCheckBreak B denv fenv s opcode cmds with
  | .exited out => .exits out
  | .overrun _ _ _ => .overrun
  | .resumed out debug rest =>
    let s := { s with debug }
    let s := if B.TRACE ∧ B.MACROIZE then
        { s with tracer := { s.tracer with lastIP := s.regs.ip, lastFP := s.regs.fp } }
      else s
    if B.TRACE ∧ s.tracing then
      match trace B E O bigEndian fuel s.memory instruction s.regs s.tracer ipCopy s.regs.fp
          s.regs.sp with
      | .ok (regs, tracer, lines) => .proceeds { s with regs, tracer } lines out rest
      | .fatal msg => .fatal out msg
      | .loops => .loops
    else .proceeds s [] out rest

/-- What a round whose hooks let the instruction execute has done: `db_checkBreak` resumed with
the tables and the unread input the round goes on with; no hook wrote a register, the memory
buffer or `tracing`; and either the round traced nothing and left `traceFileOpen` and
`lastThreadID` alone, or, in a `TRACE` build with `tracing` on, it wrote the lines of one call
of `trace` from the globals it found (with the `lastIP` and `lastFP` copies of a `MACROIZE`
build) and left the globals that call left. -/
theorem instrument_proceeds (B : Build) (E : TraceEnv) (O : Opcodes)
    (bigEndian : Bool) (fuel : Nat) (denv : DebugEnv) (fenv : FrameEnv)
    (instruction : DecodedInstruction) {s : VMState} {ipCopy : Nat} {opcode : Int}
    {cmds : List DbCommand} {s' : VMState} {lines : List TraceLine} {out : List DbOutput}
    {rest : List DbCommand}
    (h : instrument B E O bigEndian fuel denv fenv instruction s ipCopy opcode cmds =
      .proceeds s' lines out rest) :
    roundCheckBreak B denv fenv s opcode cmds = .resumed out s'.debug rest ∧
      s'.regs = s.regs ∧ s'.memory = s.memory ∧ s'.tracing = s.tracing ∧
      ((¬(B.TRACE = true ∧ s.tracing = true) ∧ lines = [] ∧
          s'.tracer.traceFileOpen = s.tracer.traceFileOpen ∧
          s'.tracer.lastThreadID = s.tracer.lastThreadID) ∨
        B.TRACE = true ∧ s.tracing = true ∧ ∃ g regs', g.traceFileOpen = s.tracer.traceFileOpen ∧
          g.lastThreadID = s.tracer.lastThreadID ∧
          trace B E O bigEndian fuel s.memory instruction s.regs g ipCopy s.regs.fp s.regs.sp =
            .ok (regs', s'.tracer, lines)) := by
  unfold instrument osloop at h
  cases hdb : roundCheckBreak B denv fenv s opcode cmds <;> simp only [hdb] at h
  · split_ifs at h <;> first
      | (cases h; exact ⟨rfl, rfl, rfl, rfl, .inl ⟨‹_›, rfl, rfl, rfl⟩⟩)
      | (split at h <;> cases h
         rename_i ht
         have htr : B.TRACE = true ∧ s.tracing = true := ‹B.TRACE = true ∧ _›
         refine ⟨rfl, trace_regs B E ht, rfl, rfl, .inr ⟨htr.1, htr.2, _, _, ?_, ?_, ht⟩⟩ <;> rfl)
  · cases h
  · cases h

/-- On every round whose instrumentation lets the instruction execute, whatever the state, the
instruction at `ipCopy`, the build and the client's commands, the registers `ip`, `fp`, `sp`,
`sl`, `ss`, `bc` and the memory buffer are those the round started its hooks with. -/
theorem instrument_keeps_registers_and_memory (B : Build) (E : TraceEnv) (O : Opcodes)
    (bigEndian : Bool) (fuel : Nat) (denv : DebugEnv) (fenv : FrameEnv)
    (instruction : DecodedInstruction) (s : VMState) (ipCopy : Nat) (opcode : Int)
    (cmds : List DbCommand) {s' : VMState} {lines : List TraceLine} {out : List DbOutput}
    {rest : List DbCommand}
    (h : instrument B E O bigEndian fuel denv fenv instruction s ipCopy opcode cmds =
      .proceeds s' lines out rest) :
    s'.regs = s.regs ∧ s'.memory = s.memory :=
  ⟨(instrument_proceeds B E O bigEndian fuel denv fenv instruction h).2.1,
    (instrument_proceeds B E O bigEndian fuel denv fenv instruction h).2.2.1⟩

/-- A traced round of a `DB_DEBUG`, `TRACE` and `ASSUME` build without `MACROIZE`, with no
breakpoint set: `trace` opens the file, prints the thread switch and the record of the
instruction at `ipCopy = 1000` from the global `ip = 1001`, and the instruction runs with the
registers it was fetched with. -/
theorem instrument_keeps_registers_on_traced_round :
    let O : Opcodes := ⟨100, 101, 102, 103, 104, 105, 106, 107, 108, 109, 110, 111, 112, 113,
      114, 115, 116, 117, 0, 0, 256, 0, false, by decide, by decide⟩
    let E : TraceEnv := ⟨⟨fun _ => 0, fun _ => 0, fun _ => 1000⟩, 0, fun _ => 0, fun _ => 0,
      fun _ => 0, fun _ => 0, 0xDEADBEEF, 1, 2, 0, 0, 0, 0, 0, 0, 4⟩
    let s : VMState := ⟨⟨1001, 2000, 1990, 0, 0, 0⟩, fun _ => 0, DebugState.zero,
      ⟨false, -2, 0, 0⟩, true⟩
    ∃ s' lines out rest,
      instrument ⟨true, true, false, true, false, false⟩ E O true 10 ⟨fun _ => 0, 1, 2, false, true⟩
          ⟨fun _ => 0, 0, 1, fun _ => 0, fun _ => 0, fun _ => 1, 0xDEADBEEF⟩ ⟨0, 0, 0, 0⟩ s 1000 0
          [] = .proceeds s' lines out rest ∧
        lines.length = 3 ∧ s'.regs = s.regs ∧ s'.memory = s.memory := by
  intro O E s
  exact ⟨_, _, _, _, rfl, rfl, instrument_keeps_registers_and_memory ⟨true, true, false, true, false,
    false⟩ E O true 10 ⟨fun _ => 0, 1, 2, false, true⟩
    ⟨fun _ => 0, 0, 1, fun _ => 0, fun _ => 0, fun _ => 1, 0xDEADBEEF⟩ ⟨0, 0, 0, 0⟩ s 1000 0 [] rfl⟩

/-! ### The debugger's tables in a round -/

theorem roundCheckBreak_consistent (B : Build) (denv : DebugEnv) (fenv : FrameEnv) {s : VMState}
    (opcode : Int) (cmds : List DbCommand) (hs : BreakpointInv s.debug) :
    (roundCheckBreak B denv fenv s opcode cmds).Consistent := by
  unfold roundCheckBreak
  split
  · exact dbCheckBreak_consistent _ fenv opcode _ _ hs cmds
  · exact hs

/-- From consistent tables a round never reads past `db_current_ips`, and goes on, if it does,
with consistent tables. -/
theorem instrument_consistent (B : Build) (E : TraceEnv) (O : Opcodes) (bigEndian : Bool)
    (fuel : Nat) (denv : DebugEnv) (fenv : FrameEnv) (instruction : DecodedInstruction)
    {s : VMState} (ipCopy : Nat) (opcode : Int) (cmds : List DbCommand)
    (hs : BreakpointInv s.debug) :
    instrument B E O bigEndian fuel denv fenv instruction s ipCopy opcode cmds ≠ .overrun ∧
      ∀ {s' lines out rest},
        instrument B E O bigEndian fuel denv fenv instruction s ipCopy opcode cmds =
          .proceeds s' lines out rest → BreakpointInv s'.debug := by
  have hc := roundCheckBreak_consistent B denv fenv opcode cmds hs
  refine ⟨fun h => ?_, fun h => ?_⟩
  · unfold instrument osloop at h
    cases hdb : roundCheckBreak B denv fenv s opcode cmds <;> simp only [hdb] at h hc
    · split_ifs at h <;> (try split at h) <;> cases h
    · cases h
    · exact hc
  · rw [(instrument_proceeds B E O bigEndian fuel denv fenv instruction h).1] at hc
    exact hc

/-! ### Runs with and without the hooks -/

/-- What executing an instruction does: the semantic body of the opcode (the generated
`switch.c`, outside `src/`) on the registers and the memory buffer. -/
abbrev Execute := Int → Registers → (Nat → UInt8) → Registers × (Nat → UInt8)

section Runs
variable (B : Build) (E : TraceEnv) (O : Opcodes) (bigEndian : Bool) (fuel : Nat)
  (denv : DebugEnv) (fenv : FrameEnv) (instruction : DecodedInstruction) (execute : Execute)

/-- `n` rounds of the dispatch loop of `Squawk_main` from `s`: `ipCopy = ip`,
`opcode = fetchUByte()`, the instrumentation with the client's unread input `cmds`, then the
instruction's body. `none` when the hooks of a round do not let its instruction run. -/
def dispatchRounds : Nat → VMState → List DbCommand → Option VMState
  | 0, s, _ => some s
  | n + 1, s, cmds =>
    let ipCopy := s.regs.ip
    let fetched := fetchUByte s.memory ipCopy
    match instrument B E O bigEndian fuel denv fenv instruction
        { s with regs := { s.regs with ip := fetched.2 } } ipCopy fetched.1 cmds with
    | .proceeds s _ _ rest =>
      let r := execute fetched.1 s.regs s.memory
      dispatchRounds n { s with regs := r.1, memory := r.2 } rest
    | _ => none

/-- The same rounds without the hooks: fetch the opcode, run its body. -/
def bareRounds : Nat → Registers → (Nat → UInt8) → Registers × (Nat → UInt8)
  | 0, regs, memory => (regs, memory)
  | n + 1, regs, memory =>
    let fetched := fetchUByte memory regs.ip
    let r := execute fetched.1 { regs with ip := fetched.2 } memory
    bareRounds n r.1 r.2

/-- Turning on the tracer or the debugger never changes the computation: every run of the
dispatch loop whose hooks let each instruction execute ends with the registers and memory
buffer of the run without hooks, for every semantics of the instructions. -/
theorem dispatchRounds_refines_bareRounds : ∀ (n : Nat) (s s' : VMState) (cmds : List DbCommand),
    dispatchRounds B E O bigEndian fuel denv fenv instruction execute n s cmds = some s' →
      (s'.regs, s'.memory) = bareRounds execute n s.regs s.memory
  | 0, s, s', _, h => by cases h; rfl
  | n + 1, s, s', cmds, h => by
    rw [dispatchRounds] at h
    split at h
    · next s₁ _ _ rest hi =>
      obtain ⟨-, hr, hm, -⟩ := instrument_proceeds B E O bigEndian fuel denv fenv instruction hi
      rw [dispatchRounds_refines_bareRounds n _ s' rest h, bareRounds]
      simp only [hr, hm]
    · cases h

/-- The rounds of `dispatchRounds`, keeping what they wrote to the trace file, what the debugger
printed, and the client's commands left unread. -/
def dispatchTranscript : Nat → VMState → List DbCommand →
    Option (VMState × List TraceLine × List DbOutput × List DbCommand)
  | 0, s, cmds => some (s, [], [], cmds)
  | n + 1, s, cmds =>
    let ipCopy := s.regs.ip
    let fetched := fetchUByte s.memory ipCopy
    match instrument B E O bigEndian fuel denv fenv instruction
        { s with regs := { s.regs with ip := fetched.2 } } ipCopy fetched.1 cmds with
    | .proceeds s lines out rest =>
      let r := execute fetched.1 s.regs s.memory
      (dispatchTranscript n { s with regs := r.1, memory := r.2 } rest).map
        fun t => (t.1, lines ++ t.2.1, out ++ t.2.2.1, t.2.2.2)
    | _ => none

/-- `dispatchRounds` is the run of `dispatchTranscript` with the transcript forgotten. -/
theorem dispatchRounds_eq_transcript : ∀ (n : Nat) (s : VMState) (cmds : List DbCommand),
    dispatchRounds B E O bigEndian fuel denv fenv instruction execute n s cmds =
      (dispatchTranscript B E O bigEndian fuel denv fenv instruction execute n s cmds).map (·.1)
  | 0, _, _ => rfl
  | n + 1, s, cmds => by
    simp only [dispatchRounds, dispatchTranscript]
    generalize instrument B E O bigEndian fuel denv fenv instruction
      { s with regs := { s.regs with ip := (fetchUByte s.memory s.regs.ip).2 } } s.regs.ip
      (fetchUByte s.memory s.regs.ip).1 cmds = r
    cases r <;> simp only [dispatchRounds_eq_transcript n, Option.map_map] <;> rfl

/-- Two rounds of the traced, debugged build of the example above, with instructions that pop a
word: the hooks of both rounds let their instruction run, and the run ends where the bare run
ends. -/
theorem dispatchRounds_two_traced_rounds :
    ∃ s', dispatchRounds ⟨true, true, false, true, false, false⟩
        ⟨⟨fun _ => 0, fun _ => 0, fun _ => 1000⟩, 0, fun _ => 0, fun _ => 0, fun _ => 0,
          fun _ => 0, 0xDEADBEEF, 1, 2, 0, 0, 0, 0, 0, 0, 4⟩
        ⟨100, 101, 102, 103, 104, 105, 106, 107, 108, 109, 110, 111, 112, 113, 114, 115, 116, 117,
          0, 0, 256, 0, false, by decide, by decide⟩ true 10
        ⟨fun _ => 0, 1, 2, false, true⟩ ⟨fun _ => 0, 0, 1, fun _ => 0, fun _ => 0, fun _ => 1,
          0xDEADBEEF⟩ ⟨0, 0, 0, 0⟩ (fun _ regs memory => ({ regs with sp := regs.sp + 4 }, memory))
        2 ⟨⟨1000, 2000, 1990, 0, 0, 0⟩, fun _ => 0, DebugState.zero, ⟨false, -2, 0, 0⟩, true⟩
        [] = some s' ∧
      (s'.regs, s'.memory) = bareRounds (fun _ regs memory => ({ regs with sp := regs.sp + 4 },
        memory)) 2 ⟨1000, 2000, 1990, 0, 0, 0⟩ (fun _ => 0) := by
  refine (Option.isSome_iff_exists.mp ?_).imp fun s' h =>
    ⟨h, (dispatchRounds_refines_bareRounds _ _ _ _ _ _ _ _ _ 2 _ s' [] h :)⟩
  decide

end Runs

/-! ### The debugger's tables along a run -/

section DebuggerRuns
variable (B : Build) (E : TraceEnv) (O : Opcodes) (bigEndian : Bool) (fuel : Nat)
  (denv : DebugEnv) (fenv : FrameEnv) (instruction : DecodedInstruction) (execute : Execute)

theorem dispatchRounds_consistent : ∀ (n : Nat) (s s' : VMState) (cmds : List DbCommand),
    BreakpointInv s.debug →
      dispatchRounds B E O bigEndian fuel denv fenv instruction execute n s cmds = some s' →
        BreakpointInv s'.debug
  | 0, s, s', _, hs, h => by cases h; exact hs
  | n + 1, s, s', cmds, hs, h => by
    rw [dispatchRounds] at h
    split at h
    · next s₁ _ _ rest hi =>
      have h₁ : BreakpointInv s₁.debug := by
        refine (instrument_consistent B E O bigEndian fuel denv fenv instruction _ _ _ ?_).2 hi
        exact hs
      refine dispatchRounds_consistent n _ s' rest ?_ h
      exact h₁
    · cases h

/-- Along every run of the dispatch loop from where `db_prepare` resumes, whatever the client
sends at the breakpoints hit on the way and whatever the instructions do, the debugger's tables
stay consistent (`db_current_ips` lists the set slots plus one, then zeros and the sentinel),
and so no round's `db_checkBreak` reads past the end of `db_current_ips`. -/
theorem dispatchRounds_keeps_breakpoint_tables (romStart : Int) (flashAddress : Option Int)
    {cmds₀ : List DbCommand} {out : List DbOutput} {s : VMState} {cmds : List DbCommand}
    (hprep : dbPrepare denv fenv romStart flashAddress cmds₀ = .resumed out s.debug cmds)
    (n : Nat) {s' : VMState}
    (hrun : dispatchRounds B E O bigEndian fuel denv fenv instruction execute n s cmds = some s') :
    BreakpointInv s'.debug ∧ ∀ t : VMState, t.debug = s'.debug → ∀ ipCopy opcode cmds',
      instrument B E O bigEndian fuel denv fenv instruction t ipCopy opcode cmds' ≠ .overrun := by
  have h0 := dbPrepare_consistent denv fenv romStart flashAddress cmds₀
  rw [hprep] at h0
  have hs' := dispatchRounds_consistent B E O bigEndian fuel denv fenv instruction execute n s s'
    cmds h0 hrun
  exact ⟨hs', fun t ht ipCopy opcode cmds' =>
    (instrument_consistent B E O bigEndian fuel denv fenv instruction ipCopy opcode cmds'
      (ht ▸ hs')).1⟩

/-- A client that sets a breakpoint on the instruction at address `1000` before the first
instruction runs, then answers its hit with `C`: two rounds of a `DB_DEBUG` build stop once at
slot 3 and go on with consistent tables. -/
theorem dispatchRounds_keeps_tables_past_a_hit :
    ∃ out d cmds s', dbPrepare ⟨fun _ => 0, 1, 2, false, true⟩
        ⟨fun _ => 0, 0, 1, fun _ => 0, fun _ => 0, fun _ => 1, 0xDEADBEEF⟩ 0 none
        [.breakCmd 'S' 3 1000, .cont, .cont] = .resumed out d cmds ∧
      dispatchRounds ⟨true, false, false, true, false, false⟩
        ⟨⟨fun _ => 0, fun _ => 0, fun _ => 1000⟩, 0, fun _ => 0, fun _ => 0, fun _ => 0,
          fun _ => 0, 0xDEADBEEF, 1, 2, 0, 0, 0, 0, 0, 0, 4⟩
        ⟨100, 101, 102, 103, 104, 105, 106, 107, 108, 109, 110, 111, 112, 113, 114, 115, 116, 117,
          0, 0, 256, 0, false, by decide, by decide⟩ true 10
        ⟨fun _ => 0, 1, 2, false, true⟩ ⟨fun _ => 0, 0, 1, fun _ => 0, fun _ => 0, fun _ => 1,
          0xDEADBEEF⟩ ⟨0, 0, 0, 0⟩ (fun _ regs memory => (regs, memory)) 2
        ⟨⟨1000, 2000, 1990, 0, 0, 0⟩, fun _ => 0, d, ⟨false, -2, 0, 0⟩, false⟩ cmds = some s' ∧
      BreakpointInv s'.debug ∧ ∀ t : VMState, t.debug = s'.debug → ∀ ipCopy opcode cmds',
        instrument ⟨true, false, false, true, false, false⟩
          ⟨⟨fun _ => 0, fun _ => 0, fun _ => 1000⟩, 0, fun _ => 0, fun _ => 0, fun _ => 0,
            fun _ => 0, 0xDEADBEEF, 1, 2, 0, 0, 0, 0, 0, 0, 4⟩
          ⟨100, 101, 102, 103, 104, 105, 106, 107, 108, 109, 110, 111, 112, 113, 114, 115, 116,
            117, 0, 0, 256, 0, false, by decide, by decide⟩ true 10
          ⟨fun _ => 0, 1, 2, false, true⟩ ⟨fun _ => 0, 0, 1, fun _ => 0, fun _ => 0, fun _ => 1,
            0xDEADBEEF⟩ ⟨0, 0, 0, 0⟩ t ipCopy opcode cmds' ≠ .overrun := by
  refine ⟨_, _, _, (Option.isSome_iff_exists.mp ?_).imp fun s' h =>
    ⟨rfl, h, (@dispatchRounds_keeps_breakpoint_tables _ _ _ _ _ _ _ _ _ 0 none
      [.breakCmd 'S' 3 1000, .cont, .cont] _ _ _ (by rfl) 2 s' h :)⟩⟩
  decide

end DebuggerRuns

end SquawkVM
