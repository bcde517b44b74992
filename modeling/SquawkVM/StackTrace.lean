import SquawkVM.TraceFile

/-! The stack traces `printStackTracePrim` of `trace.c` writes to the trace file, interleaved with
the calls of `trace`: each opens the file if needed and writes one whole block. -/

namespace SquawkVM

/-- A line of the trace file: one that `trace` writes, or one of a stack trace. -/
inductive TraceFileLine where
  | traced (line : TraceLine)
  /-- `*STACKTRACESTART*:%L:%s`, and `:%s` with the mnemonic if there is one. -/
  | stackTraceStart (branchCount : Int) (msg : String) (mnemonic : Option String)
  /-- `*STACKTRACE*:%A:%d`: a frame's method and bytecode offset. -/
  | stackTraceFrame (traceMP pc : Int)
  /-- `*STACKTRACEEND*`. -/
  | stackTraceEnd
  deriving DecidableEq, Repr

section Printers
variable (B : Build) (E : TraceEnv)

/-- `printStackTracePrim(opcode, traceIP, traceFP, msg, mnemonic)`: `openTraceFile()`, the
`*STACKTRACESTART*` line, `traceFrames(opcode, traceIP, traceFP, false)` and `*STACKTRACEEND*`;
the globals it leaves and the lines it writes. `fuel` bounds the walk over the frames. -/
def printStackTracePrim (fuel : Nat) (g : TracerGlobals) (opcode traceIP traceFP : Int)
    (msg : String) (mnemonic : Option String) : Traced (TracerGlobals × List TraceFileLine) :=
  let header := if g.traceFileOpen then [] else
    [TraceFileLine.traced (.header E.romStart E.romEnd E.nvmStart E.nvmEnd
      (if B.SQUAWK_64 then 64 else 32))]
  let start := TraceFileLine.stackTraceStart (getLongCounter E.branchCountHigh E.branchCountLow)
    msg mnemonic
  match traceFramesLoop E.F B.ASSUME E.OPC_EXTEND E.OPC_EXTEND0 fuel opcode traceIP traceFP 0 with
  | none => .loops
  | some (_, some m) => .fatal m
  | some (frames, none) => .ok ({ g with traceFileOpen := true },
      header ++ (start :: frames.map (fun r => .stackTraceFrame r.1 r.2) ++ [.stackTraceEnd]))

/-- `printProfileStackTrace(traceIP, traceFP, lastOpcode)`, with `getOpcodeName` (outside `src/`)
as `opcodeName`. -/
def printProfileStackTrace (fuel : Nat) (g : TracerGlobals) (code : Nat → UInt8)
    (opcodeName : Int → String) (traceIP : Nat) (traceFP lastOpcode : Int) :
    Traced (TracerGlobals × List TraceFileLine) :=
  printStackTracePrim B E fuel g (fetchUByte code traceIP).1 traceIP traceFP "*PROFILE TRACE*"
    (some (opcodeName lastOpcode))

/-- `printStackTrace(msg)`: from the registers `ip` and `fp`, or from the copies `lastIP` and
`lastFP` the dispatch loop of a `MACROIZE` build keeps. -/
def printStackTrace (fuel : Nat) (g : TracerGlobals) (regs : Registers) (msg : String) :
    Traced (TracerGlobals × List TraceFileLine) :=
  printStackTracePrim B E fuel g (-1) (if B.MACROIZE then g.lastIP else regs.ip)
    (if B.MACROIZE then g.lastFP else regs.fp) msg none

end Printers

/-! ### The grammar of the file with its stack traces -/

/-- The line `trace` wrote, if it is one. -/
def TraceFileLine.traced? : TraceFileLine → Option TraceLine
  | .traced line => some line
  | _ => none

/-- Whether the line is the header of `openTraceFile`. -/
def TraceFileLine.isHeader : TraceFileLine → Bool
  | .traced (.header ..) => true
  | _ => false

/-- Whether the line starts a stack trace. -/
def TraceFileLine.isStackTraceStart : TraceFileLine → Bool
  | .stackTraceStart .. => true
  | _ => false

/-- Reading the stack traces line by line, `inside` one or not; `none` once a line is out of
place. -/
def stackTraceStep : Bool → TraceFileLine → Option Bool
  | false, .traced _ => some false
  | false, .stackTraceStart .. => some true
  | true, .stackTraceFrame .. => some true
  | true, .stackTraceEnd => some false
  | _, _ => none

/-- A trace file with stack traces a reader can take apart: the header first; the stack traces
whole, each a `*STACKTRACESTART*` line, frame lines and `*STACKTRACEEND*`, outside one another and
outside the lines of `trace`; and the lines of `trace` a well-formed trace. -/
def wellFormedTraceFile (file : List TraceFileLine) : Bool :=
  file.head?.all TraceFileLine.isHeader && (file.foldlM stackTraceStep false == some false) &&
    wellFormedTrace (file.filterMap TraceFileLine.traced?)

@[simp] theorem TraceFileLine.traced?_comp_traced :
    TraceFileLine.traced? ∘ TraceFileLine.traced = some := rfl

@[simp] theorem filterMap_traced?_map (lines : List TraceLine) :
    (lines.map TraceFileLine.traced).filterMap TraceFileLine.traced? = lines := by
  simp [List.filterMap_map]

theorem foldlM_stackTraceStep_traced (lines : List TraceLine) :
    (lines.map TraceFileLine.traced).foldlM stackTraceStep false = some false := by
  induction lines with
  | nil => rfl
  | cons l ls ih => simpa [stackTraceStep] using ih

theorem filterMap_traced?_ne_nil' {file : List TraceFileLine} (hne : file ≠ [])
    (hhead : file.head?.all TraceFileLine.isHeader = true) :
    file.filterMap TraceFileLine.traced? ≠ [] := by
  obtain ⟨l, rest, rfl⟩ := List.exists_cons_of_ne_nil hne
  cases l with
  | traced line => simp [TraceFileLine.traced?]
  | _ => simp [TraceFileLine.isHeader] at hhead

/-- Lines appended to a readable file that is not empty keep its header first, and keep it
readable when they bring whole blocks and lines of `trace` that follow the file's last
`*THREADSWITCH*` line. -/
theorem wellFormedTraceFile_append {file : List TraceFileLine} (hf : wellFormedTraceFile file = true)
    (hne : file ≠ []) (lines : List TraceFileLine)
    (hfold : lines.foldlM stackTraceStep false = some false) :
    wellFormedTraceFile (file ++ lines) = followsSwitch
      (lastSwitch none (file.filterMap TraceFileLine.traced?)) (lines.filterMap TraceFileLine.traced?) := by
  simp only [wellFormedTraceFile, Bool.and_eq_true, beq_iff_eq] at hf
  obtain ⟨⟨hhead, hfile⟩, htr⟩ := hf
  rw [wellFormedTraceFile, List.head?_append_of_ne_nil _ hne, hhead, List.foldlM_append, hfile,
    List.filterMap_append, wellFormedTrace_append htr (filterMap_traced?_ne_nil' hne hhead)]
  simp [Option.bind_eq_bind, hfold]

/-- Lines of `trace` appended to a readable file leave it readable exactly when the lines of
`trace` in it are a well-formed trace. -/
theorem wellFormedTraceFile_append_traced {file : List TraceFileLine}
    (hf : wellFormedTraceFile file = true) (lines : List TraceLine) :
    wellFormedTraceFile (file ++ lines.map TraceFileLine.traced) =
      wellFormedTrace (file.filterMap TraceFileLine.traced? ++ lines) := by
  by_cases hne : file = []
  · subst hne
    cases lines with
    | nil => rfl
    | cons l ls =>
      cases l <;> simp [wellFormedTraceFile, TraceFileLine.isHeader, wellFormedTrace,
        foldlM_stackTraceStep_traced, stackTraceStep, TraceFileLine.traced?]
  · have hhead : file.head?.all TraceFileLine.isHeader = true := by
      simp only [wellFormedTraceFile, Bool.and_eq_true] at hf; exact hf.1.1
    have htr : wellFormedTrace (file.filterMap TraceFileLine.traced?) = true := by
      simp only [wellFormedTraceFile, Bool.and_eq_true] at hf; exact hf.2
    rw [wellFormedTraceFile_append hf hne _ (foldlM_stackTraceStep_traced lines),
      wellFormedTrace_append htr (filterMap_traced?_ne_nil' hne hhead), filterMap_traced?_map]

/-! ### Every interleaving of traces and stack traces -/

/-- What the file written so far and the tracer's globals say of each other, `l₀` being the
`lastThreadID` the globals started from: while the file is closed nothing is written and
`lastThreadID` is `l₀`; once it is open the file is well formed and not empty, and its last
`*THREADSWITCH*` line names `lastThreadID`, or there is none yet and `lastThreadID` is `l₀`. -/
structure TraceFileLinesInv (l₀ : Int) (g : TracerGlobals) (file : List TraceFileLine) : Prop where
  closed : g.traceFileOpen = false → file = [] ∧ g.lastThreadID = l₀
  well_formed : wellFormedTraceFile file = true
  opened : g.traceFileOpen = true → file ≠ []
  current : g.traceFileOpen = true →
    lastSwitch none (file.filterMap TraceFileLine.traced?) = some g.lastThreadID ∨
      (lastSwitch none (file.filterMap TraceFileLine.traced?) = none ∧ g.lastThreadID = l₀)

theorem TraceFileLinesInv.init {g : TracerGlobals} (hg : g.traceFileOpen = false) :
    TraceFileLinesInv g.lastThreadID g [] :=
  ⟨fun _ => ⟨rfl, rfl⟩, rfl, fun h => absurd (hg ▸ h) Bool.false_ne_true,
    fun h => absurd (hg ▸ h) Bool.false_ne_true⟩

section Calls
variable {B : Build} {E : TraceEnv}

/-- A stack trace that returns opens the file and writes the header if it was closed, then one
whole block with no line of `trace` in it. -/
theorem printStackTracePrim_ok {fuel : Nat} {g g' : TracerGlobals} {opcode traceIP traceFP : Int}
    {msg : String} {mnemonic : Option String} {lines : List TraceFileLine}
    (h : printStackTracePrim B E fuel g opcode traceIP traceFP msg mnemonic = .ok (g', lines)) :
    ∃ block : List TraceFileLine, g' = { g with traceFileOpen := true } ∧
      lines = (if g.traceFileOpen then [] else [TraceFileLine.traced (.header E.romStart E.romEnd
        E.nvmStart E.nvmEnd (if B.SQUAWK_64 then 64 else 32))]) ++ block ∧
      block.filterMap TraceFileLine.traced? = [] ∧ block.foldlM stackTraceStep false = some false ∧
      block.countP TraceFileLine.isStackTraceStart = 1 := by
  unfold printStackTracePrim at h
  generalize traceFramesLoop E.F B.ASSUME E.OPC_EXTEND E.OPC_EXTEND0 fuel opcode traceIP traceFP 0
    = w at h
  rcases w with _ | ⟨frames, _ | m⟩ <;> cases h
  have hframes : ∀ fs : List (Int × Int),
      (fs.map fun r => TraceFileLine.stackTraceFrame r.1 r.2).foldlM stackTraceStep true =
        some true := fun fs => by
    induction fs with
    | nil => rfl
    | cons f fs ih => simpa [stackTraceStep] using ih
  refine ⟨_, rfl, rfl, by simp [TraceFileLine.traced?], ?_, ?_⟩
  · simp [List.foldlM_append, stackTraceStep, hframes]
  · simp [List.countP_append, TraceFileLine.isStackTraceStart]

/-- A stack trace keeps the file readable, and adds one block and no record. -/
theorem printStackTracePrim_keeps_file {fuel : Nat} {g g' : TracerGlobals}
    {opcode traceIP traceFP : Int} {msg : String} {mnemonic : Option String} {l₀ : Int}
    {file lines : List TraceFileLine} (hinv : TraceFileLinesInv l₀ g file)
    (h : printStackTracePrim B E fuel g opcode traceIP traceFP msg mnemonic = .ok (g', lines)) :
    TraceFileLinesInv l₀ g' (file ++ lines) ∧
      (lines.filterMap TraceFileLine.traced?).countP TraceLine.isRecord = 0 ∧
      lines.countP TraceFileLine.isStackTraceStart = 1 := by
  obtain ⟨block, rfl, rfl, hb, hfold, hcount⟩ := printStackTracePrim_ok h
  cases hopen : g.traceFileOpen
  · -- the stack trace opens the file: the header, then the block
    obtain ⟨rfl, hl₀⟩ := hinv.closed hopen
    refine ⟨⟨fun h => by simp at h, ?_, fun _ => by simp, fun _ => .inr ⟨?_, hl₀⟩⟩, ?_, ?_⟩
    · simp [wellFormedTraceFile, TraceFileLine.isHeader, stackTraceStep, hfold,
        TraceFileLine.traced?, hb, wellFormedTrace, followsSwitch]
    · simp [TraceFileLine.traced?, hb, lastSwitch]
    · simp [TraceFileLine.traced?, hb, TraceLine.isRecord, TraceLine.recordOf]
    · simp [List.countP_append, TraceFileLine.isStackTraceStart, hcount]
  · -- the file is open: the block goes after it, and the lines of `trace` stay as they were
    have hne := hinv.opened hopen
    refine ⟨⟨fun h => by simp at h, ?_, fun _ => by simp [hne], fun _ => ?_⟩, by simp [hb],
      by simpa using hcount⟩
    · simp only [if_true, List.nil_append]
      rw [wellFormedTraceFile_append hinv.well_formed hne _ hfold, hb]
      rfl
    · simpa [List.filterMap_append, hb] using hinv.current hopen

/-- A call of `trace` whose thread is not `l₀` keeps the file readable, and adds one record and
no block. -/
theorem trace_keeps_file_lines {O : Opcodes} {bigEndian : Bool} {fuel : Nat}
    {code : Nat → UInt8} {instruction : DecodedInstruction} {regs regs' : Registers}
    {g g' : TracerGlobals} {traceIP : Nat} {traceFP traceSP : Int} {l₀ : Int}
    {file : List TraceFileLine} {lines : List TraceLine} (hinv : TraceFileLinesInv l₀ g file)
    (hthread : (if E.currentThread ≠ 0 then E.threadNumber E.currentThread else -1) ≠ l₀)
    (h : trace B E O bigEndian fuel code instruction regs g traceIP traceFP traceSP =
      .ok (regs', g', lines)) :
    TraceFileLinesInv l₀ g' (file ++ lines.map TraceFileLine.traced) ∧
      lines.countP TraceLine.isRecord = 1 ∧
      (lines.map TraceFileLine.traced).countP TraceFileLine.isStackTraceStart = 0 := by
  have hwf := hinv.well_formed
  simp only [wellFormedTraceFile, Bool.and_eq_true] at hwf
  obtain ⟨hopen, hwf', hlast, hc⟩ := trace_extends_file (fun h => by simp [(hinv.closed h).1])
    hwf.2 (fun h => filterMap_traced?_ne_nil' (hinv.opened h) hwf.1.1)
    (fun h => (hinv.current h).imp_right fun hn => ⟨hn.1, hn.2 ▸ hthread.symm⟩) h
  have hne : lines ≠ [] := fun hnil => by simp [hnil] at hc
  refine ⟨⟨fun h => absurd (h ▸ hopen) Bool.false_ne_true, ?_, fun _ => by simp [hne],
    fun _ => .inl ?_⟩, hc, by simp [TraceFileLine.isStackTraceStart]⟩
  · rw [wellFormedTraceFile_append_traced hinv.well_formed, hwf']
  · rw [List.filterMap_append, filterMap_traced?_map, hlast]

end Calls

/-- A call that writes to the trace file: one of `trace`, or a stack trace (`printStackTracePrim`,
as `printProfileStackTrace` and `printStackTrace` call it). -/
inductive TraceFileCall where
  | traceCall (c : TraceCall)
  | stackTrace (E : TraceEnv) (opcode traceIP traceFP : Int) (msg : String)
      (mnemonic : Option String)

/-- Whether the call is one of `trace`. -/
def TraceFileCall.isTrace : TraceFileCall → Bool
  | .traceCall _ => true
  | .stackTrace .. => false

/-- The thread a call of `trace` names in its record. -/
def TraceCall.threadID (c : TraceCall) : Int :=
  if c.E.currentThread ≠ 0 then c.E.threadNumber c.E.currentThread else -1

/-- The trace file the calls `calls` write from the tracer's globals `g`, each call from the
globals the one before left, and the globals after the last; `none` once a call does not
return. -/
def traceFileCalls (B : Build) (O : Opcodes) (bigEndian : Bool) (fuel : Nat) :
    TracerGlobals → List TraceFileCall → Option (TracerGlobals × List TraceFileLine)
  | g, [] => some (g, [])
  | g, .traceCall c :: calls =>
    match trace B c.E O bigEndian fuel c.code c.instruction c.regs g c.traceIP c.traceFP
        c.traceSP with
    | .ok (_, g', lines) =>
      (traceFileCalls B O bigEndian fuel g' calls).map fun r => (r.1, lines.map .traced ++ r.2)
    | _ => none
  | g, .stackTrace E opcode traceIP traceFP msg mnemonic :: calls =>
    match printStackTracePrim B E fuel g opcode traceIP traceFP msg mnemonic with
    | .ok (g', lines) => (traceFileCalls B O bigEndian fuel g' calls).map fun r => (r.1, lines ++ r.2)
    | _ => none

theorem traceFileCalls_keeps_file (B : Build) (O : Opcodes) (bigEndian : Bool) (fuel : Nat)
    (l₀ : Int) : ∀ (calls : List TraceFileCall) (g g' : TracerGlobals)
      (file lines : List TraceFileLine), (∀ c, .traceCall c ∈ calls → c.threadID ≠ l₀) →
      TraceFileLinesInv l₀ g file → traceFileCalls B O bigEndian fuel g calls = some (g', lines) →
        TraceFileLinesInv l₀ g' (file ++ lines) ∧
        (lines.filterMap TraceFileLine.traced?).countP TraceLine.isRecord =
          calls.countP TraceFileCall.isTrace ∧
        lines.countP TraceFileLine.isStackTraceStart = calls.countP (!·.isTrace)
  | [], g, g', file, lines, _, hinv, h => by
    cases h
    exact ⟨by simpa using hinv, rfl, rfl⟩
  | .traceCall c :: calls, g, g', file, lines, hthreads, hinv, h => by
    rw [traceFileCalls] at h
    split at h
    · next g₁ lines₁ ht =>
      obtain ⟨hinv₁, hc₁, hs₁⟩ := trace_keeps_file_lines hinv (hthreads c (.head _)) ht
      obtain ⟨⟨g₂, rest⟩, hr, he⟩ := Option.map_eq_some'.1 h
      cases he
      obtain ⟨hinv', hc', hs'⟩ := traceFileCalls_keeps_file B O bigEndian fuel l₀ calls g₁ g₂ _ rest
        (fun c hc => hthreads c (.tail _ hc)) hinv₁ hr
      refine ⟨by simpa only [List.append_assoc] using hinv', ?_, ?_⟩
      · simp [List.filterMap_append, List.countP_append, hc₁, hc', TraceFileCall.isTrace,
          Nat.add_comm]
      · simp [List.countP_append, hs₁, hs', TraceFileCall.isTrace]
    · cases h
  | .stackTrace E opcode traceIP traceFP msg mnemonic :: calls, g, g', file, lines, hthreads,
      hinv, h => by
    rw [traceFileCalls] at h
    split at h
    · next g₁ lines₁ hp =>
      obtain ⟨hinv₁, hc₁, hs₁⟩ := printStackTracePrim_keeps_file hinv hp
      obtain ⟨⟨g₂, rest⟩, hr, he⟩ := Option.map_eq_some'.1 h
      cases he
      obtain ⟨hinv', hc', hs'⟩ := traceFileCalls_keeps_file B O bigEndian fuel l₀ calls g₁ g₂ _ rest
        (fun c hc => hthreads c (.tail _ hc)) hinv₁ hr
      refine ⟨by simpa only [List.append_assoc] using hinv', ?_, ?_⟩
      · simp [List.filterMap_append, List.countP_append, hc₁, hc', TraceFileCall.isTrace]
      · simp [List.countP_append, hs₁, hs', TraceFileCall.isTrace, Nat.add_comm]
    · cases h

/-- Whatever order the calls of `trace` and the stack traces come in (a profile stack trace after
any instruction, the stack trace of `fatalVMError`, threads switching between any two calls),
from the globals as `initializeGlobals` leaves them (the file not open), and as long as no traced
thread has the number `lastThreadID` starts with: the file written by calls that all return
has the header first and nowhere else, its stack traces whole and outside one another and the
lines of `trace`, every `*TRACE*` record naming the thread of the last `*THREADSWITCH*` line
before it, one record per call of `trace`, and one stack trace per stack-trace call. -/
theorem traceFileCalls_writes_readable_file (B : Build) (O : Opcodes) (bigEndian : Bool)
    (fuel : Nat) {g : TracerGlobals} (hg : g.traceFileOpen = false) (calls : List TraceFileCall)
    (hthreads : ∀ c, .traceCall c ∈ calls → c.threadID ≠ g.lastThreadID)
    {g' : TracerGlobals} {file : List TraceFileLine}
    (h : traceFileCalls B O bigEndian fuel g calls = some (g', file)) :
    wellFormedTraceFile file = true ∧
      (file.filterMap TraceFileLine.traced?).countP TraceLine.isRecord =
        calls.countP TraceFileCall.isTrace ∧
      file.countP TraceFileLine.isStackTraceStart = calls.countP (!·.isTrace) := by
  obtain ⟨hinv, hrec, hst⟩ := traceFileCalls_keeps_file B O bigEndian fuel g.lastThreadID calls g g'
    [] file hthreads (TraceFileLinesInv.init hg) h
  exact ⟨hinv.well_formed, hrec, hst⟩

/-- A stack trace before anything is traced opens the file; the two instructions traced after it,
in threads `7` and `8`, each get their `*THREADSWITCH*` line because neither thread is the `-2`
that `initializeGlobals` leaves in `lastThreadID`. -/
theorem traceFileCalls_stack_trace_first :
    ∃ r, traceFileCalls ⟨false, true, false, false, false, false⟩
        ⟨100, 101, 102, 103, 104, 105, 106, 107, 108, 109, 110, 111, 112, 113, 114, 115, 116, 117,
          0, 0, 256, 0, false, by decide, by decide⟩ true 10 ⟨false, -2, 0, 0⟩
        [.stackTrace ⟨⟨fun _ => 0, fun _ => 0, fun _ => 1000⟩, 0, fun _ => 0, fun _ => 0,
            fun _ => 0, fun _ => 0, 0xDEADBEEF, 1, 2, 0, 0, 0, 0, 0, 0, 4⟩ (-1) 1000 2000 "boom" none,
          .traceCall ⟨⟨⟨fun _ => 0, fun _ => 0, fun _ => 1000⟩, 5, (· + 2), fun _ => 0, fun _ => 0,
            fun _ => 0, 0xDEADBEEF, 1, 2, 0, 0, 0, 0, 0, 0, 4⟩, fun _ => 0, ⟨0, 0, 0, 0⟩,
            ⟨1001, 2000, 1990, 0, 0, 0⟩, 1000, 2000, 1990⟩,
          .traceCall ⟨⟨⟨fun _ => 0, fun _ => 0, fun _ => 1000⟩, 6, (· + 2), fun _ => 0, fun _ => 0,
            fun _ => 0, 0xDEADBEEF, 1, 2, 0, 0, 0, 0, 0, 0, 4⟩, fun _ => 0, ⟨0, 0, 0, 0⟩,
            ⟨1002, 2000, 1990, 0, 0, 0⟩, 1001, 2000, 1990⟩] = some r ∧
      wellFormedTraceFile r.2 = true ∧
      (r.2.filterMap TraceFileLine.traced?).countP TraceLine.isRecord = 2 ∧
      r.2.countP TraceFileLine.isStackTraceStart = 1 := by
  refine (Option.isSome_iff_exists.mp ?_).imp fun r h =>
    ⟨h, (traceFileCalls_writes_readable_file _ _ _ _ rfl _ ?_ h :)⟩
  · decide
  · intro c hc
    simp only [List.mem_cons, TraceFileCall.traceCall.injEq, reduceCtorEq, List.mem_nil_iff,
      false_or, or_false] at hc
    rcases hc with rfl | rfl <;> decide

/-- The thread numbers must differ from the `lastThreadID` the globals start with: a thread
numbered `-2`, traced after a stack trace opened the file, gets no `*THREADSWITCH*` line, and its
record follows the header with no thread named. -/
example : (traceFileCalls ⟨false, true, false, false, false, false⟩
        ⟨100, 101, 102, 103, 104, 105, 106, 107, 108, 109, 110, 111, 112, 113, 114, 115, 116, 117,
          0, 0, 256, 0, false, by decide, by decide⟩ true 10 ⟨false, -2, 0, 0⟩
        [.stackTrace ⟨⟨fun _ => 0, fun _ => 0, fun _ => 1000⟩, 0, fun _ => 0, fun _ => 0,
            fun _ => 0, fun _ => 0, 0xDEADBEEF, 1, 2, 0, 0, 0, 0, 0, 0, 4⟩ (-1) 1000 2000 "boom" none,
          .traceCall ⟨⟨⟨fun _ => 0, fun _ => 0, fun _ => 1000⟩, 5, fun _ => -2, fun _ => 0,
            fun _ => 0, fun _ => 0, 0xDEADBEEF, 1, 2, 0, 0, 0, 0, 0, 0, 4⟩, fun _ => 0, ⟨0, 0, 0, 0⟩,
            ⟨1001, 2000, 1990, 0, 0, 0⟩, 1000, 2000, 1990⟩]).map
      (fun r => wellFormedTraceFile r.2) = some false := by
  decide

end SquawkVM
