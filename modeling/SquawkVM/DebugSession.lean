import SquawkVM.Dispatch
import SquawkVM.DebugFrame

/-! The conversation of the low-level debugger with its client over a whole run of the
dispatch loop. After `db_prepare` announces the ROM, every line the VM prints is the notice of a
breakpoint hit or the reply to a data request the client sent at that stop: one reply per
request, of the kind asked for, in the order of the requests. Each stop reads the client's lines
up to its `C` and no further, so no line is lost or read twice from one stop to the next. -/

namespace SquawkVM

/-- A line of the client that asks for data: `*DEBUG*:D:...`. -/
def DbCommand.isDataRequest : DbCommand → Bool
  | .dataCmd .. => true
  | _ => false

/-- The reply `o` is of the kind the request `c` asks for: the frame's state for `D:G:S`, and as
many memory words as the request's size for `D:G:M`. -/
def DbOutput.answers : DbCommand → DbOutput → Bool
  | .dataCmd 'G' 'S' _ _, .state _ _ => true
  | .dataCmd 'G' 'M' _ size, .memory words => words.length == size.toNat
  | _, _ => false

/-- What a stop that resumes has read and printed: the client's lines `pre` before its `C`, none
of them a `C`, and one reply per data request among them, in order. -/
structure DbSessionAnswered (pre : List DbCommand) (out : List DbOutput) : Prop where
  no_cont : DbCommand.cont ∉ pre
  replies : List.Forall₂ (fun c o => DbOutput.answers c o = true)
    (pre.filter DbCommand.isDataRequest) out

/-- The client's lines read, and the lines printed, by the breakpoint checks of a run: stop
after stop, the notice of a hit on slot `j`, then the replies to the requests the client sent
before its `C`. -/
inductive DbSessions : List DbCommand → List DbOutput → Prop
  | nil : DbSessions [] []
  | stop {j : Nat} {pre cmds : List DbCommand} {out outs : List DbOutput} : j < DB_MAX_BPS →
      DbSessionAnswered pre out → DbSessions cmds outs →
      DbSessions (pre ++ .cont :: cmds) (.hit j :: out ++ outs)

theorem DbSessions.append {c₁ c₂ : List DbCommand} {o₁ o₂ : List DbOutput}
    (h₁ : DbSessions c₁ o₁) (h₂ : DbSessions c₂ o₂) : DbSessions (c₁ ++ c₂) (o₁ ++ o₂) := by
  induction h₁ with
  | nil => exact h₂
  | stop hj hA _ ih => simpa only [List.append_assoc, List.cons_append] using .stop hj hA ih

theorem dbProcessDataCmd_answers {env : DebugEnv} {fenv : FrameEnv} {subcmd subsubcmd : Char}
    {i1 i2 opcode : Int} {ip : ByteAddress} {fp : Int} {o : DbOutput}
    (h : dbProcessDataCmd env fenv subcmd subsubcmd i1 i2 opcode ip fp = .ok o) :
    DbOutput.answers (.dataCmd subcmd subsubcmd i1 i2) o = true := by
  unfold dbProcessDataCmd at h
  split at h
  · cases h
  · split at h <;> cases h
    · rfl
    · simp [DbOutput.answers, dbSendMemory, ← List.map_eq_flatMap]
  · cases h

section
variable (env : DebugEnv) (fenv : FrameEnv) (opcode : Int) (ip : ByteAddress) (fp : Int)

/-- A session that resumes has read the client's lines up to the first `C` and answered each
data request among them. -/
theorem dbProcessClientCommands_answered : ∀ (s : DebugState) (cmds : List DbCommand)
    {out : List DbOutput} {s' : DebugState} {rest : List DbCommand},
    dbProcessClientCommands env fenv opcode ip fp s cmds = .resumed out s' rest →
      ∃ pre, cmds = pre ++ .cont :: rest ∧ DbSessionAnswered pre out
  | _, [], _, _, _, h => by cases h
  | s, c :: cs, out, s', rest, h => by
    cases c with
    | cont => cases h; exact ⟨[], rfl, ⟨List.not_mem_nil _, .nil⟩⟩
    | breakCmd subcmd bpnum addr =>
      simp only [dbProcessClientCommands] at h
      split at h
      · cases h
      · obtain ⟨pre, rfl, hA⟩ := dbProcessClientCommands_answered _ cs h
        exact ⟨_ :: pre, rfl, ⟨by simpa using hA.no_cont, by simpa [DbCommand.isDataRequest] using hA.replies⟩⟩
    | dataCmd subcmd subsubcmd i1 i2 =>
      simp only [dbProcessClientCommands] at h
      split at h
      · cases h
      · next o hd =>
        obtain ⟨out', hr, rfl⟩ := DbOutcome.prepend_eq_resumed h
        obtain ⟨pre, rfl, hA⟩ := dbProcessClientCommands_answered s cs hr
        refine ⟨_ :: pre, rfl, ⟨by simpa using hA.no_cont, ?_⟩⟩
        rw [List.filter_cons_of_pos rfl]
        exact .cons (dbProcessDataCmd_answers hd) hA.replies
    | other cmd => cases h
    | badHeader => cases h

/-- The scan of `db_checkBreak`, when it resumes, has held one stop per hit it reported. -/
theorem dbCheckBreakScan_sessions : ∀ (fuel i : Nat) (s : DebugState) (cmds : List DbCommand)
    {out : List DbOutput} {s' : DebugState} {rest : List DbCommand},
    dbCheckBreakScan env fenv opcode ip fp fuel i s cmds = .resumed out s' rest →
      ∃ consumed, cmds = consumed ++ rest ∧ DbSessions consumed out
  | 0, _, _, _, _, _, _, h => by cases h
  | fuel + 1, i, s, cmds, out, s', rest, h => by
    rw [dbCheckBreakScan] at h
    split_ifs at h
    · cases h; exact ⟨[], rfl, .nil⟩
    · split at h
      · exact dbCheckBreakScan_sessions fuel (i + 1) s cmds h
      · next j hj =>
        split at h
        · next out₁ s₁ cmds₁ hsess =>
          obtain ⟨outs, hr, rfl⟩ := DbOutcome.prepend_eq_resumed h
          obtain ⟨pre, rfl, hA⟩ := dbProcessClientCommands_answered env fenv opcode ip fp s cmds hsess
          obtain ⟨consumed, rfl, hS⟩ := dbCheckBreakScan_sessions fuel (i + 1) s₁ cmds₁ hr
          have hjlt : j < DB_MAX_BPS := List.mem_range.1 (List.mem_of_find?_eq_some hj)
          exact ⟨pre ++ .cont :: consumed, by simp, .stop hjlt hA hS⟩
        · cases h
        · cases h
    · exact dbCheckBreakScan_sessions fuel (i + 1) s cmds h

end

/-! ### The conversation over a run -/

section Conversation
variable (B : Build) (E : TraceEnv) (O : Opcodes) (bigEndian : Bool) (fuel : Nat)
  (denv : DebugEnv) (fenv : FrameEnv) (instruction : DecodedInstruction) (execute : Execute)

/-- Every run of the dispatch loop holds its stops one after another on the client's lines. -/
theorem dispatchTranscript_sessions : ∀ (n : Nat) (s : VMState) (cmds : List DbCommand)
    {s' : VMState} {file : List TraceLine} {out : List DbOutput} {rest : List DbCommand},
    dispatchTranscript B E O bigEndian fuel denv fenv instruction execute n s cmds =
      some (s', file, out, rest) → ∃ consumed, cmds = consumed ++ rest ∧ DbSessions consumed out
  | 0, _, _, _, _, _, _, h => by cases h; exact ⟨[], rfl, .nil⟩
  | n + 1, s, cmds, s', file, out, rest, h => by
    rw [dispatchTranscript] at h
    split at h
    · next s₁ _ out₁ rest₁ hi =>
      obtain ⟨⟨s₂, file₂, outs, rest₂⟩, hr, he⟩ := Option.map_eq_some'.1 h
      cases he
      have hround := (instrument_proceeds B E O bigEndian fuel denv fenv instruction hi).1
      unfold roundCheckBreak at hround
      split at hround
      · unfold dbCheckBreak at hround
        split at hround
        · obtain ⟨c₁, rfl, hS₁⟩ := dbCheckBreakScan_sessions _ fenv _ _ _ _ _ _ _ hround
          obtain ⟨c₂, rfl, hS₂⟩ := dispatchTranscript_sessions n _ rest₁ hr
          exact ⟨c₁ ++ c₂, by simp, hS₁.append hS₂⟩
        · obtain ⟨rfl, -, rfl⟩ := DbOutcome.resumed.inj hround
          exact dispatchTranscript_sessions n _ cmds hr
      · obtain ⟨rfl, -, rfl⟩ := DbOutcome.resumed.inj hround
        exact dispatchTranscript_sessions n _ cmds hr
    · cases h

/-- `db_prepare`, with the debugger enabled, announces the ROM and serves the client's first
session. -/
theorem dbPrepare_answered {denv : DebugEnv} (fenv : FrameEnv) (romStart : Int)
    (flashAddress : Option Int) (hen : denv.debugEnabled = true) {cmds₀ : List DbCommand}
    {out₀ : List DbOutput} {d : DebugState} {cmds : List DbCommand}
    (hprep : dbPrepare denv fenv romStart flashAddress cmds₀ = .resumed out₀ d cmds) :
    ∃ pre replies, cmds₀ = pre ++ .cont :: cmds ∧ out₀ = .ready romStart flashAddress :: replies ∧
      DbSessionAnswered pre replies := by
  rw [dbPrepare, if_pos hen] at hprep
  obtain ⟨replies, hr, rfl⟩ := DbOutcome.prepend_eq_resumed hprep
  obtain ⟨pre, rfl, hA⟩ := dbProcessClientCommands_answered denv fenv 0 0 0 _ _ hr
  exact ⟨pre, replies, rfl, rfl, hA⟩

end Conversation

end SquawkVM
