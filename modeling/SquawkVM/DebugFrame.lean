import SquawkVM.DebugLines

/-! The frame of `db_process_client_commands`, whose `hdr` is `char[7]`: the NUL that `%7s` stores
after a seven-character header lands in the local the compiler put next, and that decides what
the loop reads. -/

namespace SquawkVM

/-! ### The frame -/

/-- The local of `db_process_client_commands` holding the byte just past `hdr[7]`: padding or a
byte of `done`, which stays `0` (`unread`); a byte of `result`, which each `db_input` sets to the
byte `b` of `buf`'s address; `format[0]`, where `gcc -O0` puts it; `cmd`; or `buf[0]`. -/
inductive HdrSpill where
  | unread
  | result (b : Char)
  | format
  | cmd
  | buf
  deriving DecidableEq, Repr

/-- The byte past `hdr` is none of the loop's own variables `format`, `cmd` and `buf`. -/
def HdrSpill.benign : HdrSpill → Bool
  | .unread | .result _ => true
  | _ => false

/-- Where the compiler put the byte past each `hdr` array: past the `hdr[7]` of
`db_process_client_commands`, and what a NUL stored past the `hdr[9]` of `db_process_break_cmd`
and of `db_process_data_cmd` does to their other locals. -/
structure FrameLayout where
  hdr : HdrSpill
  brk : BreakVars → BreakVars
  data : DataVars → DataVars

/-- The bytes of the frame of `db_process_client_commands` that a round writes and a later one
reads: the C string in `buf`, the seven bytes of `hdr`, the byte past them when it is padding,
`done` or `result`, `cmd`, and `format[0]`. -/
@[ext]
structure CommandFrame where
  buf : List Char
  hdr : List Char
  hdr_length : hdr.length = 7
  past : Char
  cmd : Char
  format0 : Char
  deriving DecidableEq

/-- The byte just past `hdr`, where `strcmp` looks for the end of `*DEBUG*`. -/
def CommandFrame.pastByte (fr : CommandFrame) : HdrSpill → Char
  | .unread | .result _ => fr.past
  | .format => fr.format0
  | .cmd => fr.cmd
  | .buf => fr.buf.headD '\x00'

/-- A NUL stored just past `hdr`. -/
def CommandFrame.clearPast (fr : CommandFrame) : HdrSpill → CommandFrame
  | .unread | .result _ => { fr with past := '\x00' }
  | .format => { fr with format0 := '\x00' }
  | .cmd => { fr with cmd := '\x00' }
  | .buf => { fr with buf := [] }

/-- `%7s` storing the string `s` and its NUL from `hdr[0]` on: the NUL of a seven-character
string lands past the array. -/
def CommandFrame.storeHdr (spill : HdrSpill) (s : List Char) (fr : CommandFrame) :
    CommandFrame :=
  let fr' : CommandFrame := { fr with
    hdr := (s ++ '\x00' :: fr.hdr.drop (s.length + 1)).take 7
    hdr_length := by
      simp only [List.length_take, List.length_append, List.length_cons, List.length_drop,
        fr.hdr_length]
      omega }
  if s.length < 7 then fr' else fr'.clearPast spill

/-- `result = db_input(buf, 100)` returning `line`: `buf` holds its C string, and `result`
`buf`'s address. -/
def CommandFrame.input (fr : CommandFrame) (spill : HdrSpill) (line : List Char) :
    CommandFrame :=
  let fr := { fr with buf := line.takeWhile (· ≠ '\x00') }
  match spill with
  | .result b => { fr with past := b }
  | _ => fr

/-- `format` of `db_process_client_commands` as directives on the frame: `"%7s:%c"`, or the
empty string once a NUL has landed on `format[0]`. -/
def commandFormatAt (spill : HdrSpill) (format0 : Char) : List (Directive CommandFrame) :=
  if format0 = '\x00' then []
  else [strDir 7 (CommandFrame.storeHdr spill), litDir ':', chrDir fun cmd fr => { fr with cmd }]

/-- One round of the loop of `db_process_client_commands` in a frame laid out as `L`, up to its
`switch`: `db_input`, `sscanf(buf, format, &hdr, &cmd)` with `format` as it now stands,
`strcmp(hdr, "*DEBUG*")` on the seven bytes of `hdr` and the byte past them, and the command
selected, with the handler's `sscanf` of what `buf` then holds into its locals `u`. -/
def lineCommandAt (L : FrameLayout) (fr : CommandFrame) (u : Indeterminate) (line : List Char) :
    CommandFrame × DbCommand :=
  let fr := fr.input L.hdr line
  let fr := sscanf (commandFormatAt L.hdr fr.format0) fr.buf fr
  (fr, if fr.hdr = "*DEBUG*".toList ∧ fr.pastByte L.hdr = '\x00' then
      switchCommand (breakFormatAt L.brk) (dataFormatAt L.data) fr.cmd u fr.buf
    else .badHeader)

/-- The commands the loop reads from its lines, the frame carried from line to line and the
handler's locals `junk k` at line `k`. -/
def parseLinesAt (L : FrameLayout) (fr : CommandFrame) (junk : Nat → Indeterminate) :
    List (List Char) → List DbCommand
  | [] => []
  | line :: lines =>
    let r := lineCommandAt L fr (junk 0) line
    r.2 :: parseLinesAt L r.1 (fun k => junk (k + 1)) lines

section
variable (env : DebugEnv) (fenv : FrameEnv) (opcode : Int) (ip : ByteAddress) (fp : Int)

/-- The loop of `db_process_client_commands` from a round that finds the frame `fr`. -/
def dbServeLinesAt (L : FrameLayout) (fr : CommandFrame) (junk : Nat → Indeterminate)
    (s : DebugState) (lines : List (List Char)) : DbOutcome :=
  dbProcessClientCommands env fenv opcode ip fp s (parseLinesAt L fr junk lines)

/-- A call of `db_process_client_commands(db_opcode, actual_ip, actual_fp)` in a frame laid out
as `L`: `format` initialised, `hdr`, `cmd` and the other bytes as the stack held them (`fr`). -/
def dbProcessClientLinesAt (L : FrameLayout) (fr : CommandFrame) (junk : Nat → Indeterminate)
    (s : DebugState) (lines : List (List Char)) : DbOutcome :=
  dbServeLinesAt env fenv opcode ip fp L { fr with format0 := '%' } junk s lines

end

/-! ### A line with the header `*DEBUG*` -/

@[simp] theorem CommandFrame.input_format0 (fr : CommandFrame) (spill : HdrSpill)
    (line : List Char) : (fr.input spill line).format0 = fr.format0 := by
  cases spill <;> rfl

@[simp] theorem CommandFrame.input_buf (fr : CommandFrame) (spill : HdrSpill)
    (line : List Char) : (fr.input spill line).buf = line.takeWhile (· ≠ '\x00') := by
  cases spill <;> rfl

/-- `%7s` storing `*DEBUG*` fills `hdr` and stores its NUL past it. -/
theorem CommandFrame.storeHdr_debug (spill : HdrSpill) (fr : CommandFrame) :
    fr.storeHdr spill "*DEBUG*".toList =
      ({ fr with hdr := "*DEBUG*".toList, hdr_length := rfl } : CommandFrame).clearPast spill :=
  rfl

/-- With `format` intact, a C string starting `*DEBUG*:` and a letter leaves `*DEBUG*` in `hdr`,
its NUL past it, and the letter in `cmd`. -/
theorem sscanf_commandFormatAt (spill : HdrSpill) {format0 : Char} (hf : format0 ≠ '\x00')
    (fr : CommandFrame) (c : Char) (more : List Char) :
    sscanf (commandFormatAt spill format0) ("*DEBUG*:".toList ++ c :: more) fr =
      { (fr.storeHdr spill "*DEBUG*".toList) with cmd := c } := by
  rw [commandFormatAt, if_neg hf, show "*DEBUG*:".toList ++ c :: more =
      "*DEBUG*".toList ++ ':' :: c :: more from rfl,
    sscanf_cons_of_eq fr (strDir_word 7 "*DEBUG*".toList _ _ (by decide) (by decide) rfl),
    sscanf_cons_of_eq _ (litDir_self _ _), sscanf_cons_of_eq _ (chrDir_cons _ _ _)]
  rfl

section Header
variable {fr : CommandFrame} (u : Indeterminate) {line more : List Char} {c : Char}
  (hbuf : line.takeWhile (· ≠ '\x00') = "*DEBUG*:".toList ++ c :: more)
include hbuf

/-- Where the byte past `hdr` is none of the loop's variables, a line starting `*DEBUG*:` and a
letter goes to that letter's case of the `switch`, the handler scanning the whole line. -/
theorem lineCommandAt_header_benign {L : FrameLayout} (hL : L.hdr.benign)
    (hf : fr.format0 ≠ '\x00') :
    let r := lineCommandAt L fr u line
    r.1.format0 = fr.format0 ∧ r.1.hdr = "*DEBUG*".toList ∧ r.1.cmd = c ∧
      r.2 = switchCommand (breakFormatAt L.brk) (dataFormatAt L.data) c u
        ("*DEBUG*:".toList ++ c :: more) := by
  obtain ⟨spill, brk, data⟩ := L
  cases spill <;> simp only [HdrSpill.benign, Bool.false_eq_true] at hL <;>
    simp only [lineCommandAt, CommandFrame.input_format0, CommandFrame.input_buf, hbuf,
      sscanf_commandFormatAt _ hf _, CommandFrame.storeHdr_debug] <;>
    exact ⟨rfl, rfl, trivial, if_pos ⟨rfl, rfl⟩⟩

end Header

/-! ### The break lines a client prints -/

section Serve
variable (env : DebugEnv) (fenv : FrameEnv) (opcode : Int) (ip : ByteAddress) (fp : Int)

theorem dbServeLinesAt_cons (L : FrameLayout) (fr : CommandFrame) (junk : Nat → Indeterminate)
    (s : DebugState) (line : List Char) (lines : List (List Char)) :
    dbServeLinesAt env fenv opcode ip fp L fr junk s (line :: lines) =
      dbProcessClientCommands env fenv opcode ip fp s ((lineCommandAt L fr (junk 0) line).2 ::
        parseLinesAt L (lineCommandAt L fr (junk 0) line).1 (fun k => junk (k + 1)) lines) :=
  rfl

variable {L : FrameLayout} {fr : CommandFrame} {junk : Nat → Indeterminate} {s : DebugState}
  {line : List Char} {lines : List (List Char)} {subcmd : Char} {bpnum addr : Int}

theorem dbServeLinesAt_break_ok {s' : DebugState}
    (hline : (lineCommandAt L fr (junk 0) line).2 = .breakCmd subcmd bpnum addr)
    (h : dbProcessBreakCmd env subcmd bpnum addr s = .ok s') :
    dbServeLinesAt env fenv opcode ip fp L fr junk s (line :: lines) =
      dbServeLinesAt env fenv opcode ip fp L (lineCommandAt L fr (junk 0) line).1
        (fun k => junk (k + 1)) s' lines := by
  rw [dbServeLinesAt_cons, hline]
  simp only [dbProcessClientCommands, h]
  rfl

theorem dbServeLinesAt_break_error {msg : String}
    (hline : (lineCommandAt L fr (junk 0) line).2 = .breakCmd subcmd bpnum addr)
    (h : dbProcessBreakCmd env subcmd bpnum addr s = .error msg) :
    dbServeLinesAt env fenv opcode ip fp L fr junk s (line :: lines) = .exited [.error msg] := by
  rw [dbServeLinesAt_cons, hline]
  simp only [dbProcessClientCommands, h]

end Serve

section
variable (env : DebugEnv) (fenv : FrameEnv) (opcode : Int) (ip : ByteAddress) (fp : Int)

end

/-- `%Ns` stores at most `width` characters. -/
theorem scanStr_length_le {width : Nat} {cs s r : List Char}
    (h : scanStr width cs = some (s, r)) : s.length ≤ width := by
  simp only [scanStr] at h
  split at h
  · cases h
  · cases h; exact List.length_take_le _ _

/-- Two directives that consume the same input, with assignments that keep `R`. -/
def DirectiveSim {α β : Type} (R : α → β → Prop) (d : Directive α) (e : Directive β) : Prop :=
  ∀ cs, match d cs, e cs with
    | none, none => True
    | some (f, r), some (g, r') => r = r' ∧ ∀ a b, R a b → R (f a) (g b)
    | _, _ => False

/-- Formats whose directives correspond pairwise keep `R` over the whole scan. -/
theorem sscanf_sim {α β : Type} {R : α → β → Prop} {ds : List (Directive α)}
    {es : List (Directive β)} (h : List.Forall₂ (DirectiveSim R) ds es) :
    ∀ (cs : List Char) {a : α} {b : β}, R a b → R (sscanf ds cs a) (sscanf es cs b) := by
  induction h with
  | nil => exact fun _ _ _ hab => hab
  | @cons d e ds es hde _ ih =>
    intro cs a b hab
    have hs := hde cs
    simp only [sscanf]
    cases hd : d cs with
    | none => cases he : e cs <;> simp only [hd, he] at hs ⊢; exact hab
    | some p =>
      cases he : e cs with
      | none => simp only [hd, he] at hs
      | some q =>
        obtain ⟨f, r⟩ := p
        obtain ⟨g, r'⟩ := q
        simp only [hd, he] at hs ⊢
        obtain ⟨rfl, hfg⟩ := hs
        exact ih r (hfg a b hab)

section Sim
variable {α β : Type} {R : α → β → Prop}

theorem strDir_sim {width : Nat} {set : List Char → α → α} {set' : List Char → β → β}
    (h : ∀ s, s.length ≤ width → ∀ a b, R a b → R (set s a) (set' s b)) :
    DirectiveSim R (strDir width set) (strDir width set') := by
  intro cs
  cases hs : scanStr width cs with
  | none => simp only [strDir, hs, Option.map_none']
  | some p =>
    obtain ⟨s, r⟩ := p
    simp only [strDir, hs, Option.map_some']
    exact ⟨trivial, h s (scanStr_length_le hs)⟩

theorem litDir_sim (c : Char) : DirectiveSim R (litDir c) (litDir c) := by
  intro cs
  cases cs with
  | nil => trivial
  | cons x cs =>
    by_cases hx : x = c
    · simp only [litDir, hx, if_true]; exact ⟨trivial, fun _ _ h => h⟩
    · simp only [litDir, hx, if_false]

theorem chrDir_sim {set : Char → α → α} {set' : Char → β → β}
    (h : ∀ c a b, R a b → R (set c a) (set' c b)) : DirectiveSim R (chrDir set) (chrDir set') := by
  intro cs
  cases cs with
  | nil => trivial
  | cons c cs => exact ⟨rfl, h c⟩

end Sim

/-- What the locals of `lineCommand` say of a frame whose `format` is intact: the same `cmd`, and
`hdr` reading as `*DEBUG*` exactly when `strcmp` finds the seven bytes `*DEBUG*` and a NUL past
them. -/
structure CommandFrame.Abstracts (fr : CommandFrame) (vars : CommandVars) : Prop where
  format0 : fr.format0 ≠ '\x00'
  cmd : fr.cmd = vars.cmd
  hdr : fr.hdr = "*DEBUG*".toList ∧ fr.past = '\x00' ↔ vars.hdr = "*DEBUG*".toList

/-- `%7s` storing `s` makes `strcmp` find `*DEBUG*` exactly when `s` is `*DEBUG*`, and writes
nothing else of the frame. -/
theorem CommandFrame.storeHdr_unread {s : List Char} (hs : s.length ≤ 7) (fr : CommandFrame) :
    ((fr.storeHdr .unread s).hdr = "*DEBUG*".toList ∧ (fr.storeHdr .unread s).past = '\x00' ↔
      s = "*DEBUG*".toList) ∧ (fr.storeHdr .unread s).format0 = fr.format0 ∧
      (fr.storeHdr .unread s).cmd = fr.cmd ∧ (fr.storeHdr .unread s).buf = fr.buf := by
  unfold CommandFrame.storeHdr
  split_ifs with h
  · -- the NUL lies inside `hdr`, and no byte of `*DEBUG*` is one
    refine ⟨⟨fun ⟨hh, _⟩ => ?_, fun hs' => absurd (hs' ▸ h) (by decide)⟩, rfl, rfl, rfl⟩
    have hnul := congrArg (·[s.length]?) hh
    simp only [List.getElem?_take_of_lt h, List.getElem?_append_right (le_refl _), Nat.sub_self,
      List.getElem?_cons_zero] at hnul
    exact absurd hnul.symm ((by decide : ∀ i < 7, "*DEBUG*".toList[i]? ≠ some '\x00') _ h)
  · have h7 : s.length = 7 := by omega
    simp only [CommandFrame.clearPast, List.take_left' h7, and_true]

/-- `"%7s:%c"` on the abstract locals and on the frame, as long as the frame's `format` is
intact and the byte past `hdr` unread, keep the locals describing the frame. -/
theorem commandFormat_sim {format0 : Char} (hf : format0 ≠ '\x00') (buf : List Char) :
    List.Forall₂ (DirectiveSim fun (vars : CommandVars) (fr : CommandFrame) =>
        fr.Abstracts vars ∧ fr.buf = buf)
      commandFormat (commandFormatAt .unread format0) := by
  rw [commandFormatAt, if_neg hf, commandFormat]
  refine .cons (strDir_sim fun s hs vars fr ⟨hA, hb⟩ => ?_) (.cons (litDir_sim ':')
    (.cons (chrDir_sim fun c vars fr ⟨hA, hb⟩ => ⟨⟨hA.format0, rfl, hA.hdr⟩, hb⟩) .nil))
  obtain ⟨hhdr, h0, hc, hbuf⟩ := fr.storeHdr_unread hs
  exact ⟨⟨h0 ▸ hA.format0, hc.trans hA.cmd, hhdr⟩, hbuf.trans hb⟩

/-- The handlers' locals `u` after the NUL that a nine-character `%9s` of `buf` stores past their
`hdr`. -/
def Indeterminate.afterHdr (f : BreakVars → BreakVars) (g : DataVars → DataVars)
    (buf : List Char) (u : Indeterminate) : Indeterminate :=
  if (scanStr 9 buf).any (fun r => 9 ≤ r.1.length) then ⟨f u.brk, g u.data⟩ else u

/-- The NUL of `%Ns` past the array, before the scan goes on, is a change of the locals it
starts with. -/
theorem sscanf_strDirSpill {α : Type} (width : Nat) (spill : α → α) (ds : List (Directive α))
    (cs : List Char) (v : α) :
    sscanf (strDirSpill width spill :: ds) cs v = sscanf (strDirSpill width id :: ds) cs
      (if (scanStr width cs).any (fun r => width ≤ r.1.length) then spill v else v) := by
  cases h : scanStr width cs with
  | none => simp [sscanf, strDirSpill, strDir, h]
  | some p =>
    by_cases hp : width ≤ p.1.length
    · simp [sscanf, strDirSpill, strDir, h, hp, Nat.not_lt.2 hp]
    · simp [sscanf, strDirSpill, strDir, h, hp, Nat.lt_of_not_le hp]

/-- The handlers' spills are a change of their indeterminate locals. -/
theorem switchCommand_afterHdr (f : BreakVars → BreakVars) (g : DataVars → DataVars)
    (cmd : Char) (u : Indeterminate) (buf : List Char) :
    switchCommand (breakFormatAt f) (dataFormatAt g) cmd u buf =
      switchCommand breakFormat dataFormat cmd (u.afterHdr f g buf) buf := by
  have hb : sscanf (breakFormatAt f) buf u.brk = sscanf breakFormat buf (u.afterHdr f g buf).brk := by
    rw [breakFormat, breakFormatAt, breakFormatAt, sscanf_strDirSpill, Indeterminate.afterHdr]
    split_ifs <;> rfl
  have hd : sscanf (dataFormatAt g) buf u.data =
      sscanf dataFormat buf (u.afterHdr f g buf).data := by
    rw [dataFormat, dataFormatAt, dataFormatAt, sscanf_strDirSpill, Indeterminate.afterHdr]
    split_ifs <;> rfl
  simp only [switchCommand, hb, hd]

/-- One round with the byte past `hdr` unread reads what `lineCommand` reads from locals that
describe the frame, the handlers' locals changed where their `%9s` spilled, and leaves locals
that describe the new frame. -/
theorem lineCommandAt_unread (f : BreakVars → BreakVars) (g : DataVars → DataVars)
    {fr : CommandFrame} {vars : CommandVars} (h : fr.Abstracts vars) (u : Indeterminate)
    (line : List Char) :
    let u' := u.afterHdr f g (line.takeWhile (· ≠ '\x00'))
    (lineCommandAt ⟨.unread, f, g⟩ fr u line).1.Abstracts (lineCommand vars u' line).1 ∧
      (lineCommandAt ⟨.unread, f, g⟩ fr u line).2 = (lineCommand vars u' line).2 := by
  intro u'
  obtain ⟨hA, hb⟩ := sscanf_sim (commandFormat_sim h.format0 (line.takeWhile (· ≠ '\x00')))
    (line.takeWhile (· ≠ '\x00')) (a := vars) (b := fr.input .unread line)
    ⟨⟨h.format0, h.cmd, h.hdr⟩, rfl⟩
  simp only [lineCommandAt, lineCommand, CommandFrame.input_format0, CommandFrame.input_buf]
  refine ⟨hA, ?_⟩
  rw [hb, switchCommand_afterHdr, CommandFrame.pastByte]
  by_cases hc : (sscanf commandFormat (line.takeWhile (· ≠ '\x00')) vars).hdr = "*DEBUG*".toList
  · rw [if_pos (hA.hdr.2 hc), if_neg (not_not.2 hc), hA.cmd]
  · rw [if_neg (mt hA.hdr.1 hc), if_pos hc]

/-- A run of the loop with the byte past `hdr` unread reads what `parseLines` reads from locals
that describe the frame, each line's handler locals changed where their `%9s` spilled. -/
theorem parseLinesAt_unread (f : BreakVars → BreakVars) (g : DataVars → DataVars) :
    ∀ (lines : List (List Char)) {fr : CommandFrame} {vars : CommandVars}
      (junk : Nat → Indeterminate), fr.Abstracts vars →
      parseLinesAt ⟨.unread, f, g⟩ fr junk lines = parseLines vars
        (fun k => (junk k).afterHdr f g ((lines.getD k []).takeWhile (· ≠ '\x00'))) lines
  | [], _, _, _, _ => rfl
  | line :: lines, fr, vars, junk, h => by
    obtain ⟨h1, h2⟩ := lineCommandAt_unread f g h (junk 0) line
    simp only [parseLinesAt, parseLines, List.getD_cons_zero, List.getD_cons_succ, h2,
      parseLinesAt_unread f g lines (fun k => junk (k + 1)) h1]

section
variable (env : DebugEnv) (fenv : FrameEnv) (opcode : Int) (ip : ByteAddress) (fp : Int)

/-- The loop `dbProcessClientLines`, whose `hdr` holds the string `%7s` stored, is the frame of
`db_process_client_commands` where the byte past `hdr[7]` is padding or a byte of `done`: for
every layout of the handlers' frames and every frame a call starts with, the call does what
`dbProcessClientLines` does from locals that describe that frame, each line's handler locals
changed only where the NUL of the handler's `%9s` landed. -/
theorem dbProcessClientLinesAt_unread (f : BreakVars → BreakVars) (g : DataVars → DataVars)
    (fr : CommandFrame) (vars : CommandVars)
    (hhdr : fr.hdr = "*DEBUG*".toList ∧ fr.past = '\x00' ↔ vars.hdr = "*DEBUG*".toList)
    (hcmd : fr.cmd = vars.cmd) (junk : Nat → Indeterminate) (s : DebugState)
    (lines : List (List Char)) :
    dbProcessClientLinesAt env fenv opcode ip fp ⟨.unread, f, g⟩ fr junk s lines =
      dbProcessClientLines env fenv opcode ip fp vars
        (fun k => (junk k).afterHdr f g ((lines.getD k []).takeWhile (· ≠ '\x00'))) s lines :=
  congrArg (dbProcessClientCommands env fenv opcode ip fp s)
    (parseLinesAt_unread f g lines junk ⟨(by decide : ('%' : Char) ≠ '\x00'), hcmd, hhdr⟩)

end

/-- A frame holding `*DEBUG*`, its NUL and a `B` from an earlier call, and a `B:S` line: the call
does what `dbProcessClientLines` does with `hdr = "*DEBUG*"` and `cmd = 'B'`. -/
theorem dbProcessClientLinesAt_unread_on_set_line :
    let fr : CommandFrame := ⟨[], "*DEBUG*".toList, rfl, '\x00', 'B', '\x00'⟩
    let vars : CommandVars := ⟨"*DEBUG*".toList, 'B'⟩
    let junk : Nat → Indeterminate := fun _ => ⟨⟨'x', 0, 0⟩, ⟨'x', 'x', 0, 0⟩⟩
    let env : DebugEnv := ⟨fun _ => 0, 1, 2, false, true⟩
    let fenv : FrameEnv := ⟨fun _ => 0, 0, 1, fun _ => 0, fun _ => 0, fun _ => 1, 0xDEADBEEF⟩
    (fr.hdr = "*DEBUG*".toList ∧ fr.past = '\x00' ↔ vars.hdr = "*DEBUG*".toList) ∧
      fr.cmd = vars.cmd ∧
      dbProcessClientLinesAt env fenv 0 0 0 ⟨.unread, id, id⟩ fr junk DebugState.zero
          ["*DEBUG*:B:S:3:100\n".toList] =
        dbProcessClientLines env fenv 0 0 0 vars
          (fun k => (junk k).afterHdr id id ((["*DEBUG*:B:S:3:100\n".toList].getD k []).takeWhile
            (· ≠ '\x00'))) DebugState.zero ["*DEBUG*:B:S:3:100\n".toList] := by
  intro fr vars junk env fenv
  exact ⟨by decide, rfl, dbProcessClientLinesAt_unread env fenv 0 0 0 id id fr vars
    (by decide) rfl junk _ _⟩

/-! ### Where the NUL past `hdr` lands on the loop's own variables -/

/-- A round that does not reject its header found `*DEBUG*` in `hdr` and a NUL past it, and went
to the case of the letter in `cmd`, the handler scanning what `buf` then held. -/
theorem lineCommandAt_accepted {L : FrameLayout} {fr : CommandFrame} {u : Indeterminate}
    {line : List Char} (h : (lineCommandAt L fr u line).2 ≠ .badHeader) :
    (lineCommandAt L fr u line).1.hdr = "*DEBUG*".toList ∧
      (lineCommandAt L fr u line).1.pastByte L.hdr = '\x00' ∧
      (lineCommandAt L fr u line).2 = switchCommand (breakFormatAt L.brk) (dataFormatAt L.data)
        (lineCommandAt L fr u line).1.cmd u (lineCommandAt L fr u line).1.buf := by
  simp only [lineCommandAt] at h ⊢
  split_ifs at h ⊢ with hh
  · exact ⟨hh.1, hh.2, rfl⟩
  · exact absurd rfl h

theorem switchCommand_eq_cont {brk : List (Directive BreakVars)} {data : List (Directive DataVars)}
    {cmd : Char} {u : Indeterminate} {buf : List Char}
    (h : switchCommand brk data cmd u buf = .cont) : cmd = 'C' := by
  rcases switchCommand_cases brk data cmd u buf with ⟨-, he⟩ | ⟨hc, -⟩ | ⟨-, he⟩ | ⟨-, -, -, he⟩
  · rw [he] at h; cases h
  · exact hc
  · rw [he] at h; cases h
  · rw [he] at h; cases h

/-- A call that resumes has read a `C`. -/
theorem dbProcessClientCommands_cont_mem {env : DebugEnv} {fenv : FrameEnv} {opcode : Int}
    {ip : ByteAddress} {fp : Int} {out : List DbOutput} {s' : DebugState}
    {rest : List DbCommand} : ∀ {s : DebugState} {cmds : List DbCommand},
      dbProcessClientCommands env fenv opcode ip fp s cmds = .resumed out s' rest → .cont ∈ cmds
  | _, [], h => by cases h
  | s, c :: cs, h => by
    cases c with
    | cont => exact List.mem_cons_self _ _
    | breakCmd subcmd bpnum addr =>
      simp only [dbProcessClientCommands] at h
      split at h
      · cases h
      · exact List.mem_cons_of_mem _ (dbProcessClientCommands_cont_mem h)
    | dataCmd subcmd subsubcmd i1 i2 =>
      simp only [dbProcessClientCommands] at h
      split at h
      · cases h
      · obtain ⟨_, hr, -⟩ := DbOutcome.prepend_eq_resumed h
        exact List.mem_cons_of_mem _ (dbProcessClientCommands_cont_mem hr)
    | other cmd => cases h
    | badHeader => cases h

section Spill
variable (f : BreakVars → BreakVars) (g : DataVars → DataVars)

/-- With `cmd` past `hdr`, `strcmp` accepts a header only when `cmd` holds a NUL, and the
`switch` has no case for it. -/
theorem lineCommandAt_spill_cmd (fr : CommandFrame) (u : Indeterminate) (line : List Char) :
    (lineCommandAt ⟨.cmd, f, g⟩ fr u line).2 = .badHeader ∨
      (lineCommandAt ⟨.cmd, f, g⟩ fr u line).2 = .other '\x00' := by
  by_cases h : (lineCommandAt ⟨.cmd, f, g⟩ fr u line).2 = .badHeader
  · exact .inl h
  · obtain ⟨-, h0, h2⟩ := lineCommandAt_accepted h
    exact .inr (h2.trans (by rw [show (lineCommandAt ⟨.cmd, f, g⟩ fr u line).1.cmd = '\x00' from h0]; rfl))

/-- Once `format` is the empty string, `sscanf` assigns nothing: whatever the line, the round
keeps `hdr` and `cmd` and goes to the case of the letter left in `cmd`. -/
theorem lineCommandAt_format_cleared (f : BreakVars → BreakVars) (g : DataVars → DataVars)
    {fr : CommandFrame} (h0 : fr.format0 = '\x00') (hh : fr.hdr = "*DEBUG*".toList)
    (u : Indeterminate) (line : List Char) :
    lineCommandAt ⟨.format, f, g⟩ fr u line =
      ({ fr with buf := line.takeWhile (· ≠ '\x00') },
        switchCommand (breakFormatAt f) (dataFormatAt g) fr.cmd u
          (line.takeWhile (· ≠ '\x00'))) := by
  simp only [lineCommandAt, CommandFrame.input, commandFormatAt, h0, if_true, sscanf]
  rw [if_pos ⟨hh, rfl⟩]


/-- Once `format` is the empty string, every round of the call goes to the case of the letter
`cmd` held. -/
theorem parseLinesAt_format_cleared : ∀ (lines : List (List Char)) (fr : CommandFrame)
    (junk : Nat → Indeterminate), fr.format0 = '\x00' → fr.hdr = "*DEBUG*".toList →
      .cont ∈ parseLinesAt ⟨.format, f, g⟩ fr junk lines → fr.cmd = 'C'
  | [], _, _, _, _, h => absurd h (List.not_mem_nil _)
  | line :: lines, fr, junk, h0, hh, h => by
    rw [parseLinesAt, lineCommandAt_format_cleared f g h0 hh] at h
    rcases List.mem_cons.mp h with h | h
    · exact switchCommand_eq_cont h.symm
    · exact parseLinesAt_format_cleared lines { fr with buf := line.takeWhile (· ≠ '\x00') }
        (fun k => junk (k + 1)) h0 hh h

/-- `%7s` keeps `buf` or, when its NUL lands there, empties it. -/
theorem sscanf_commandFormatAt_buf (format0 : Char) (cs : List Char) (fr : CommandFrame) :
    (sscanf (commandFormatAt .buf format0) cs fr).buf = fr.buf ∨
      (sscanf (commandFormatAt .buf format0) cs fr).buf = [] := by
  unfold commandFormatAt
  split_ifs
  · exact .inl rfl
  · have hsim : List.Forall₂ (DirectiveSim fun (fr' : CommandFrame) (_ : Unit) =>
          fr'.buf = fr.buf ∨ fr'.buf = [])
        [strDir 7 (CommandFrame.storeHdr .buf), litDir ':', chrDir fun cmd fr => { fr with cmd }]
        [strDir 7 fun _ _ => (), litDir ':', chrDir fun _ _ => ()] :=
      .cons (strDir_sim fun s _ fr' _ h => by
          unfold CommandFrame.storeHdr
          split_ifs
          · exact h
          · exact .inr rfl)
        (.cons (litDir_sim ':') (.cons (chrDir_sim fun _ _ _ h => h) .nil))
    exact sscanf_sim hsim cs (b := ()) (.inl rfl)

theorem takeWhile_ne_nul_headD {line : List Char}
    (h : (line.takeWhile (· ≠ '\x00')).headD '\x00' = '\x00') : line.takeWhile (· ≠ '\x00') = [] := by
  cases line with
  | nil => rfl
  | cons x line =>
    by_cases hx : x = '\x00'
    · simp [hx]
    · simp [List.takeWhile_cons, hx] at h

/-- With `buf[0]` past `hdr`, a header `strcmp` accepts has left `buf` empty. -/
theorem lineCommandAt_spill_buf_empty {fr : CommandFrame} {u : Indeterminate} {line : List Char}
    (h : (lineCommandAt ⟨.buf, f, g⟩ fr u line).2 ≠ .badHeader) :
    (lineCommandAt ⟨.buf, f, g⟩ fr u line).1.buf = [] := by
  obtain ⟨-, h0, -⟩ := lineCommandAt_accepted h
  rcases sscanf_commandFormatAt_buf (fr.input .buf line).format0 (fr.input .buf line).buf
    (fr.input .buf line) with hb | hb
  · rw [CommandFrame.input_buf] at hb
    exact hb.trans (takeWhile_ne_nul_headD (hb ▸ h0))
  · exact hb

/-- With `buf[0]` past `hdr`, the handlers scan the empty string: every `B` or `D` the loop runs
carries the handler's locals as they were. -/
theorem lineCommandAt_spill_buf (fr : CommandFrame) (u : Indeterminate) (line : List Char) :
    (∀ subcmd bpnum addr, (lineCommandAt ⟨.buf, f, g⟩ fr u line).2 = .breakCmd subcmd bpnum addr →
      subcmd = u.brk.subcmd ∧ bpnum = u.brk.bpnum ∧ addr = u.brk.addr) ∧
    (∀ subcmd subsubcmd i1 i2,
      (lineCommandAt ⟨.buf, f, g⟩ fr u line).2 = .dataCmd subcmd subsubcmd i1 i2 →
        subcmd = u.data.subcmd ∧ subsubcmd = u.data.subsubcmd ∧ i1 = u.data.i1 ∧ i2 = u.data.i2) := by
  by_cases hb : (lineCommandAt ⟨.buf, f, g⟩ fr u line).2 = .badHeader
  · rw [hb]
    exact ⟨(fun _ _ _ h => nomatch h), (fun _ _ _ _ h => nomatch h)⟩
  have h2 := (lineCommandAt_accepted hb).2.2
  rw [lineCommandAt_spill_buf_empty f g hb] at h2
  rw [h2]
  rcases switchCommand_cases (breakFormatAt f) (dataFormatAt g)
    (lineCommandAt ⟨.buf, f, g⟩ fr u line).1.cmd u [] with ⟨-, he⟩ | ⟨-, he⟩ | ⟨-, he⟩ | ⟨-, -, -, he⟩ <;>
    rw [he]
  · exact ⟨fun _ _ _ h => by cases h; exact ⟨rfl, rfl, rfl⟩, (fun _ _ _ _ h => nomatch h)⟩
  · exact ⟨(fun _ _ _ h => nomatch h), (fun _ _ _ _ h => nomatch h)⟩
  · exact ⟨(fun _ _ _ h => nomatch h), fun _ _ _ _ h => by cases h; exact ⟨rfl, rfl, rfl, rfl⟩⟩
  · exact ⟨(fun _ _ _ h => nomatch h), (fun _ _ _ _ h => nomatch h)⟩

variable (env : DebugEnv) (fenv : FrameEnv) (opcode : Int) (ip : ByteAddress) (fp : Int)

/-- With `cmd` past `hdr`, every call ends the process on its first line. -/
theorem dbProcessClientLinesAt_spill_cmd (fr : CommandFrame) (junk : Nat → Indeterminate)
    (s : DebugState) (lines : List (List Char)) :
    ∃ out, dbProcessClientLinesAt env fenv opcode ip fp ⟨.cmd, f, g⟩ fr junk s lines = .exited out := by
  cases lines with
  | nil => exact ⟨_, rfl⟩
  | cons line lines =>
    rw [dbProcessClientLinesAt, dbServeLinesAt_cons]
    rcases lineCommandAt_spill_cmd f g { fr with format0 := '%' } (junk 0) line with h | h <;>
      rw [h] <;> exact ⟨_, rfl⟩

/-- With `format[0]` past `hdr`, where `gcc -O0` puts it, the first header `strcmp` accepts
empties `format`, and every later round of the call goes to the same case whatever its line
holds: a call resumes only when its first line reads as a `C`, having printed nothing and
changed nothing. -/
theorem dbProcessClientLinesAt_spill_format (fr : CommandFrame) (junk : Nat → Indeterminate)
    (s : DebugState) (lines : List (List Char)) {out : List DbOutput} {s' : DebugState}
    {rest : List DbCommand}
    (h : dbProcessClientLinesAt env fenv opcode ip fp ⟨.format, f, g⟩ fr junk s lines =
      .resumed out s' rest) :
    ∃ line more, lines = line :: more ∧
      (lineCommandAt ⟨.format, f, g⟩ { fr with format0 := '%' } (junk 0) line).2 = .cont ∧
      out = [] ∧ s' = s := by
  cases lines with
  | nil => cases h
  | cons line more =>
    rw [dbProcessClientLinesAt, dbServeLinesAt_cons] at h
    have hcont : (lineCommandAt ⟨.format, f, g⟩ { fr with format0 := '%' } (junk 0) line).2 = .cont := by
      by_cases hb : (lineCommandAt ⟨.format, f, g⟩ { fr with format0 := '%' } (junk 0) line).2 = .badHeader
      · rw [hb] at h; cases h
      obtain ⟨hh, h0, h2⟩ := lineCommandAt_accepted hb
      rcases List.mem_cons.mp (dbProcessClientCommands_cont_mem h) with hm | hm
      · exact hm.symm
      · rw [h2, parseLinesAt_format_cleared f g more _ _ h0 hh hm]
        rfl
    rw [hcont] at h
    cases h
    exact ⟨line, more, rfl, hcont, rfl, rfl⟩

end Spill

section
variable (env : DebugEnv) (fenv : FrameEnv) (opcode : Int) (ip : ByteAddress) (fp : Int)

/-- Where the compiler puts one of the loop's own variables past `hdr[7]`, the NUL that `%7s`
stores after `*DEBUG*` breaks the protocol, whatever the handlers' frames: with `cmd` there
every call ends the process; with `format[0]` there, as `gcc -O0` lays the frame out, a call
resumes only on a first line that reads as `C`, having printed and changed nothing, so no `B`
or `D` line is ever followed by a resumption; and with `buf[0]` there the handlers scan the
empty string, so a `B` or `D` runs on its locals as they were. -/
theorem dbProcessClientLinesAt_overflowed_hdr (f : BreakVars → BreakVars)
    (g : DataVars → DataVars) :
    (∀ fr junk s lines, ∃ out,
      dbProcessClientLinesAt env fenv opcode ip fp ⟨.cmd, f, g⟩ fr junk s lines = .exited out) ∧
    (∀ fr junk s lines out s' rest,
      dbProcessClientLinesAt env fenv opcode ip fp ⟨.format, f, g⟩ fr junk s lines =
          .resumed out s' rest →
        ∃ line more, lines = line :: more ∧
          (lineCommandAt ⟨.format, f, g⟩ { fr with format0 := '%' } (junk 0) line).2 = .cont ∧
          out = [] ∧ s' = s) ∧
    ∀ fr u line,
      (∀ subcmd bpnum addr, (lineCommandAt ⟨.buf, f, g⟩ fr u line).2 = .breakCmd subcmd bpnum addr →
        subcmd = u.brk.subcmd ∧ bpnum = u.brk.bpnum ∧ addr = u.brk.addr) ∧
      (∀ subcmd subsubcmd i1 i2,
        (lineCommandAt ⟨.buf, f, g⟩ fr u line).2 = .dataCmd subcmd subsubcmd i1 i2 →
          subcmd = u.data.subcmd ∧ subsubcmd = u.data.subsubcmd ∧ i1 = u.data.i1 ∧
            i2 = u.data.i2) :=
  ⟨dbProcessClientLinesAt_spill_cmd f g env fenv opcode ip fp,
    fun fr junk s lines _ _ _ h => dbProcessClientLinesAt_spill_format f g env fenv opcode ip fp
      fr junk s lines h,
    lineCommandAt_spill_buf f g⟩

end

/-- At `gcc -O0`, a call whose first line is `C` resumes at once, and a call whose first line is
a `B:S` never resumes: the `C` after it is read as another `B` line. -/
theorem dbProcessClientLinesAt_overflowed_hdr_at_O0 :
    let fr : CommandFrame := ⟨[], "*DEBUG*".toList, rfl, '\x00', 'C', '%'⟩
    let junk : Nat → Indeterminate := fun _ => ⟨⟨'x', 0, 0⟩, ⟨'x', 'x', 0, 0⟩⟩
    let env : DebugEnv := ⟨fun _ => 0, 1, 2, false, true⟩
    let fenv : FrameEnv := ⟨fun _ => 0, 0, 1, fun _ => 0, fun _ => 0, fun _ => 1, 0xDEADBEEF⟩
    dbProcessClientLinesAt env fenv 0 0 0 ⟨.format, id, id⟩ fr junk DebugState.zero
        ["*DEBUG*:C\n".toList] = .resumed [] DebugState.zero [] ∧
      (lineCommandAt ⟨.format, id, id⟩ { fr with format0 := '%' } (junk 0) "*DEBUG*:C\n".toList).2 =
        .cont ∧
      ∀ out s' rest, dbProcessClientLinesAt env fenv 0 0 0 ⟨.format, id, id⟩ fr junk DebugState.zero
        ["*DEBUG*:B:S:3:100\n".toList, "*DEBUG*:C\n".toList] ≠ .resumed out s' rest := by
  intro fr junk env fenv
  have hC : dbProcessClientLinesAt env fenv 0 0 0 ⟨.format, id, id⟩ fr junk DebugState.zero
      ["*DEBUG*:C\n".toList] = .resumed [] DebugState.zero [] := rfl
  have hB : (lineCommandAt ⟨.format, id, id⟩ { fr with format0 := '%' } (junk 0)
      "*DEBUG*:B:S:3:100\n".toList).2 ≠ .cont := by decide
  obtain ⟨_, _, h, hc, -⟩ := (dbProcessClientLinesAt_overflowed_hdr env fenv 0 0 0 id id).2.1 fr junk
    DebugState.zero _ _ _ _ hC
  cases h
  refine ⟨hC, hc, fun out s' rest hr => ?_⟩
  obtain ⟨_, _, h, hb, -⟩ := (dbProcessClientLinesAt_overflowed_hdr env fenv 0 0 0 id id).2.1 fr junk
    DebugState.zero _ out s' rest hr
  cases h
  exact hB hb

/-! ### The lines a client prints -/

/-- The line a client prints for the command `c`: the header, the letter, the fields the
handler's format scans, and a newline. A client prints no bad header; an empty line stands for
it. -/
def clientLine : DbCommand → List Char
  | .breakCmd subcmd bpnum addr => "*DEBUG*:".toList ++ 'B' :: ':' :: subcmd :: ':' ::
      ((toString bpnum).toList ++ ':' :: ((toString addr).toList ++ ['\n']))
  | .cont => "*DEBUG*:".toList ++ ['C', '\n']
  | .dataCmd subcmd subsubcmd i1 i2 => "*DEBUG*:".toList ++ 'D' :: ':' :: subcmd :: ':' ::
      subsubcmd :: ':' :: ((toString i1).toList ++ ',' :: ((toString i2).toList ++ ['\n']))
  | .other cmd => "*DEBUG*:".toList ++ [cmd, '\n']
  | .badHeader => ['\n']

/-- An `int` of the debugger's 32-bit targets. -/
def IntRange (n : Int) : Prop := -2 ^ 31 ≤ n ∧ n ≤ INT_MAX

instance : DecidablePred IntRange := fun _ => inferInstanceAs (Decidable (_ ∧ _))

/-- The commands a client can print as a line: fields that are line characters and 32-bit
`int`s, for `other` a letter of no case of the `switch`, and no bad header. -/
def DbCommand.Printable : DbCommand → Prop
  | .breakCmd subcmd bpnum addr => LineChar subcmd ∧ IntRange bpnum ∧ IntRange addr
  | .cont => True
  | .dataCmd subcmd subsubcmd i1 i2 =>
    LineChar subcmd ∧ LineChar subsubcmd ∧ IntRange i1 ∧ IntRange i2
  | .other cmd => LineChar cmd ∧ cmd ≠ 'B' ∧ cmd ≠ 'C' ∧ cmd ≠ 'D'
  | .badHeader => False

instance : DecidablePred DbCommand.Printable
  | .breakCmd .. => inferInstanceAs (Decidable (_ ∧ _ ∧ _))
  | .cont => inferInstanceAs (Decidable True)
  | .dataCmd .. => inferInstanceAs (Decidable (_ ∧ _ ∧ _ ∧ _))
  | .other _ => inferInstanceAs (Decidable (_ ∧ _ ∧ _ ∧ _))
  | .badHeader => inferInstanceAs (Decidable False)

/-- A printed line is a body of fewer than 99 line characters and its newline. -/
theorem clientLine_body {c : DbCommand} (hc : c.Printable) :
    ∃ body, clientLine c = body ++ ['\n'] ∧ (∀ x ∈ body, LineChar x) ∧ body.length < 99 := by
  have hhead : "*DEBUG*:".toList.length = 8 := rfl
  cases c with
  | breakCmd subcmd bpnum addr =>
    obtain ⟨hs, ⟨hn0, hn1⟩, ⟨ha0, ha1⟩⟩ := hc
    refine ⟨"*DEBUG*:".toList ++ 'B' :: ':' :: subcmd :: ':' ::
      ((toString bpnum).toList ++ ':' :: (toString addr).toList), by simp [clientLine], ?_, ?_⟩
    · simp only [List.forall_mem_append, List.forall_mem_cons]
      exact ⟨by decide, by decide, by decide, hs, by decide, toString_lineChar _, by decide,
        toString_lineChar _⟩
    · have := toString_length_le hn0 hn1
      have := toString_length_le ha0 ha1
      simp only [List.length_append, List.length_cons, hhead]
      omega
  | cont => exact ⟨"*DEBUG*:C".toList, rfl, by decide, by decide⟩
  | dataCmd subcmd subsubcmd i1 i2 =>
    obtain ⟨hs, hss, ⟨h10, h11⟩, ⟨h20, h21⟩⟩ := hc
    refine ⟨"*DEBUG*:".toList ++ 'D' :: ':' :: subcmd :: ':' :: subsubcmd :: ':' ::
      ((toString i1).toList ++ ',' :: (toString i2).toList), by simp [clientLine], ?_, ?_⟩
    · simp only [List.forall_mem_append, List.forall_mem_cons]
      exact ⟨by decide, by decide, by decide, hs, by decide, hss, by decide, toString_lineChar _,
        by decide, toString_lineChar _⟩
    · have := toString_length_le h10 h11
      have := toString_length_le h20 h21
      simp only [List.length_append, List.length_cons, hhead]
      omega
  | other cmd =>
    refine ⟨"*DEBUG*:".toList ++ [cmd], by simp [clientLine], ?_, by simp [hhead]⟩
    simp only [List.forall_mem_append, List.forall_mem_singleton]
    exact ⟨by decide, hc.1⟩
  | badHeader => exact hc.elim

/-- In a frame whose `format` is intact and where the byte past `hdr` is none of the loop's
variables, the loop reads a printed line back as the command printed, whatever the frame and the
handler's locals hold and whatever the handlers' `%9s` does past their `hdr`. -/
theorem lineCommandAt_clientLine {L : FrameLayout} (hL : L.hdr.benign) {fr : CommandFrame}
    (hf : fr.format0 ≠ '\x00') (u : Indeterminate) {c : DbCommand} (hc : c.Printable) :
    (lineCommandAt L fr u (clientLine c)).1.format0 = fr.format0 ∧
      (lineCommandAt L fr u (clientLine c)).2 = c := by
  obtain ⟨body, hb, hchars, -⟩ := clientLine_body hc
  have hcut : (clientLine c).takeWhile (· ≠ '\x00') = clientLine c := by
    rw [hb, takeWhile_ne_nul_append _ fun x hx => (hchars x hx).1]
    rfl
  cases c with
  | breakCmd subcmd bpnum addr =>
    obtain ⟨-, ⟨hn0, hn1⟩, ⟨ha0, ha1⟩⟩ := hc
    obtain ⟨h0, -, -, hr⟩ := lineCommandAt_header_benign u hcut hL hf
    exact ⟨h0, hr.trans (switchCommand_break
      (sscanf_breakFormatAt L.brk subcmd hn0 hn1 ha0 ha1 (EndsNumeral.cons (by decide) []) u.brk))⟩
  | cont =>
    obtain ⟨h0, -, -, hr⟩ := lineCommandAt_header_benign u hcut hL hf
    exact ⟨h0, hr⟩
  | dataCmd subcmd subsubcmd i1 i2 =>
    obtain ⟨-, -, ⟨h10, h11⟩, ⟨h20, h21⟩⟩ := hc
    obtain ⟨h0, -, -, hr⟩ := lineCommandAt_header_benign u hcut hL hf
    exact ⟨h0, hr.trans (switchCommand_data (sscanf_dataFormatAt L.data subcmd subsubcmd h10 h11
      h20 h21 (EndsNumeral.cons (by decide) []) u.data))⟩
  | other cmd =>
    obtain ⟨-, hB, hC, hD⟩ := hc
    obtain ⟨h0, -, -, hr⟩ := lineCommandAt_header_benign u hcut hL hf
    rcases switchCommand_cases (breakFormatAt L.brk) (dataFormatAt L.data) cmd u (clientLine (.other cmd))
      with ⟨h, -⟩ | ⟨h, -⟩ | ⟨h, -⟩ | ⟨-, -, -, he⟩
    · exact absurd h hB
    · exact absurd h hC
    · exact absurd h hD
    · exact ⟨h0, hr.trans he⟩
  | badHeader => exact hc.elim

/-- The loop reads printed lines back, one command per line. -/
theorem parseLinesAt_clientLines {L : FrameLayout} (hL : L.hdr.benign) :
    ∀ {cmds : List DbCommand}, (∀ c ∈ cmds, c.Printable) → ∀ {fr : CommandFrame},
      fr.format0 ≠ '\x00' → ∀ junk, parseLinesAt L fr junk (cmds.map clientLine) = cmds
  | [], _, _, _, _ => rfl
  | c :: cmds, hp, fr, hf, junk => by
    obtain ⟨h0, h2⟩ := lineCommandAt_clientLine hL hf (junk 0) (hp c (List.mem_cons_self c cmds))
    simp only [List.map_cons, parseLinesAt, h2, parseLinesAt_clientLines hL
      (fun c' hc' => hp c' (List.mem_cons_of_mem c hc')) (h0.trans_ne hf) (fun k => junk (k + 1))]

/-- `db_input` returns a body of fewer than 99 characters and no newline, and its newline, as one
line. -/
theorem dbInputLines_line {body : List Char} (hb : ∀ x ∈ body, x ≠ '\n') (rest : List Char) :
    ∀ {cur : List Char}, cur.length + body.length < 99 →
      dbInputLines cur (body ++ '\n' :: rest) =
        (cur.reverse ++ body ++ ['\n']) :: dbInputLines [] rest := by
  induction body with
  | nil => intro cur _; simp [dbInputLines]
  | cons x body ih =>
    intro cur hlen
    simp only [List.length_cons] at hlen
    rw [List.cons_append, dbInputLines, if_neg (not_or.2 ⟨hb x (List.mem_cons_self x body), by omega⟩),
      ih (fun y hy => hb y (List.mem_cons_of_mem x hy)) (by simp only [List.length_cons]; omega)]
    simp

/-- The text a client prints for printable commands comes back from `db_input` line by line. -/
theorem dbInputLines_clientLines : ∀ {cmds : List DbCommand}, (∀ c ∈ cmds, c.Printable) →
    dbInputLines [] (cmds.map clientLine).flatten = cmds.map clientLine
  | [], _ => rfl
  | c :: cmds, hp => by
    obtain ⟨body, hb, hchars, hlen⟩ := clientLine_body (hp c (List.mem_cons_self c cmds))
    rw [List.map_cons, List.flatten_cons, hb, List.append_assoc, List.singleton_append,
      dbInputLines_line (fun x hx => (hchars x hx).2) _ (by simpa using hlen),
      dbInputLines_clientLines fun c' hc' => hp c' (List.mem_cons_of_mem c hc')]
    simp

/-- The lines `lines` read as the commands `cmds` in frames laid out as `L`: a call of
`db_process_client_commands` that starts at any of the lines, whatever its frame and its
handlers' locals hold, reads the commands from that place on. -/
def ReadsAs (L : FrameLayout) (lines : List (List Char)) (cmds : List DbCommand) : Prop :=
  ∀ k (fr : CommandFrame) junk,
    parseLinesAt L { fr with format0 := '%' } junk (lines.drop k) = cmds.drop k

/-- The text a client prints for printable commands, split into lines by `db_input`, reads as
those commands in every frame where the byte past `hdr` is none of the loop's variables. -/
theorem readsAs_clientText {L : FrameLayout} (hL : L.hdr.benign) {cmds : List DbCommand}
    (hp : ∀ c ∈ cmds, c.Printable) :
    ReadsAs L (dbInputLines [] (cmds.map clientLine).flatten) cmds := by
  intro k fr junk
  rw [dbInputLines_clientLines hp, ← List.map_drop]
  exact parseLinesAt_clientLines hL (fun c hc => hp c (List.mem_of_mem_drop hc))
    (show ('%' : Char) ≠ '\x00' by decide) junk

/-- Each call on lines that read as `cmds` is the loop on the commands. -/
theorem dbProcessClientLinesAt_of_readsAs {env : DebugEnv} {fenv : FrameEnv} {opcode : Int}
    {ip : ByteAddress} {fp : Int} {L : FrameLayout} {lines : List (List Char)}
    {cmds : List DbCommand} (h : ReadsAs L lines cmds) (k : Nat) (fr : CommandFrame)
    (junk : Nat → Indeterminate) (s : DebugState) :
    dbProcessClientLinesAt env fenv opcode ip fp L fr junk s (lines.drop k) =
      dbProcessClientCommands env fenv opcode ip fp s (cmds.drop k) :=
  congrArg (dbProcessClientCommands env fenv opcode ip fp s) (h k fr junk)

end SquawkVM
