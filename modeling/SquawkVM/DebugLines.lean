import SquawkVM.DebugProtocol
import SquawkVM.Machine
import Mathlib.Data.Nat.Digits

/-! The lines the low-level debugger reads (`debug.c`), scanned as `sscanf` does: a scan stops at
the first directive that does not match, and the later conversions' locals keep what they held. -/

namespace SquawkVM

/-! ### The conversions of `sscanf` -/

/-- `isspace` in the `"C"` locale. -/
def isSpace (c : Char) : Bool :=
  c = ' ' || c = '\t' || c = '\n' || c = '\x0b' || c = '\x0c' || c = '\r'

/-- The value of `c` as a digit of `strtol`, and `16` for a character that is no digit of a
base up to `16`. -/
def digitVal (c : Char) : Nat :=
  if '0' ≤ c ∧ c ≤ '9' then c.toNat - '0'.toNat
  else if 'a' ≤ c ∧ c ≤ 'f' then c.toNat - 'a'.toNat + 10
  else if 'A' ≤ c ∧ c ≤ 'F' then c.toNat - 'A'.toNat + 10
  else 16

/-- The digits of base `base` at the front of `cs`, most significant first: their value and
what follows them; `none` if there is none. -/
def scanDigits (base : Nat) (cs : List Char) : Option (Nat × List Char) :=
  let ds := cs.takeWhile (digitVal · < base)
  if ds = [] then none
  else some (ds.foldl (fun n c => n * base + digitVal c) 0, cs.dropWhile (digitVal · < base))

/-- The subject sequence of `strtol` with base `0` after the sign: hexadecimal after `0x` or
`0X`, octal after another leading `0`, decimal otherwise. A `0x` with no hexadecimal digit after
it is a matching failure of `%i`. -/
def scanMagnitude (cs : List Char) : Option (Nat × List Char) :=
  match cs with
  | '0' :: x :: r => if x = 'x' ∨ x = 'X' then scanDigits 16 r else scanDigits 8 cs
  | _ => scanDigits 10 cs

/-- The `int` that `%i` stores for the value `v`: the `long` of `strtol`, which saturates at the
bounds of a 32-bit `long`, the `long` of the debugger's 32-bit targets. -/
def clampInt (v : Int) : Int := max (-2 ^ 31) (min v INT_MAX)

/-- `%i`: white space skipped, an optional sign, then the number. -/
def scanInt (cs : List Char) : Option (Int × List Char) :=
  match cs.dropWhile isSpace with
  | '-' :: r => (scanMagnitude r).map fun m => (clampInt (-m.1), m.2)
  | '+' :: r => (scanMagnitude r).map fun m => (clampInt m.1, m.2)
  | r => (scanMagnitude r).map fun m => (clampInt m.1, m.2)

/-- `%Ns`: white space skipped, then the characters up to the next white space, at most
`width` of them and at least one. -/
def scanStr (width : Nat) (cs : List Char) : Option (List Char × List Char) :=
  let s := ((cs.dropWhile isSpace).takeWhile (!isSpace ·)).take width
  if s = [] then none else some (s, (cs.dropWhile isSpace).drop s.length)

/-- A directive of a format on the variables `α` that its conversions assign: on a match, the
assignment and the input after it; `none` where the scan stops. -/
abbrev Directive (α : Type) := List Char → Option ((α → α) × List Char)

/-- An ordinary character of the format: the next input character must be it. -/
def litDir {α : Type} (c : Char) : Directive α
  | x :: cs => if x = c then some (id, cs) else none
  | [] => none

/-- `%Ns` into the variable `set` assigns. -/
def strDir {α : Type} (width : Nat) (set : List Char → α → α) : Directive α := fun cs =>
  (scanStr width cs).map fun r => (set r.1, r.2)

/-- `%c` into the variable `set` assigns: the next character, white space included. -/
def chrDir {α : Type} (set : Char → α → α) : Directive α
  | c :: cs => some (set c, cs)
  | [] => none

/-- `%i` into the variable `set` assigns. -/
def intDir {α : Type} (set : Int → α → α) : Directive α := fun cs =>
  (scanInt cs).map fun r => (set r.1, r.2)

/-- `sscanf(buf, format, ...)` on the variables `v` its arguments point to: the directives run
in order until one fails, and the variables of the conversions that did not run keep their
values. The count it returns is read by no caller. -/
def sscanf {α : Type} : List (Directive α) → List Char → α → α
  | [], _, v => v
  | d :: ds, cs, v => match d cs with
    | none => v
    | some (f, cs) => sscanf ds cs (f v)

/-! ### The lines of `db_process_client_commands` -/

/-- The locals `hdr` and `cmd` of `db_process_client_commands`. They are declared before its
loop, so they keep their values from one line to the next, and before the first `sscanf`
assigns them they hold whatever the stack held. -/
structure CommandVars where
  hdr : List Char
  cmd : Char
  deriving DecidableEq, Repr

/-- The locals `subcmd`, `bpnum` and `addr` of `db_process_break_cmd`. -/
structure BreakVars where
  subcmd : Char
  bpnum : Int
  addr : Int
  deriving DecidableEq, Repr

/-- The locals `subcmd`, `subsubcmd`, `i1` and `i2` of `db_process_data_cmd`. -/
structure DataVars where
  subcmd : Char
  subsubcmd : Char
  i1 : Int
  i2 : Int
  deriving DecidableEq, Repr

/-- What the locals of a command handler hold when it is called: indeterminate values, over
which every statement quantifies. -/
structure Indeterminate where
  brk : BreakVars
  data : DataVars
  deriving DecidableEq, Repr

/-- `"%7s:%c"` into `hdr` and `cmd`. -/
def commandFormat : List (Directive CommandVars) :=
  [strDir 7 fun hdr v => { v with hdr }, litDir ':', chrDir fun cmd v => { v with cmd }]

/-- `%Ns` into a `char[N]` that nothing reads: the NUL that ends a string of `width` characters
lands past the array, with the effect `spill` on the other locals. -/
def strDirSpill {α : Type} (width : Nat) (spill : α → α) : Directive α :=
  strDir width fun s v => if s.length < width then v else spill v

/-- `"%9s:%c:%i:%i"` into `hdr`, `subcmd`, `bpnum` and `addr`, the NUL past `hdr[9]` doing
`spill`. -/
def breakFormatAt (spill : BreakVars → BreakVars) : List (Directive BreakVars) :=
  [strDirSpill 9 spill, litDir ':', chrDir fun subcmd v => { v with subcmd }, litDir ':',
    intDir fun bpnum v => { v with bpnum }, litDir ':', intDir fun addr v => { v with addr }]

/-- `"%9s:%c:%c:%i,%i"` into `hdr`, `subcmd`, `subsubcmd`, `i1` and `i2`, the NUL past `hdr[9]`
doing `spill`. -/
def dataFormatAt (spill : DataVars → DataVars) : List (Directive DataVars) :=
  [strDirSpill 9 spill, litDir ':', chrDir fun subcmd v => { v with subcmd }, litDir ':',
    chrDir fun subsubcmd v => { v with subsubcmd }, litDir ':', intDir fun i1 v => { v with i1 },
    litDir ',', intDir fun i2 v => { v with i2 }]

/-- The break handler's format where the byte past its `hdr` is read by nothing. -/
def breakFormat : List (Directive BreakVars) := breakFormatAt id

/-- The data handler's format where the byte past its `hdr` is read by nothing. -/
def dataFormat : List (Directive DataVars) := dataFormatAt id

/-- The `switch (cmd)` of the command loop once `strcmp` has accepted the header: the handler's
`sscanf` of `buf` with the format `brk` or `data` into its locals `u`. -/
def switchCommand (brk : List (Directive BreakVars)) (data : List (Directive DataVars))
    (cmd : Char) (u : Indeterminate) (buf : List Char) : DbCommand :=
  match cmd with
  | 'B' => let b := sscanf brk buf u.brk; .breakCmd b.subcmd b.bpnum b.addr
  | 'C' => .cont
  | 'D' => let d := sscanf data buf u.data; .dataCmd d.subcmd d.subsubcmd d.i1 d.i2
  | cmd => .other cmd

/-- The four cases of the `switch`, with what each hands on. -/
theorem switchCommand_cases (brk : List (Directive BreakVars)) (data : List (Directive DataVars))
    (cmd : Char) (u : Indeterminate) (buf : List Char) :
    (cmd = 'B' ∧ switchCommand brk data cmd u buf = .breakCmd (sscanf brk buf u.brk).subcmd
        (sscanf brk buf u.brk).bpnum (sscanf brk buf u.brk).addr) ∨
      (cmd = 'C' ∧ switchCommand brk data cmd u buf = .cont) ∨
      (cmd = 'D' ∧ switchCommand brk data cmd u buf = .dataCmd (sscanf data buf u.data).subcmd
        (sscanf data buf u.data).subsubcmd (sscanf data buf u.data).i1
        (sscanf data buf u.data).i2) ∨
      (cmd ≠ 'B' ∧ cmd ≠ 'C' ∧ cmd ≠ 'D' ∧ switchCommand brk data cmd u buf = .other cmd) := by
  unfold switchCommand
  split
  · exact .inl ⟨rfl, rfl⟩
  · exact .inr (.inl ⟨rfl, rfl⟩)
  · exact .inr (.inr (.inl ⟨rfl, rfl⟩))
  · next hB hC hD => exact .inr (.inr (.inr ⟨hB, hC, hD, rfl⟩))

theorem switchCommand_break {brk : List (Directive BreakVars)} {data : List (Directive DataVars)}
    {u : Indeterminate} {buf : List Char} {b : BreakVars} (h : sscanf brk buf u.brk = b) :
    switchCommand brk data 'B' u buf = .breakCmd b.subcmd b.bpnum b.addr :=
  congrArg (fun b : BreakVars => DbCommand.breakCmd b.subcmd b.bpnum b.addr) h

theorem switchCommand_data {brk : List (Directive BreakVars)} {data : List (Directive DataVars)}
    {u : Indeterminate} {buf : List Char} {d : DataVars} (h : sscanf data buf u.data = d) :
    switchCommand brk data 'D' u buf = .dataCmd d.subcmd d.subsubcmd d.i1 d.i2 :=
  congrArg (fun d : DataVars => DbCommand.dataCmd d.subcmd d.subsubcmd d.i1 d.i2) h

/-- One round of the loop of `db_process_client_commands` up to its `switch`, with `hdr` held as
the string `%7s` stored: the C string in `buf` (the line up to a NUL), what `"%7s:%c"` leaves in
`hdr` and `cmd`, and the command these select. This is the loop in a frame where the byte past
`hdr[7]` is read by nothing (`lineCommandAt_unread`). -/
def lineCommand (vars : CommandVars) (u : Indeterminate) (line : List Char) :
    CommandVars × DbCommand :=
  let buf := line.takeWhile (· ≠ '\x00')
  let vars := sscanf commandFormat buf vars
  (vars, if vars.hdr ≠ "*DEBUG*".toList then .badHeader
    else switchCommand breakFormat dataFormat vars.cmd u buf)

example (v : CommandVars) (u : Indeterminate) :
    lineCommand v u "*DEBUG*:B:S:3:100\n".toList =
      (⟨"*DEBUG*".toList, 'B'⟩, .breakCmd 'S' 3 100) := by
  rfl

example (v : CommandVars) (u : Indeterminate) :
    lineCommand v u "*DEBUG*:D:G:M:0x10,-7\n".toList =
      (⟨"*DEBUG*".toList, 'D'⟩, .dataCmd 'G' 'M' 16 (-7)) := by
  rfl

/-- The commands a call of `db_process_client_commands` reads from its lines, with `hdr` and
`cmd` carried from line to line and the handler's locals `junk k` at line `k`. -/
def parseLines (vars : CommandVars) (junk : Nat → Indeterminate) :
    List (List Char) → List DbCommand
  | [] => []
  | line :: lines =>
    let r := lineCommand vars (junk 0) line
    r.2 :: parseLines r.1 (fun k => junk (k + 1)) lines

/-- The lines that `db_input(buf, 100)`, `fgets` into 100 characters, returns in turn from the
text of `stdin`: each ends after a newline or at 99 characters, and the last may end at the end
of the text. `cur` is the line read so far, reversed. -/
def dbInputLines (cur : List Char) : List Char → List (List Char)
  | [] => if cur = [] then [] else [cur.reverse]
  | c :: cs =>
    if c = '\n' ∨ cur.length + 1 = 99 then (c :: cur).reverse :: dbInputLines [] cs
    else dbInputLines (c :: cur) cs

example : dbInputLines [] "ab\ncd".toList = ["ab\n".toList, "cd".toList] := by decide

section
variable (env : DebugEnv) (fenv : FrameEnv) (opcode : Int) (ip : ByteAddress) (fp : Int)

/-- One call of `db_process_client_commands(db_opcode, actual_ip, actual_fp)` on the lines it
reads, `hdr` and `cmd` holding `vars` when it starts. The loop stops at the first line that
ends the process or continues; what the remaining lines would parse to is read by nothing. -/
def dbProcessClientLines (vars : CommandVars) (junk : Nat → Indeterminate) (s : DebugState)
    (lines : List (List Char)) : DbOutcome :=
  dbProcessClientCommands env fenv opcode ip fp s (parseLines vars junk lines)

end

/-! ### Scanning what the client prints -/

/-- What may follow a numeral that `%i` reads to its end: no decimal digit, and no `x` that
would turn a lone `0` into a hexadecimal prefix. -/
def EndsNumeral (rest : List Char) : Prop := ∀ c ∈ rest.head?, 10 ≤ digitVal c ∧ c ≠ 'x' ∧ c ≠ 'X'

/-- What `Nat.digitChar` prints for a decimal digit `k`: a character of value `k` that is no
white space, sign or NUL, and no `0` unless `k` is. -/
theorem digitChar_facts : ∀ k < 10, digitVal (Nat.digitChar k) = k ∧
    isSpace (Nat.digitChar k) = false ∧ Nat.digitChar k ≠ '-' ∧ Nat.digitChar k ≠ '+' ∧
    Nat.digitChar k ≠ '\x00' ∧ (0 < k → Nat.digitChar k ≠ '0') := by
  decide

/-- The digits `toString` prints for `n`, most significant first: no leading `0` unless `n`
is `0`, and their decimal value is `n`. -/
theorem toDigitsCore_spec : ∀ fuel n (ds : List Char), n < fuel → ∃ ks : List Nat,
    Nat.toDigitsCore 10 fuel n ds = ks.map Nat.digitChar ++ ds ∧ ks ≠ [] ∧ (∀ k ∈ ks, k < 10) ∧
      (ks.map Nat.digitChar).foldl (fun n c => n * 10 + digitVal c) 0 = n ∧
      (0 < n → ks.head? ≠ some 0)
  | 0, n, _, h => absurd h (Nat.not_lt_zero n)
  | fuel + 1, n, ds, h => by
    have hk : n % 10 < 10 := Nat.mod_lt _ (by decide)
    have hd := (digitChar_facts _ hk).1
    rw [Nat.toDigitsCore]
    split
    · exact ⟨[n % 10], rfl, by simp, by simpa using hk, by simp [hd]; omega, by simp; omega⟩
    · obtain ⟨ks, hL, hne, hdig, hval, hhead⟩ :=
        toDigitsCore_spec fuel (n / 10) (Nat.digitChar (n % 10) :: ds) (by omega)
      refine ⟨ks ++ [n % 10], by simp [hL], by simp, fun k hk' => ?_, ?_, fun _ => ?_⟩
      · rcases List.mem_append.mp hk' with hk' | hk'
        · exact hdig k hk'
        · rw [List.mem_singleton.mp hk']; exact hk
      · rw [List.map_append, List.foldl_append, hval]; simp [hd]; omega
      · obtain ⟨c, ks, rfl⟩ := List.exists_cons_of_ne_nil hne
        simpa using hhead (by omega)

/-- The text `toString` prints for an `int`: a `-` for a negative one, then the digits of its
magnitude. -/
theorem toString_int_spec (n : Int) : ∃ ks : List Nat,
    (toString n).toList = (if n < 0 then ['-'] else []) ++ ks.map Nat.digitChar ∧ ks ≠ [] ∧
      (∀ k ∈ ks, k < 10) ∧
      (ks.map Nat.digitChar).foldl (fun n c => n * 10 + digitVal c) 0 = n.natAbs ∧
      (n ≠ 0 → ks.head? ≠ some 0) := by
  rcases n with m | m
  · have hm : Int.ofNat m = (m : Int) := rfl
    obtain ⟨ks, hL, h⟩ := toDigitsCore_spec (m + 1) m [] (by omega)
    rw [List.append_nil] at hL
    exact ⟨ks, by rw [if_neg (by omega), List.nil_append, ← hL]; rfl,
      h.1, h.2.1, h.2.2.1, fun hm => h.2.2.2 (by omega)⟩
  · have hm := Int.negSucc_eq m
    obtain ⟨ks, hL, h⟩ := toDigitsCore_spec (m + 2) (m + 1) [] (by omega)
    rw [List.append_nil] at hL
    exact ⟨ks, by rw [if_pos (by omega), ← hL]; rfl,
      h.1, h.2.1, h.2.2.1, fun _ => h.2.2.2 (by omega)⟩

/-- A character a line can hold: no NUL, which would end the C string in `buf`, and no newline,
which would end the line `db_input` returns. -/
def LineChar (c : Char) : Prop := c ≠ '\x00' ∧ c ≠ '\n'

instance : DecidablePred LineChar := fun _ => inferInstanceAs (Decidable (_ ∧ _))

theorem toString_lineChar (n : Int) : ∀ c ∈ (toString n).toList, LineChar c := by
  obtain ⟨ks, hs, -, hks, -⟩ := toString_int_spec n
  have hd : ∀ k < 10, LineChar (Nat.digitChar k) := by decide
  rw [hs]
  intro c hc
  rcases List.mem_append.mp hc with hc | hc
  · split at hc
    · rw [List.mem_singleton.mp hc]; decide
    · exact absurd hc (List.not_mem_nil c)
  · obtain ⟨k, hk, rfl⟩ := List.mem_map.mp hc
    exact hd k (hks k hk)

/-- An `int` of the 32-bit range prints in at most eleven characters. -/
theorem toString_length_le {n : Int} (h0 : -2 ^ 31 ≤ n) (h1 : n ≤ INT_MAX) :
    (toString n).toList.length ≤ 11 := by
  rcases n with m | m
  · exact Nat.le_succ_of_le (Nat.toDigitsCore_length 10 (by decide) (m + 1) m 10
      (by simp only [INT_MAX, Int.ofNat_eq_coe] at h1; omega) (by decide))
  · exact Nat.succ_le_succ (Nat.toDigitsCore_length 10 (by decide) (m + 2) (m + 1) 10
      (by simp only [Int.negSucc_eq] at h0; omega) (by decide))

theorem scanDigits_decimal {ks : List Nat} (rest : List Char) (hks : ∀ k ∈ ks, k < 10)
    (hne : ks ≠ []) (hr : ∀ c ∈ rest.head?, 10 ≤ digitVal c) :
    scanDigits 10 (ks.map Nat.digitChar ++ rest) =
      some ((ks.map Nat.digitChar).foldl (fun n c => n * 10 + digitVal c) 0, rest) := by
  have hdig : ∀ c ∈ ks.map Nat.digitChar, decide (digitVal c < 10) = true := by
    simp only [List.mem_map, decide_eq_true_eq]
    rintro _ ⟨k, hk, rfl⟩
    rw [(digitChar_facts k (hks k hk)).1]
    exact hks k hk
  have hstop : rest.takeWhile (digitVal · < 10) = [] ∧ rest.dropWhile (digitVal · < 10) = rest := by
    cases rest with
    | nil => exact ⟨rfl, rfl⟩
    | cons c r => have := hr c rfl; simp [List.takeWhile_cons, List.dropWhile_cons]; omega
  simp only [scanDigits, List.takeWhile_append_of_pos hdig, hstop.1, List.append_nil,
    List.dropWhile_append_of_pos hdig, hstop.2,
    if_neg (show ¬ks.map Nat.digitChar = [] by simpa using hne)]

theorem scanMagnitude_decimal {ks : List Nat} (rest : List Char) (hks : ∀ k ∈ ks, k < 10)
    (hne : ks ≠ []) (h0 : ks.head? ≠ some 0) (hr : ∀ c ∈ rest.head?, 10 ≤ digitVal c) :
    scanMagnitude (ks.map Nat.digitChar ++ rest) =
      some ((ks.map Nat.digitChar).foldl (fun n c => n * 10 + digitVal c) 0, rest) := by
  unfold scanMagnitude
  split
  · next x r h =>
    obtain ⟨k, ks, rfl⟩ := List.exists_cons_of_ne_nil hne
    simp only [List.map_cons, List.cons_append, List.cons.injEq] at h
    simp only [List.head?_cons, ne_eq, Option.some.injEq] at h0
    exact absurd h.1 ((digitChar_facts k (hks k (by simp))).2.2.2.2.2 (by omega))
  · exact scanDigits_decimal rest hks hne hr

theorem scanMagnitude_zero {rest : List Char} (hr : EndsNumeral rest) :
    scanMagnitude ('0' :: rest) = some (0, rest) := by
  cases rest with
  | nil => rfl
  | cons c r =>
    obtain ⟨h10, hx, hX⟩ := hr c rfl
    simp [scanMagnitude, scanDigits, List.takeWhile_cons, List.dropWhile_cons, hx, hX,
      show digitVal '0' = 0 from rfl, show ¬digitVal c < 8 by omega]

/-- `%i` reads back every `int` that `toString` prints, up to a character that ends the
numeral. -/
theorem scanInt_toString (n : Int) (h0 : -2 ^ 31 ≤ n) (h1 : n ≤ INT_MAX) {rest : List Char}
    (hr : EndsNumeral rest) : scanInt ((toString n).toList ++ rest) = some (n, rest) := by
  have hclamp : ∀ m : Int, m = n → clampInt m = n := by
    rintro _ rfl; simp only [clampInt, INT_MAX] at *; omega
  by_cases hn : n = 0
  · subst hn
    show scanInt ('0' :: rest) = _
    unfold scanInt
    rw [List.dropWhile_cons_of_neg (show ¬isSpace '0' = true by decide)]
    split
    · next h => cases h
    · next h => cases h
    · rw [scanMagnitude_zero hr]; rfl
  obtain ⟨ks, hs, hne, hks, hval, hhead⟩ := toString_int_spec n
  have hmag := scanMagnitude_decimal rest hks hne (hhead hn) fun c hc => (hr c hc).1
  obtain ⟨k, ks', rfl⟩ := List.exists_cons_of_ne_nil hne
  have hk := digitChar_facts k (hks k (by simp))
  rw [hs]
  unfold scanInt
  by_cases hneg : n < 0
  · rw [if_pos hneg, List.singleton_append, List.cons_append,
      List.dropWhile_cons_of_neg (show ¬isSpace '-' = true by decide)]
    simp only [hmag, hval, Option.map_some']
    rw [hclamp _ (by omega)]
  · rw [if_neg hneg, List.nil_append, List.map_cons, List.cons_append,
      List.dropWhile_cons_of_neg (by simp [hk.2.1])]
    split
    · next h => exact absurd (List.cons.inj h).1 hk.2.2.1
    · next h => exact absurd (List.cons.inj h).1 hk.2.2.2.1
    · rw [← List.cons_append, ← List.map_cons, hmag, hval, Option.map_some', hclamp _ (by omega)]

/-! ### The directives on what they read -/

section Directives
variable {α : Type}

theorem sscanf_cons_of_eq {d : Directive α} {ds : List (Directive α)} {cs r : List Char}
    {f : α → α} (v : α) (h : d cs = some (f, r)) : sscanf (d :: ds) cs v = sscanf ds r (f v) := by
  simp only [sscanf, h]

theorem strDir_word (width : Nat) (w : List Char) (set : List Char → α → α) (rest : List Char)
    (hw : ∀ c ∈ w, isSpace c = false) (hne : w ≠ []) (hlen : w.length = width) :
    strDir width set (w ++ rest) = some (set w, rest) := by
  obtain ⟨c, w', rfl⟩ := List.exists_cons_of_ne_nil hne
  have hd : (c :: w' ++ rest).dropWhile isSpace = c :: w' ++ rest :=
    List.dropWhile_cons_of_neg (by simp [hw c (List.mem_cons_self c w')])
  have ht : ((c :: w' ++ rest).takeWhile (!isSpace ·)).take width = c :: w' := by
    rw [List.takeWhile_append_of_pos (by simpa using hw), List.take_left' hlen]
  simp only [strDir, scanStr, hd, ht, if_neg (List.cons_ne_nil c w'), List.drop_left,
    Option.map_some']

theorem litDir_self (c : Char) (cs : List Char) : (litDir c (c :: cs) : Option ((α → α) × _)) =
    some (id, cs) := by
  simp [litDir]

theorem chrDir_cons (set : Char → α → α) (c : Char) (cs : List Char) :
    chrDir set (c :: cs) = some (set c, cs) := rfl

theorem intDir_toString (set : Int → α → α) {n : Int} (h0 : -2 ^ 31 ≤ n) (h1 : n ≤ INT_MAX)
    {rest : List Char} (hr : EndsNumeral rest) :
    intDir set ((toString n).toList ++ rest) = some (set n, rest) := by
  simp only [intDir, scanInt_toString n h0 h1 hr, Option.map_some']

end Directives

theorem EndsNumeral.cons {c : Char} (h : 10 ≤ digitVal c ∧ c ≠ 'x' ∧ c ≠ 'X') (r : List Char) :
    EndsNumeral (c :: r) := fun _ hc => Option.some.inj hc ▸ h

theorem EndsNumeral.takeWhile {rest : List Char} (hr : EndsNumeral rest) (p : Char → Bool) :
    EndsNumeral (rest.takeWhile p) := by
  cases rest with
  | nil => exact fun _ hc => nomatch hc
  | cons x r =>
    rw [List.takeWhile_cons]
    split
    · exact EndsNumeral.cons (hr x rfl) _
    · exact fun _ hc => nomatch hc

theorem takeWhile_ne_nul_append {P : List Char} (rest : List Char) (h : ∀ c ∈ P, c ≠ '\x00') :
    (P ++ rest).takeWhile (· ≠ '\x00') = P ++ rest.takeWhile (· ≠ '\x00') :=
  List.takeWhile_append_of_pos (by simpa using h)

theorem sscanf_breakFormatAt (spill : BreakVars → BreakVars) (c : Char) {n a : Int}
    (hn0 : -2 ^ 31 ≤ n) (hn1 : n ≤ INT_MAX) (ha0 : -2 ^ 31 ≤ a) (ha1 : a ≤ INT_MAX)
    {rest : List Char} (hr : EndsNumeral rest) (v : BreakVars) :
    sscanf (breakFormatAt spill) ("*DEBUG*:B".toList ++ ':' :: c :: ':' ::
      ((toString n).toList ++ ':' :: ((toString a).toList ++ rest))) v = ⟨c, n, a⟩ := by
  rw [breakFormatAt, strDirSpill, sscanf_cons_of_eq v
      (strDir_word 9 "*DEBUG*:B".toList _ _ (by decide) (by decide) rfl),
    sscanf_cons_of_eq _ (litDir_self _ _), sscanf_cons_of_eq _ (chrDir_cons _ _ _),
    sscanf_cons_of_eq _ (litDir_self _ _),
    sscanf_cons_of_eq _ (intDir_toString _ hn0 hn1 (EndsNumeral.cons (by decide) _)),
    sscanf_cons_of_eq _ (litDir_self _ _), sscanf_cons_of_eq _ (intDir_toString _ ha0 ha1 hr)]
  rfl

/-- Past a slot number, `":%i"` assigns at most `addr`. -/
theorem sscanf_addr_tail (r : List Char) (w : BreakVars) :
    ∃ addr, sscanf [litDir ':', intDir fun addr v => { v with addr }] r w = { w with addr } := by
  match r with
  | [] => exact ⟨w.addr, rfl⟩
  | x :: r =>
    by_cases hx : x = ':'
    · subst hx
      rw [sscanf_cons_of_eq w (litDir_self _ _)]
      cases h : scanInt r with
      | none => exact ⟨w.addr, by simp [sscanf, intDir, h]⟩
      | some p => exact ⟨p.1, by simp [sscanf, intDir, h]⟩
    · exact ⟨w.addr, by simp [sscanf, litDir, hx]⟩

theorem sscanf_breakFormatAt_clear (spill : BreakVars → BreakVars) (c : Char) {n : Int}
    (hn0 : -2 ^ 31 ≤ n) (hn1 : n ≤ INT_MAX) {rest : List Char} (hr : EndsNumeral rest)
    (v : BreakVars) :
    ∃ addr, sscanf (breakFormatAt spill) ("*DEBUG*:B".toList ++ ':' :: c :: ':' ::
      ((toString n).toList ++ rest)) v = ⟨c, n, addr⟩ := by
  rw [breakFormatAt, strDirSpill, sscanf_cons_of_eq v
      (strDir_word 9 "*DEBUG*:B".toList _ _ (by decide) (by decide) rfl),
    sscanf_cons_of_eq _ (litDir_self _ _), sscanf_cons_of_eq _ (chrDir_cons _ _ _),
    sscanf_cons_of_eq _ (litDir_self _ _), sscanf_cons_of_eq _ (intDir_toString _ hn0 hn1 hr)]
  exact sscanf_addr_tail rest _

theorem sscanf_dataFormatAt (spill : DataVars → DataVars) (c₁ c₂ : Char) {i₁ i₂ : Int}
    (h10 : -2 ^ 31 ≤ i₁) (h11 : i₁ ≤ INT_MAX) (h20 : -2 ^ 31 ≤ i₂) (h21 : i₂ ≤ INT_MAX)
    {rest : List Char} (hr : EndsNumeral rest) (v : DataVars) :
    sscanf (dataFormatAt spill) ("*DEBUG*:D".toList ++ ':' :: c₁ :: ':' :: c₂ :: ':' ::
      ((toString i₁).toList ++ ',' :: ((toString i₂).toList ++ rest))) v = ⟨c₁, c₂, i₁, i₂⟩ := by
  rw [dataFormatAt, strDirSpill, sscanf_cons_of_eq v
      (strDir_word 9 "*DEBUG*:D".toList _ _ (by decide) (by decide) rfl),
    sscanf_cons_of_eq _ (litDir_self _ _), sscanf_cons_of_eq _ (chrDir_cons _ _ _),
    sscanf_cons_of_eq _ (litDir_self _ _), sscanf_cons_of_eq _ (chrDir_cons _ _ _),
    sscanf_cons_of_eq _ (litDir_self _ _),
    sscanf_cons_of_eq _ (intDir_toString _ h10 h11 (EndsNumeral.cons (by decide) _)),
    sscanf_cons_of_eq _ (litDir_self _ _), sscanf_cons_of_eq _ (intDir_toString _ h20 h21 hr)]
  rfl

/-! ### What one line does to the breakpoint table -/

section Loop
variable (env : DebugEnv) (fenv : FrameEnv) (opcode : Int) (ip : ByteAddress) (fp : Int)

theorem dbProcessClientLines_cons (vars : CommandVars) (junk : Nat → Indeterminate)
    (s : DebugState) (line : List Char) (lines : List (List Char)) :
    dbProcessClientLines env fenv opcode ip fp vars junk s (line :: lines) =
      dbProcessClientCommands env fenv opcode ip fp s ((lineCommand vars (junk 0) line).2 ::
        parseLines (lineCommand vars (junk 0) line).1 (fun k => junk (k + 1)) lines) := rfl

theorem dbProcessClientLines_break_ok {vars v : CommandVars} {junk : Nat → Indeterminate}
    {s s' : DebugState} {line : List Char} {lines : List (List Char)} {subcmd : Char}
    {bpnum addr : Int} (hline : lineCommand vars (junk 0) line = (v, .breakCmd subcmd bpnum addr))
    (h : dbProcessBreakCmd env subcmd bpnum addr s = .ok s') :
    dbProcessClientLines env fenv opcode ip fp vars junk s (line :: lines) =
      dbProcessClientLines env fenv opcode ip fp v (fun k => junk (k + 1)) s' lines := by
  simp only [dbProcessClientLines_cons, hline, dbProcessClientCommands, h]
  rfl

/-- A line read as a `B:S` on a slot in range sets that slot and goes on to the next line. -/
theorem dbProcessClientLines_set_slot {vars v : CommandVars} {junk : Nat → Indeterminate}
    {s : DebugState} {line : List Char} {lines : List (List Char)} {bpnum addr : Int}
    (h0 : 0 ≤ bpnum) (h1 : bpnum < DB_MAX_BPS)
    (hline : lineCommand vars (junk 0) line = (v, .breakCmd 'S' bpnum addr)) :
    ∃ s', s'.bpTable = Function.update s.bpTable bpnum.toNat (breakpointAddress env addr) ∧
      dbProcessClientLines env fenv opcode ip fp vars junk s (line :: lines) =
        dbProcessClientLines env fenv opcode ip fp v (fun k => junk (k + 1)) s' lines := by
  refine ⟨_, ?_, dbProcessClientLines_break_ok env fenv opcode ip fp hline
    (dbProcessBreakCmd_ok_iff.mpr ⟨h0, h1, .inl ⟨rfl, rfl⟩⟩)⟩
  rfl

/-- A line read as a `B:C` on a slot in range clears that slot and goes on to the next line. -/
theorem dbProcessClientLines_clear_slot {vars v : CommandVars} {junk : Nat → Indeterminate}
    {s : DebugState} {line : List Char} {lines : List (List Char)} {bpnum addr : Int}
    (h0 : 0 ≤ bpnum) (h1 : bpnum < DB_MAX_BPS)
    (hline : lineCommand vars (junk 0) line = (v, .breakCmd 'C' bpnum addr)) :
    ∃ s', s'.bpTable = Function.update s.bpTable bpnum.toNat 0 ∧
      dbProcessClientLines env fenv opcode ip fp vars junk s (line :: lines) =
        dbProcessClientLines env fenv opcode ip fp v (fun k => junk (k + 1)) s' lines := by
  refine ⟨_, ?_, dbProcessClientLines_break_ok env fenv opcode ip fp hline
    (dbProcessBreakCmd_ok_iff.mpr ⟨h0, h1, .inr ⟨rfl, rfl⟩⟩)⟩
  rfl

/-- Whatever a line holds, the round of the loop that reads it ends the process, returns with
the state it found, or goes on to the next line: with the same state, or, after a `B` command,
with a table that differs in one slot below `DB_MAX_BPS` at most. -/
theorem dbProcessClientLines_line_changes_one_slot (vars : CommandVars)
    (junk : Nat → Indeterminate) (s : DebugState) (line : List Char) (lines : List (List Char)) :
    let r := lineCommand vars (junk 0) line
    let next := dbProcessClientLines env fenv opcode ip fp r.1 (fun k => junk (k + 1))
    (∃ out, dbProcessClientLines env fenv opcode ip fp vars junk s (line :: lines) = .exited out) ∨
      dbProcessClientLines env fenv opcode ip fp vars junk s (line :: lines) =
        .resumed [] s (parseLines r.1 (fun k => junk (k + 1)) lines) ∨
      (∃ out, dbProcessClientLines env fenv opcode ip fp vars junk s (line :: lines) =
        (next s lines).prepend [out]) ∨
      ∃ subcmd bpnum addr s', r.2 = .breakCmd subcmd bpnum addr ∧ 0 ≤ bpnum ∧
        bpnum < DB_MAX_BPS ∧ (∀ i, i ≠ bpnum.toNat → s'.bpTable i = s.bpTable i) ∧
        dbProcessClientLines env fenv opcode ip fp vars junk s (line :: lines) = next s' lines := by
  intro r next
  rw [dbProcessClientLines_cons]
  rcases hc : r.2 with ⟨subcmd, bpnum, addr⟩ | _ | ⟨subcmd, subsubcmd, i1, i2⟩ | cmd | _ <;>
    simp only [r] at hc <;> simp only [hc, dbProcessClientCommands]
  · cases hb : dbProcessBreakCmd env subcmd bpnum addr s with
    | error msg => exact .inl ⟨_, rfl⟩
    | ok s' =>
      obtain ⟨h0, h1, hframe⟩ := dbProcessBreakCmd_only_slot hb
      exact .inr (.inr (.inr ⟨subcmd, bpnum, addr, s', rfl, h0, h1, hframe, rfl⟩))
  · exact .inr (.inl trivial)
  · cases dbProcessDataCmd env fenv subcmd subsubcmd i1 i2 opcode ip fp with
    | error msg => exact .inl ⟨_, rfl⟩
    | ok out => exact .inr (.inr (.inl ⟨out, rfl⟩))
  · exact .inl ⟨_, rfl⟩
  · exact .inl ⟨_, rfl⟩

/-- `db_process_break_cmd` ignores the count its `sscanf` returns, and the command loop's `hdr`
and `cmd` keep the last line's values when its scan stops early. A `B:S` line without an
address sets slot 3 from whatever `addr` held; a `B:C` line without a slot number clears the
slot that `bpnum` held, when that is in range; and a line with the unrecognised header
`*DEBUG*+` after a `B` line runs `db_process_break_cmd` again on fields its `sscanf` never
assigned, so a `C` left in `subcmd` clears the slot that `bpnum` names. None of these lines
ends the process. -/
theorem dbProcessClientLines_malformed_lines_change_slots (vars : CommandVars)
    (junk : Nat → Indeterminate) (s : DebugState) (lines : List (List Char)) :
    let u := (junk 0).brk
    let next := dbProcessClientLines env fenv opcode ip fp ⟨"*DEBUG*".toList, 'B'⟩
      (fun k => junk (k + 1))
    (∃ s', s'.bpTable = Function.update s.bpTable 3 (breakpointAddress env u.addr) ∧
      dbProcessClientLines env fenv opcode ip fp vars junk s ("*DEBUG*:B:S:3\n".toList :: lines) =
        next s' lines) ∧
    (0 ≤ u.bpnum → u.bpnum < DB_MAX_BPS →
      ∃ s', s'.bpTable = Function.update s.bpTable u.bpnum.toNat 0 ∧
        dbProcessClientLines env fenv opcode ip fp vars junk s ("*DEBUG*:B:C\n".toList :: lines) =
          next s' lines) ∧
    ∀ hdr, u.subcmd = 'C' → 0 ≤ u.bpnum → u.bpnum < DB_MAX_BPS →
      ∃ s', s'.bpTable = Function.update s.bpTable u.bpnum.toNat 0 ∧
        dbProcessClientLines env fenv opcode ip fp ⟨hdr, 'B'⟩ junk s
          ("*DEBUG*+\n".toList :: lines) = next s' lines := by
  intro u next
  exact ⟨dbProcessClientLines_set_slot env fenv opcode ip fp (show (0 : Int) ≤ 3 by decide)
      (by decide) rfl,
    fun h0 h1 => dbProcessClientLines_clear_slot env fenv opcode ip fp h0 h1 rfl,
    fun hdr hC h0 h1 => dbProcessClientLines_clear_slot env fenv opcode ip fp h0 h1
      (by rw [← hC]; rfl)⟩

end Loop

end SquawkVM
