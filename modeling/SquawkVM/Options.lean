import SquawkVM.Machine
import Mathlib.Logic.Function.Basic

/-! The command line of the slow VM (`processArgs` of `squawk.c`): the `-X` options it reads,
the `-J` flags it keeps for the embedded JVM, and the compaction of `argv` in place that leaves
the remaining options and the main class with its arguments for `setupMemory`; with the string
helpers `startsWith` and `equals` and the quantity parser `parseQuantity`. -/

namespace SquawkVM

/-- A C string: its characters before the terminating NUL. -/
abbrev CString := List Char

/-- `line[i]` of a C string: the NUL terminator past its end. -/
def CString.at (line : CString) (i : Nat) : Char := line.getD i '\x00'

/-- `startsWith(line, prefix)`. -/
def startsWith : CString → CString → Bool
  | _, [] => true
  | [], _ :: _ => false
  | ch :: line, prefixCh :: pre => if prefixCh ≠ ch then false else startsWith line pre

/-- `equals(s1, s2)`. -/
def equals : CString → CString → Bool
  | [], s2 => s2.isEmpty
  | _ :: _, [] => false
  | ch :: s1, c2 :: s2 => if c2 ≠ ch then false else equals s1 s2

/-- What the command-line code prints: a `printf` line, a line on `stderr`, or the text of
`usage()`. -/
inductive ArgsOutput where
  | printf (text : String)
  | stderr (text : String)
  | usage
  deriving DecidableEq, Repr

/-- `stopVM(exitCode)` after everything in `out` was printed. -/
structure VMStop where
  out : List ArgsOutput
  exitCode : Int
  deriving DecidableEq, Repr

/-- A stop preceded by what was printed before the failing call. -/
def VMStop.after (pre : List ArgsOutput) (e : VMStop) : VMStop := ⟨pre ++ e.out, e.exitCode⟩

/-- The loop of `parseQuantityLong(p, arg)` from the value `val` read so far, in `jlong`
arithmetic. -/
def parseQuantityLoop (arg : String) : CString → Int → Except VMStop Int
  | [], val => .ok val
  | ch :: p, val =>
    if '0' ≤ ch ∧ ch ≤ '9' then parseQuantityLoop arg p (toInt64 (val * 10 + (ch.toNat - '0'.toNat : Nat)))
    else if ch = 'K' ∨ ch = 'k' then .ok (toInt64 (val * 1024))
    else if ch = 'M' ∨ ch = 'm' then .ok (toInt64 (val * (1024 * 1024)))
    else .error ⟨[.printf ("Badly formatted quantity for \x27" ++ arg ++ "\x27 option\n")], -1⟩

/-- `parseQuantityLong(p, arg)`. -/
def parseQuantityLong (p : CString) (arg : String) : Except VMStop Int := parseQuantityLoop arg p 0

/-- `parseQuantity(p, arg)`: the `jlong` quantity, which must survive the cast to `int`. -/
def parseQuantity (p : CString) (arg : String) : Except VMStop Int :=
  match parseQuantityLong p arg with
  | .error e => .error e
  | .ok res =>
    if res ≠ toInt32 res then
      .error ⟨[.printf ("parseQuantity overflow for \x27" ++ arg ++ "\x27 option\n")], -1⟩
    else .ok (toInt32 res)

/-! ### What `parseQuantity` returns -/

/-- The quantity the digits at the head of `p` write, after a value `v` read before them:
the number the decimal digits continue, times `1024` after a `K` or `k` and `2 ^ 20` after an
`M` or `m`; `none` when anything else follows the digits. -/
def writtenQuantityFrom (v : Nat) (p : CString) : Option Nat :=
  let d := (p.takeWhile Char.isDigit).foldl (fun d ch => d * 10 + (ch.toNat - '0'.toNat)) v
  match p.dropWhile Char.isDigit with
  | [] => some d
  | ch :: _ =>
    if ch = 'K' ∨ ch = 'k' then some (d * 1024)
    else if ch = 'M' ∨ ch = 'm' then some (d * 2 ^ 20)
    else none

/-- The quantity a string writes, as a number. -/
def writtenQuantity (p : CString) : Option Nat := writtenQuantityFrom 0 p

theorem isDigit_eq_decide (ch : Char) : ch.isDigit = decide ('0' ≤ ch ∧ ch ≤ '9') := by
  simp [Char.isDigit, Char.le_def]

theorem parseQuantityLoop_eq (arg : String) : ∀ (p : CString) (v : Nat),
    parseQuantityLoop arg p (toInt64 v) = match writtenQuantityFrom v p with
      | some q => .ok (toInt64 q)
      | none => .error ⟨[.printf ("Badly formatted quantity for \x27" ++ arg ++ "\x27 option\n")], -1⟩
  | [], v => rfl
  | ch :: p, v => by
    have hv := toInt64_emod v
    by_cases hd : '0' ≤ ch ∧ ch ≤ '9'
    · have hstep : toInt64 (toInt64 v * 10 + (ch.toNat - '0'.toNat : Nat)) =
          toInt64 (v * 10 + (ch.toNat - '0'.toNat) : Nat) := toInt64_congr (by omega)
      have hdig : ch.isDigit = true := by rw [isDigit_eq_decide]; exact decide_eq_true hd
      rw [parseQuantityLoop, if_pos hd, hstep, parseQuantityLoop_eq arg p]
      simp only [writtenQuantityFrom, List.takeWhile_cons, List.dropWhile_cons, hdig, if_true,
        List.foldl_cons]
    · have hdig : ch.isDigit = false := by rw [isDigit_eq_decide]; exact decide_eq_false hd
      rw [parseQuantityLoop, if_neg hd]
      simp only [writtenQuantityFrom, List.takeWhile_cons, List.dropWhile_cons, hdig,
        Bool.false_eq_true, if_false, List.foldl_nil]
      have h1024 : toInt64 (toInt64 v * 1024) = toInt64 (v * 1024 : Nat) := toInt64_congr (by omega)
      have h2p20 : toInt64 (toInt64 v * (1024 * 1024)) = toInt64 (v * 2 ^ 20 : Nat) :=
        toInt64_congr (by omega)
      by_cases hK : ch = 'K' ∨ ch = 'k'
      · rw [if_pos hK, if_pos hK, h1024]
      · by_cases hM : ch = 'M' ∨ ch = 'm'
        · rw [if_neg hK, if_neg hK, if_pos hM, if_pos hM, h2p20]
        · rw [if_neg hK, if_neg hK, if_neg hM, if_neg hM]

theorem parseQuantity_eq (p : CString) (arg : String) :
    parseQuantity p arg = match writtenQuantity p with
      | none => .error ⟨[.printf ("Badly formatted quantity for \x27" ++ arg ++ "\x27 option\n")], -1⟩
      | some q =>
        if -2 ^ 31 ≤ toInt64 q ∧ toInt64 q ≤ INT_MAX then .ok (toInt64 q)
        else .error ⟨[.printf ("parseQuantity overflow for \x27" ++ arg ++ "\x27 option\n")], -1⟩ := by
  have h := parseQuantityLoop_eq arg p 0
  rw [show toInt64 ((0 : Nat) : Int) = 0 by decide] at h
  rw [parseQuantity, parseQuantityLong, h, writtenQuantity]
  cases writtenQuantityFrom 0 p with
  | none => rfl
  | some q =>
    dsimp only
    by_cases hq : -2 ^ 31 ≤ toInt64 q ∧ toInt64 q ≤ INT_MAX
    · rw [if_pos hq, if_neg (not_not.2 (toInt32_eq_self_iff.2 hq).symm), toInt32_eq_self_iff.2 hq]
    · rw [if_neg hq, if_pos fun h => hq (toInt32_eq_self_iff.1 h.symm)]

theorem parseQuantity_ok_iff (p : CString) (arg : String) (v : Int) :
    parseQuantity p arg = .ok v ↔
      ∃ q, writtenQuantity p = some q ∧ toInt64 q = v ∧ -2 ^ 31 ≤ v ∧ v ≤ INT_MAX := by
  rw [parseQuantity_eq]
  cases writtenQuantity p with
  | none => simp
  | some q =>
    dsimp only
    by_cases hq : -2 ^ 31 ≤ toInt64 q ∧ toInt64 q ≤ INT_MAX
    · rw [if_pos hq, Except.ok.injEq]
      constructor
      · rintro rfl; exact ⟨q, rfl, rfl, hq⟩
      · rintro ⟨_, ⟨⟩, rfl, _⟩; rfl
    · rw [if_neg hq]
      constructor
      · rintro ⟨⟩
      · rintro ⟨_, ⟨⟩, rfl, h⟩; exact absurd h hq

/-- `parseQuantity` accepts a quantity exactly when it is written as digits with an optional
suffix and its value modulo `2 ^ 64`, as a `jlong`, lies in the range of an `int`; it returns
that residue, not the quantity written. Twenty digits that write `2 ^ 64` give `0`, and
`2 ^ 64 - 5` gives `-5`. -/
theorem parseQuantity_accepts_wrapped_digits (p : CString) (arg : String) :
    (∀ v, parseQuantity p arg = .ok v ↔
      ∃ q, writtenQuantity p = some q ∧ toInt64 q = v ∧ -2 ^ 31 ≤ v ∧ v ≤ INT_MAX) ∧
    writtenQuantity "18446744073709551616".toList = some (2 ^ 64) ∧
    parseQuantity "18446744073709551616".toList arg = .ok 0 ∧
    writtenQuantity "18446744073709551611".toList = some (2 ^ 64 - 5) ∧
    parseQuantity "18446744073709551611".toList arg = .ok (-5) := by
  have hw : writtenQuantity "18446744073709551616".toList = some (2 ^ 64) := by decide
  have hw5 : writtenQuantity "18446744073709551611".toList = some (2 ^ 64 - 5) := by decide
  exact ⟨parseQuantity_ok_iff p arg, hw,
    (parseQuantity_ok_iff _ arg 0).2 ⟨_, hw, by decide, by decide, by decide⟩, hw5,
    (parseQuantity_ok_iff _ arg (-5)).2 ⟨_, hw5, by decide, by decide, by decide⟩⟩

/-- The build options `processArgs` is compiled under. -/
structure ArgsBuild where
  TRACE : Bool
  PROFILING : Bool
  IOPORT : Bool
  DB_DEBUG : Bool

/-- The globals the `-X` options set: `java_lang_VM_romFileName`, the GC trace threshold and
flags, `notrap`, `traceFile` (whether it is `stderr`), the halves of the trace start and end
counters and `tracing`, `statsFrequency`, `sampleFrequency` and `ioport`. -/
structure VMOptions where
  romFileName : CString
  traceThreshold : Int
  traceFlags : Int
  notrap : Bool
  traceToStderr : Bool
  traceStartHigh : Int
  traceStartLow : Int
  traceEndHigh : Int
  traceEndLow : Int
  tracing : Bool
  statsFrequency : Int
  sampleFrequency : Int
  ioport : Option CString
  deriving DecidableEq, Repr

/-- `setLongCounter(high, low, x)`: the two `int` halves of a `jlong`; the arithmetic shift
`x >> 32` rounds down. -/
def setLongCounter (x : Int) : Int × Int := (toInt32 (x.fdiv (2 ^ 32)), toInt32 x)

/-- `setTraceStart(x)`: the counter, and `tracing` turned on when `x` is `0`. -/
def VMOptions.setTraceStart (o : VMOptions) (x : Int) : VMOptions :=
  { o with traceStartHigh := (setLongCounter x).1, traceStartLow := (setLongCounter x).2,
           tracing := o.tracing || x == 0 }

/-- `setTraceEnd(x)`. -/
def VMOptions.setTraceEnd (o : VMOptions) (x : Int) : VMOptions :=
  { o with traceEndHigh := (setLongCounter x).1, traceEndLow := (setLongCounter x).2 }

/-- `MAX_UJLONG`, the `TRACESTART` that `initializeGlobals` sets on a `TRACE` build. -/
def MAX_UJLONG : Int := 2 ^ 63 - 1

/-- The option globals as `initializeGlobals` leaves them. -/
def VMOptions.init (B : ArgsBuild) : VMOptions :=
  let o : VMOptions := ⟨"squawk.suite".toList, 0, 0, false, false, 0, 0, 0, 0, false, 0, 0, none⟩
  if B.TRACE then (o.setTraceStart MAX_UJLONG).setTraceEnd MAX_UJLONG else o

/-- What the `-X` options change: the sizes for `setupMemory`, the option globals, and what
has been printed. -/
structure OptionState where
  nvmSize : Int
  ramSize : Int
  options : VMOptions
  out : List ArgsOutput

/-- An option that reads a quantity and stores it. -/
def OptionState.withQuantity (st : OptionState) (q : Except VMStop Int)
    (set : OptionState → Int → OptionState) : Except VMStop OptionState :=
  match q with
  | .error e => .error (e.after st.out)
  | .ok v => .ok (set st v)

/-- One `-X` option, `arg` past the `-X`: the `if`/`else if` chain of `processArgs`. -/
def xOption (B : ArgsBuild) (arg : CString) (st : OptionState) : Except VMStop OptionState :=
  if B.IOPORT ∧ startsWith arg "ioport:".toList then
    .ok { st with options := { st.options with ioport := some (arg.drop 7) } }
  else if startsWith arg "mxnvm:".toList then
    st.withQuantity (parseQuantity (arg.drop 6) "-Xmxnvm:") fun st v => { st with nvmSize := v }
  else if startsWith arg "mx:".toList then
    st.withQuantity (parseQuantity (arg.drop 3) "-Xmx:") fun st v => { st with ramSize := v }
  else if startsWith arg "boot:".toList then
    .ok { st with options := { st.options with romFileName := arg.drop 5 } }
  else if startsWith arg "tgca:".toList then
    st.withQuantity (parseQuantity (arg.drop 5) "-Xtgca:") fun st v =>
      { st with options := { st.options with traceThreshold := v } }
  else if startsWith arg "tgc:".toList then
    st.withQuantity (parseQuantity (arg.drop 4) "-Xtgc:") fun st v =>
      { st with options := { st.options with traceFlags := v } }
  else if equals arg "notrap".toList then
    .ok { st with options := { st.options with notrap := true } }
  else if B.TRACE ∧ equals arg "terr".toList then
    .ok { st with options := { st.options with traceToStderr := true } }
  else if B.TRACE ∧ startsWith arg "ts:".toList then
    st.withQuantity (parseQuantityLong (arg.drop 3) "-Xts:") fun st v =>
      { st with options := st.options.setTraceStart v }
  else if B.TRACE ∧ startsWith arg "te:".toList then
    st.withQuantity (parseQuantityLong (arg.drop 3) "-Xte:") fun st v =>
      { st with options := st.options.setTraceEnd v }
  else if B.TRACE ∧ startsWith arg "tr:".toList then
    st.withQuantity (parseQuantityLong (arg.drop 3) "-Xtr:") fun st start =>
      { st with options := (st.options.setTraceStart start).setTraceEnd (toInt64 (start + 5000)) }
  else if B.TRACE ∧ startsWith arg "stats:".toList then
    match parseQuantity (arg.drop 6) "-Xstats:" with
    | .error e => .error (e.after st.out)
    | .ok v =>
      if v = 0 then .error ⟨st.out ++ [.printf "-Xstats:0 is invalid\n"], -1⟩
      else .ok { st with options := { st.options with statsFrequency := v } }
  else if B.PROFILING ∧ startsWith arg "prof:".toList then
    match parseQuantity (arg.drop 5) "-Xprof:" with
    | .error e => .error (e.after st.out)
    | .ok v =>
      if v = 0 then .error ⟨st.out ++ [.printf "-Xprof:0 is invalid\n"], -1⟩
      else .ok { st with options := { st.options with sampleFrequency := v } }
  else
    .error ⟨st.out ++ (if arg.at 0 ≠ '\x00' then
      [.printf ("Unrecognised option: -X" ++ String.mk arg ++ "\n")] else []) ++ [.usage], 0⟩

/-- `MAX_JVM_ARGS`. -/
def MAX_JVM_ARGS : Nat := 20

/-- `DEFAULT_RAM_SIZE`. -/
def DEFAULT_RAM_SIZE : Int := 8 * 1024 * 1024

/-- `DEFAULT_NVM_SIZE`. -/
def DEFAULT_NVM_SIZE : Int := 8 * 1024 * 1024

/-- The locals of `processArgs`: the array `argv` as it is compacted in place, `newIndex`,
`oldIndex` and the `-J` flags kept so far, with the state the `-X` options change. -/
structure ArgsState where
  argv : Nat → CString
  newIndex : Nat
  oldIndex : Nat
  javaVMArgs : List CString
  opts : OptionState

/-- The first loop of `processArgs` from `oldIndex`, `fuel` arguments before `argc`: until the
first argument that is not an option, keep the options that are neither `-X` nor (outside a
JNI launch) `-J` at `argv[newIndex++]`, read the `-X` options, and collect the `-J` flags. -/
def processArgsLoop (B : ArgsBuild) (isLaunchedViaJNI : Bool) :
    Nat → ArgsState → Except VMStop ArgsState
  | 0, st => .ok st
  | fuel + 1, st =>
    let arg := st.argv st.oldIndex
    if arg.at 0 ≠ '-' then .ok st
    else if arg.at 1 ≠ 'X' ∧ (isLaunchedViaJNI ∨ arg.at 1 ≠ 'J') then
      processArgsLoop B isLaunchedViaJNI fuel
        { st with argv := Function.update st.argv st.newIndex arg, newIndex := st.newIndex + 1,
                  oldIndex := st.oldIndex + 1 }
    else if arg.at 1 = 'X' then
      match xOption B (arg.drop 2) st.opts with
      | .error e => .error e
      | .ok opts => processArgsLoop B isLaunchedViaJNI fuel
          { st with opts, oldIndex := st.oldIndex + 1 }
    else if MAX_JVM_ARGS ≤ st.javaVMArgs.length then
      .error ⟨st.opts.out ++ [.stderr "too many \x27-J\x27 flags\n"], -1⟩
    else
      processArgsLoop B isLaunchedViaJNI fuel
        { st with javaVMArgs := st.javaVMArgs ++ [arg.drop 2], oldIndex := st.oldIndex + 1 }

/-- The second loop of `processArgs`: `argv[newIndex++] = argv[oldIndex++]`, `fuel` times. -/
def copyArgs : Nat → ArgsState → ArgsState
  | 0, st => st
  | fuel + 1, st =>
    copyArgs fuel { st with argv := Function.update st.argv st.newIndex (st.argv st.oldIndex),
                            newIndex := st.newIndex + 1, oldIndex := st.oldIndex + 1 }

/-- The locals of `processArgs` on entry: `argv` as passed, both indices `0`, no `-J` flag,
the default sizes, and the banners of the build printed. -/
def ArgsState.init (B : ArgsBuild) (options : VMOptions) (argv : List CString) : ArgsState :=
  ⟨fun i => argv.getD i [], 0, 0, [], ⟨DEFAULT_NVM_SIZE, DEFAULT_RAM_SIZE, options,
    (if B.PROFILING then [.printf "*************** Profiling version ***************\n"] else []) ++
      (if B.DB_DEBUG then [.printf "*************** Debug version ***************\n"] else [])⟩⟩

/-- `processArgs(argv, argc)` up to the call of `setupMemory(ramSize, nvmSize, newIndex, argv)`:
the two loops, then the notice that traps are off. -/
def processArgs (B : ArgsBuild) (isLaunchedViaJNI : Bool) (options : VMOptions)
    (argv : List CString) : Except VMStop ArgsState :=
  match processArgsLoop B isLaunchedViaJNI argv.length (ArgsState.init B options argv) with
  | .error e => .error e
  | .ok st =>
    let st := copyArgs (argv.length - st.oldIndex) st
    .ok { st with opts := { st.opts with out := st.opts.out ++
      if st.opts.options.notrap then [.printf "Trap handling disabled\n"] else [] } }

/-! ### The compaction of `argv` -/

/-- An argument the first loop reads as a VM option: it starts with `-`. -/
def isVMOption (arg : CString) : Bool := arg.at 0 == '-'

/-- A VM option that stays in `argv` for the Java side: neither `-X` nor, outside a JNI
launch, `-J`. -/
def keptOption (isLaunchedViaJNI : Bool) (arg : CString) : Bool :=
  arg.at 1 != 'X' && (isLaunchedViaJNI || arg.at 1 != 'J')

/-- A `-J` flag for the embedded JVM. -/
def javaVMOption (isLaunchedViaJNI : Bool) (arg : CString) : Bool :=
  !isLaunchedViaJNI && arg.at 1 == 'J'

/-- What the first loop has done after reading `argv[0..oldIndex)` of `orig`: all of them
options, the kept ones compacted in order into `argv[0..newIndex)`, the `-J` flags collected in
order, and the array from `oldIndex` on as it was. -/
structure Compacted (isLaunchedViaJNI : Bool) (orig : List CString) (st : ArgsState) : Prop where
  new_le_old : st.newIndex ≤ st.oldIndex
  old_le : st.oldIndex ≤ orig.length
  options : ∀ a ∈ orig.take st.oldIndex, isVMOption a = true
  kept : (List.range st.newIndex).map st.argv = (orig.take st.oldIndex).filter (keptOption isLaunchedViaJNI)
  java_vm_args : st.javaVMArgs =
    ((orig.take st.oldIndex).filter (javaVMOption isLaunchedViaJNI)).map (·.drop 2)
  unread : ∀ k, st.oldIndex ≤ k → st.argv k = orig.getD k []

theorem take_succ_getD {l : List CString} {n : Nat} (h : n < l.length) :
    l.take (n + 1) = l.take n ++ [l.getD n []] := by
  rw [List.take_succ, List.getElem?_eq_getElem h, List.getD_eq_getElem?_getD,
    List.getElem?_eq_getElem h]
  rfl

theorem map_range_update (f : Nat → CString) (n : Nat) (a : CString) :
    (List.range (n + 1)).map (Function.update f n a) = (List.range n).map f ++ [a] := by
  rw [List.range_succ, List.map_append, List.map_congr_left fun k hk =>
    Function.update_noteq (List.mem_range.mp hk).ne _ _]
  simp

theorem isVMOption_eq_true {a : CString} : isVMOption a = true ↔ a.at 0 = '-' := by
  simp [isVMOption]

theorem keptOption_eq_true {jni : Bool} {a : CString} :
    keptOption jni a = true ↔ a.at 1 ≠ 'X' ∧ (jni = true ∨ a.at 1 ≠ 'J') := by
  simp [keptOption]

theorem javaVMOption_of_keptOption {jni : Bool} {a : CString} (h : keptOption jni a = true) :
    javaVMOption jni a = false := by
  cases jni <;> simp_all [keptOption, javaVMOption]

theorem javaVMOption_of_X {jni : Bool} {a : CString} (h : a.at 1 = 'X') :
    javaVMOption jni a = false := by
  simp [javaVMOption, h]

theorem javaVMOption_of_not_keptOption {jni : Bool} {a : CString} (hk : keptOption jni a = false)
    (hx : ¬a.at 1 = 'X') : javaVMOption jni a = true := by
  cases jni <;> simp_all [keptOption, javaVMOption]

/-- Reading one more option keeps the loop's invariant, whichever branch handles it. -/
theorem Compacted.next {jni : Bool} {orig : List CString} {st : ArgsState}
    (hc : Compacted jni orig st) (hlt : st.oldIndex < orig.length)
    (hopt : isVMOption (orig.getD st.oldIndex []) = true) {st' : ArgsState}
    (hold : st'.oldIndex = st.oldIndex + 1)
    (hkept : (List.range st'.newIndex).map st'.argv = (List.range st.newIndex).map st.argv ++
      if keptOption jni (orig.getD st.oldIndex []) then [orig.getD st.oldIndex []] else [])
    (hnew : st'.newIndex ≤ st.newIndex + 1)
    (hjvm : st'.javaVMArgs = st.javaVMArgs ++
      if javaVMOption jni (orig.getD st.oldIndex []) then [(orig.getD st.oldIndex []).drop 2]
      else [])
    (hunread : ∀ k, st'.oldIndex ≤ k → st'.argv k = st.argv k) : Compacted jni orig st' := by
  have htake := take_succ_getD hlt
  refine ⟨by have := hc.new_le_old; omega, by omega, ?_, ?_, ?_, fun k hk =>
    (hunread k hk).trans (hc.unread k (by omega))⟩
  · rw [hold, htake]
    intro a ha
    rcases List.mem_append.1 ha with ha | ha
    · exact hc.options a ha
    · rw [List.mem_singleton.1 ha]; exact hopt
  · rw [hkept, hold, htake, List.filter_append, hc.kept, List.filter_cons, List.filter_nil]
  · rw [hjvm, hold, htake, List.filter_append, List.map_append, hc.java_vm_args,
      List.filter_cons, List.filter_nil]
    split <;> rfl

/-- The first loop keeps its invariant, and stops at `argc` or at the first argument that is
not an option. -/
theorem processArgsLoop_compacted (B : ArgsBuild) (jni : Bool) (orig : List CString) :
    ∀ (fuel : Nat) (st st' : ArgsState), Compacted jni orig st →
      st.oldIndex + fuel = orig.length → processArgsLoop B jni fuel st = .ok st' →
      Compacted jni orig st' ∧
        (st'.oldIndex = orig.length ∨ isVMOption (orig.getD st'.oldIndex []) = false)
  | 0, st, st', hc, hfuel, h => by
    cases h
    exact ⟨hc, .inl (by omega)⟩
  | fuel + 1, st, st', hc, hfuel, h => by
    have hlt : st.oldIndex < orig.length := by omega
    have hrest : (st.oldIndex + 1) + fuel = orig.length := by omega
    have harg : st.argv st.oldIndex = orig.getD st.oldIndex [] := hc.unread _ le_rfl
    rw [processArgsLoop, harg] at h
    by_cases h0 : (orig.getD st.oldIndex []).at 0 ≠ '-'
    · rw [if_pos h0] at h
      cases h
      exact ⟨hc, .inr (Bool.eq_false_iff.2 fun h' => h0 (isVMOption_eq_true.1 h'))⟩
    have hopt := isVMOption_eq_true.2 (not_not.1 h0)
    rw [if_neg h0] at h
    by_cases hk : (orig.getD st.oldIndex []).at 1 ≠ 'X' ∧
        (jni = true ∨ (orig.getD st.oldIndex []).at 1 ≠ 'J')
    · -- an option kept for the Java side
      rw [if_pos hk] at h
      have hjvm := javaVMOption_of_keptOption (keptOption_eq_true.2 hk)
      refine processArgsLoop_compacted B jni orig fuel { st with
        argv := Function.update st.argv st.newIndex (orig.getD st.oldIndex []),
        newIndex := st.newIndex + 1, oldIndex := st.oldIndex + 1 } st' (hc.next hlt hopt rfl ?_ le_rfl
        (by rw [hjvm, if_neg Bool.false_ne_true, List.append_nil]) fun k hk' =>
          Function.update_noteq (by have := hc.new_le_old; dsimp only at hk'; omega) _ _) hrest h
      rw [if_pos (keptOption_eq_true.2 hk)]
      exact map_range_update _ _ _
    rw [if_neg hk] at h
    have hkept : keptOption jni (orig.getD st.oldIndex []) = false :=
      Bool.eq_false_iff.2 fun h' => hk (keptOption_eq_true.1 h')
    have hsame : (List.range st.newIndex).map st.argv = (List.range st.newIndex).map st.argv ++
        if keptOption jni (orig.getD st.oldIndex []) then [orig.getD st.oldIndex []] else [] := by
      rw [hkept, if_neg Bool.false_ne_true, List.append_nil]
    by_cases hx : (orig.getD st.oldIndex []).at 1 = 'X'
    · -- a `-X` option
      rw [if_pos hx] at h
      have hjvm : javaVMOption jni (orig.getD st.oldIndex []) = false := javaVMOption_of_X hx
      cases hopts : xOption B ((orig.getD st.oldIndex []).drop 2) st.opts with
      | error e => rw [hopts] at h; cases h
      | ok opts =>
        rw [hopts] at h
        exact processArgsLoop_compacted B jni orig fuel { st with opts, oldIndex := st.oldIndex + 1 }
          st' (hc.next hlt hopt rfl hsame
          (Nat.le_succ _) (by rw [hjvm, if_neg Bool.false_ne_true, List.append_nil])
          fun _ _ => rfl) hrest h
    rw [if_neg hx] at h
    by_cases hfull : MAX_JVM_ARGS ≤ st.javaVMArgs.length
    · rw [if_pos hfull] at h; cases h
    · -- a `-J` flag
      rw [if_neg hfull] at h
      have hjvm := javaVMOption_of_not_keptOption hkept hx
      exact processArgsLoop_compacted B jni orig fuel { st with
        javaVMArgs := st.javaVMArgs ++ [(orig.getD st.oldIndex []).drop 2],
        oldIndex := st.oldIndex + 1 } st' (hc.next hlt hopt rfl hsame
        (Nat.le_succ _) (by rw [hjvm, if_pos rfl]) fun _ _ => rfl) hrest h

theorem copyArgs_javaVMArgs : ∀ (fuel : Nat) (st : ArgsState),
    (copyArgs fuel st).javaVMArgs = st.javaVMArgs
  | 0, _ => rfl
  | fuel + 1, _ => copyArgs_javaVMArgs fuel _

/-- The second loop appends the unread arguments after the kept ones. -/
theorem copyArgs_map (orig : List CString) :
    ∀ (fuel : Nat) (st : ArgsState), st.newIndex ≤ st.oldIndex →
      st.oldIndex + fuel = orig.length → (∀ k, st.oldIndex ≤ k → st.argv k = orig.getD k []) →
      (List.range (copyArgs fuel st).newIndex).map (copyArgs fuel st).argv =
        (List.range st.newIndex).map st.argv ++ orig.drop st.oldIndex
  | 0, st, _, hfuel, _ => by simp [copyArgs, List.drop_eq_nil_of_le (by omega : orig.length ≤ st.oldIndex)]
  | fuel + 1, st, hle, hfuel, hunread => by
    have hlt : st.oldIndex < orig.length := by omega
    rw [copyArgs, copyArgs_map orig fuel _ (by simp; omega) (by simp; omega) fun k hk => by
      simp only at hk ⊢
      rw [Function.update_noteq (by omega), hunread k (by omega)]]
    simp only
    rw [map_range_update, hunread _ le_rfl, List.drop_eq_getElem_cons hlt, List.append_assoc]
    simp [List.getD_eq_getElem?_getD, List.getElem?_eq_getElem hlt]

/-- Where the first loop stops, the options read are the longest prefix of options. -/
theorem takeWhile_eq_take {l : List CString} {p : CString → Bool} :
    ∀ {n : Nat}, n ≤ l.length → (∀ a ∈ l.take n, p a = true) →
      (n = l.length ∨ p (l.getD n []) = false) →
      l.takeWhile p = l.take n ∧ l.dropWhile p = l.drop n := by
  induction l with
  | nil => intro n _ _ _; simp
  | cons a l ih =>
    intro n hn hall hstop
    cases n with
    | zero =>
      rcases hstop with h | h
      · simp at h
      · simp [List.takeWhile_cons, List.dropWhile_cons, show p a = false by simpa using h]
    | succ n =>
      have ha : p a = true := hall a (by simp)
      obtain ⟨h1, h2⟩ := ih (by simpa using hn) (fun b hb => hall b (by simp [hb]))
        (by simpa using hstop)
      simp [List.takeWhile_cons, List.dropWhile_cons, ha, h1, h2]

/-- Whenever `processArgs` returns, the `argv` it hands to `setupMemory` is the VM options that
are neither `-X` nor (outside a JNI launch) `-J`, in their order, followed by the main class and
everything after it; and the `-J` flags it hands to the embedded JVM are those of the options,
in order, without their `-J`. -/
theorem processArgs_compacts_argv (B : ArgsBuild) (isLaunchedViaJNI : Bool)
    (options : VMOptions) (argv : List CString) {st : ArgsState}
    (h : processArgs B isLaunchedViaJNI options argv = .ok st) :
    (List.range st.newIndex).map st.argv =
        (argv.takeWhile isVMOption).filter (keptOption isLaunchedViaJNI) ++
          argv.dropWhile isVMOption ∧
      st.javaVMArgs =
        ((argv.takeWhile isVMOption).filter (javaVMOption isLaunchedViaJNI)).map (·.drop 2) := by
  cases h1 : processArgsLoop B isLaunchedViaJNI argv.length (ArgsState.init B options argv) with
  | error e => simp only [processArgs, h1] at h; cases h
  | ok st1 =>
    simp only [processArgs, h1, Except.ok.injEq] at h
    subst h
    have h0 : Compacted isLaunchedViaJNI argv (ArgsState.init B options argv) :=
      ⟨le_rfl, Nat.zero_le _, by simp [ArgsState.init], by simp [ArgsState.init],
        by simp [ArgsState.init], fun _ _ => rfl⟩
    obtain ⟨hc, hstop⟩ := processArgsLoop_compacted B isLaunchedViaJNI argv _ _ _ h0 (Nat.zero_add _) h1
    obtain ⟨htw, hdw⟩ := takeWhile_eq_take hc.old_le hc.options hstop
    refine ⟨?_, ?_⟩
    · simp only
      rw [copyArgs_map argv _ st1 hc.new_le_old (by have := hc.old_le; omega) hc.unread, hc.kept,
        htw, hdw]
    · simp only [copyArgs_javaVMArgs]
      rw [hc.java_vm_args, htw]

/-- `squawk -Xmx:2M -Dfoo -Jbar Main -Xmx:3 arg`: the Java side gets `-Dfoo Main -Xmx:3 arg`,
the embedded JVM `bar`. -/
theorem processArgs_compacts_argv_of_command_line :
    ∃ st, processArgs ⟨false, false, false, false⟩ false (VMOptions.init ⟨false, false, false, false⟩)
        ["-Xmx:2M".toList, "-Dfoo".toList, "-Jbar".toList, "Main".toList, "-Xmx:3".toList,
          "arg".toList] = .ok st ∧
      (List.range st.newIndex).map st.argv =
        ["-Dfoo".toList, "Main".toList, "-Xmx:3".toList, "arg".toList] ∧
      st.javaVMArgs = ["bar".toList] := by
  obtain ⟨st, hst⟩ : ∃ st, processArgs ⟨false, false, false, false⟩ false
      (VMOptions.init ⟨false, false, false, false⟩) ["-Xmx:2M".toList, "-Dfoo".toList,
        "-Jbar".toList, "Main".toList, "-Xmx:3".toList, "arg".toList] = .ok st := ⟨_, rfl⟩
  have h := processArgs_compacts_argv _ _ _ _ hst
  exact ⟨st, hst, h.1.trans (by decide), h.2.trans (by decide)⟩

end SquawkVM
