import Mathlib.Logic.Function.Basic
import Mathlib.Data.List.Nodup

/-! The stream selection of the channel dispatcher (`cio.c`): `INTERNAL_SETSTREAM`, and the
globals `streams` and `currentStream` from which every printing operation of `cioExecute`
takes `vmOut`. -/

namespace SquawkVM

/-- `MAX_STREAMS`. -/
def MAX_STREAMS : Int := 4

/-- The stream indices of `java.lang.VM`, generated on the Java side and missing from `src/`.
`initializeGlobals` and `INTERNAL_SETSTREAM` use them as distinct slots of `streams`. -/
structure StreamConstants where
  STREAM_STDOUT : Int
  STREAM_STDERR : Int
  STREAM_SYMBOLS : Int
  slots : ∀ i ∈ [STREAM_STDOUT, STREAM_STDERR, STREAM_SYMBOLS], 0 ≤ i ∧ i < MAX_STREAMS
  distinct : [STREAM_STDOUT, STREAM_STDERR, STREAM_SYMBOLS].Nodup

/-- The globals `streams` (as `FILE *` words, `0` for `NULL`) and `currentStream`, and the
`java_lang_ServiceOperation_result` that `INTERNAL_SETSTREAM` sets. -/
structure CioState where
  streams : Nat → Int
  currentStream : Int
  result : Int

/-- `initializeGlobals`: everything zero, then `stdout` and `stderr` in their slots and
`STREAM_STDERR` selected. -/
def CioState.init (K : StreamConstants) (stdout stderr : Int) : CioState :=
  ⟨Function.update (Function.update (fun _ => 0) K.STREAM_STDOUT.toNat stdout)
    K.STREAM_STDERR.toNat stderr, K.STREAM_STDERR, 0⟩

/-- `streams[i]`: a slot of the array, or for `i` outside it the word of memory around the
array that the access reaches, which `outOfBounds` gives from the index and `currentStream`
(on the layout of `Globals`, `streams[MAX_STREAMS]` is `currentStream` itself). -/
def CioState.read (outOfBounds : Int → Int → Int) (s : CioState) (i : Int) : Int :=
  if 0 ≤ i ∧ i < MAX_STREAMS then s.streams i.toNat else outOfBounds i s.currentStream

/-- `vmOut = streams[currentStream]`, the stream every printing operation writes to. -/
def CioState.vmOut (outOfBounds : Int → Int → Int) (s : CioState) : Int :=
  s.read outOfBounds s.currentStream

/-- How `cioExecute` leaves the VM: `fatalVMError(msg)`, or `stopVM(exitCode)`. -/
inductive CioExit where
  | fatal (msg : String)
  | stop (exitCode : Int)
  deriving DecidableEq, Repr

section
variable (K : StreamConstants) (ASSUME : Bool) (outOfBounds : Int → Int → Int)

/-- The `INTERNAL_SETSTREAM` case of `cioExecute`, given what `fopen` of the symbols file
returns. `assume` checks only in a build with `ASSUME` set. -/
def setStream (fopenResult i1 : Int) (s : CioState) : Except CioExit CioState :=
  let s := { s with result := s.currentStream, currentStream := i1 }
  let opened : Except CioExit CioState :=
    if s.read outOfBounds s.currentStream = 0 then
      if s.currentStream = K.STREAM_SYMBOLS then
        .ok { s with streams := Function.update s.streams s.currentStream.toNat fopenResult }
      else .error (.fatal "Bad INTERNAL_SETSTREAM")
    else .ok s
  opened.bind fun s =>
    if ASSUME ∧ s.read outOfBounds s.currentStream = 0 then .error (.fatal "") else .ok s

/-- The cases of the `switch (op)` of `cioExecute` as they bear on the streams:
`INTERNAL_SETSTREAM`; the printing operations, which write to `vmOut`; `INTERNAL_STOPVM`;
`INTERNAL_MATH`; and the rest, which neither read nor write `streams` or `currentStream`. -/
inductive CioOp where
  | setStream | print | stopVM | math | other
  deriving DecidableEq, Repr

/-- `cioExecute()`: the `FILE *` a printing operation wrote to, and the state after. -/
def cioExecute (fopenResult : Int) (op : CioOp) (i1 : Int) (s : CioState) :
    Except CioExit (Option Int × CioState) :=
  match op with
  | .setStream => (setStream K ASSUME outOfBounds fopenResult i1 s).map (none, ·)
  | .print => .ok (some (s.vmOut outOfBounds), s)
  | .stopVM => .error (.stop i1)
  | .math => .error (.fatal "Unimplemented internal channel I/O operation")
  | .other => .ok (none, s)

/-- A sequence of calls `(fopenResult, op, i1)` of `cioExecute`: the streams printed to, and
the final state or the exit. -/
def runCio : CioState → List (Int × CioOp × Int) → List Int × Except CioExit CioState
  | s, [] => ([], .ok s)
  | s, (fopenResult, op, i1) :: calls =>
    match cioExecute K ASSUME outOfBounds fopenResult op i1 s with
    | .error e => ([], .error e)
    | .ok (w, s') => (w.toList ++ (runCio s' calls).1, (runCio s' calls).2)

end

@[simp] theorem CioState.init_currentStream (K : StreamConstants) (stdout stderr : Int) :
    (CioState.init K stdout stderr).currentStream = K.STREAM_STDERR := rfl

/-- `STREAM_SYMBOLS` has no stream after `initializeGlobals`. -/
theorem CioState.init_symbols (K : StreamConstants) (stdout stderr : Int) :
    (CioState.init K stdout stderr).streams K.STREAM_SYMBOLS.toNat = 0 := by
  have hs := K.slots
  have hd := K.distinct
  simp only [List.mem_cons, List.mem_singleton, forall_eq_or_imp, forall_eq,
    List.nodup_cons, List.not_mem_nil, not_false_eq_true, List.nodup_nil, and_true] at hs hd
  simp only [CioState.init, Function.update, eq_rec_constant, dite_eq_ite]
  rw [if_neg (by omega), if_neg (by omega)]

/-- Selecting the symbols stream when `fopen` fails leaves `vmOut` `NULL` in a build without
`ASSUME`, and a print then writes to it. Selecting index `MAX_STREAMS` reads the word past the
array, on the layout of `Globals` the new `currentStream` itself; that word is not `NULL`, so
neither the fatal branch nor `assume` stops the VM, and `currentStream` is left out of range. -/
theorem setStream_selects_null_or_out_of_range (K : StreamConstants) (stdout stderr : Int)
    (ASSUME : Bool) (outOfBounds : Int → Int → Int)
    (hlayout : outOfBounds MAX_STREAMS MAX_STREAMS ≠ 0) :
    (∃ s, runCio K false outOfBounds (CioState.init K stdout stderr)
        [(0, .setStream, K.STREAM_SYMBOLS), (0, .print, 0)] = ([0], .ok s) ∧
      s.currentStream = K.STREAM_SYMBOLS) ∧
    (∃ s, runCio K ASSUME outOfBounds (CioState.init K stdout stderr)
        [(0, .setStream, MAX_STREAMS), (0, .print, 0)] =
          ([outOfBounds MAX_STREAMS MAX_STREAMS], .ok s) ∧
      ¬s.currentStream < MAX_STREAMS) := by
  have hs := (K.slots K.STREAM_SYMBOLS (by simp))
  have hsym := CioState.init_symbols K stdout stderr
  refine ⟨⟨⟨Function.update (CioState.init K stdout stderr).streams K.STREAM_SYMBOLS.toNat 0,
      K.STREAM_SYMBOLS, K.STREAM_STDERR⟩, ?_, rfl⟩,
    ⟨⟨(CioState.init K stdout stderr).streams, MAX_STREAMS, K.STREAM_STDERR⟩, ?_, by simp⟩⟩
  · simp [runCio, cioExecute, setStream, CioState.vmOut, CioState.read, hs, hsym, Except.map,
      Except.bind]
  · simp [runCio, cioExecute, setStream, CioState.vmOut, CioState.read, hlayout, Except.map,
      Except.bind]

theorem setStream_selects_null_or_out_of_range_on_globals_layout :
    (fun _ currentStream => currentStream : Int → Int → Int) MAX_STREAMS MAX_STREAMS ≠ 0 ∧
    ((∃ s, runCio ⟨0, 1, 2, by decide, by decide⟩ false (fun _ currentStream => currentStream)
        (CioState.init ⟨0, 1, 2, by decide, by decide⟩ 1 2) [(0, .setStream, 2), (0, .print, 0)] =
          ([0], .ok s) ∧ s.currentStream = 2) ∧
    (∃ s, runCio ⟨0, 1, 2, by decide, by decide⟩ true (fun _ currentStream => currentStream)
        (CioState.init ⟨0, 1, 2, by decide, by decide⟩ 1 2)
        [(0, .setStream, MAX_STREAMS), (0, .print, 0)] = ([MAX_STREAMS], .ok s) ∧
      ¬s.currentStream < MAX_STREAMS)) :=
  ⟨by decide, setStream_selects_null_or_out_of_range ⟨0, 1, 2, by decide, by decide⟩ 1 2 true
    (fun _ currentStream => currentStream) (by decide)⟩

/-! ### Where selection is sound -/

/-- What `INTERNAL_SETSTREAM` is meant to keep: the selected index is a slot of `streams`
holding a stream. -/
structure StreamSelected (s : CioState) : Prop where
  in_range : 0 ≤ s.currentStream ∧ s.currentStream < MAX_STREAMS
  open_stream : s.streams s.currentStream.toNat ≠ 0

section
variable {K : StreamConstants} {outOfBounds : Int → Int → Int}

theorem StreamSelected.vmOut_ne_zero {s : CioState} (h : StreamSelected s) :
    s.vmOut outOfBounds ≠ 0 := by
  simpa [CioState.vmOut, CioState.read, h.in_range] using h.open_stream

theorem StreamSelected.init {stdout stderr : Int} (hstderr : stderr ≠ 0) :
    StreamSelected (CioState.init K stdout stderr) :=
  ⟨by simpa using K.slots K.STREAM_STDERR (by simp), by simpa [CioState.init] using hstderr⟩

theorem except_bind_eq_ok {ε α β : Type} {x : Except ε α} {f : α → Except ε β} {b : β}
    (h : x.bind f = .ok b) : ∃ a, x = .ok a ∧ f a = .ok b := by
  cases x with
  | error e => cases h
  | ok a => exact ⟨a, rfl, h⟩

/-- A `SETSTREAM` that returns has selected `i1`, and with `ASSUME` set `streams[i1]` is not
`NULL`. -/
theorem setStream_ok {ASSUME : Bool} {fopenResult i1 : Int} {s s' : CioState}
    (h : setStream K ASSUME outOfBounds fopenResult i1 s = .ok s') :
    s'.currentStream = i1 ∧ (ASSUME = true → s'.read outOfBounds i1 ≠ 0) := by
  obtain ⟨s₁, h₁, h₂⟩ := except_bind_eq_ok h
  have hcur : s₁.currentStream = i1 := by
    split at h₁
    · split at h₁ <;> cases h₁
      rfl
    · cases h₁
      rfl
  split at h₂
  · cases h₂
  · cases h₂
    exact ⟨hcur, fun hA => by simp_all⟩

/-- With `ASSUME` set, selecting a slot of the array either stops the VM or selects a stream. -/
theorem setStream_selected {fopenResult i1 : Int} {s s' : CioState}
    (hi : 0 ≤ i1 ∧ i1 < MAX_STREAMS) (h : setStream K true outOfBounds fopenResult i1 s = .ok s') :
    StreamSelected s' := by
  obtain ⟨hcur, hread⟩ := setStream_ok h
  subst hcur
  exact ⟨hi, by simpa [CioState.read, hi] using hread rfl⟩

/-- One call of `cioExecute` with `ASSUME` set and an index in the array keeps a stream
selected, and a print writes to a stream. -/
theorem cioExecute_selected {fopenResult i1 : Int} {op : CioOp} {s s' : CioState}
    {w : Option Int} (hi : op = .setStream → 0 ≤ i1 ∧ i1 < MAX_STREAMS) (hs : StreamSelected s)
    (h : cioExecute K true outOfBounds fopenResult op i1 s = .ok (w, s')) :
    StreamSelected s' ∧ ∀ v ∈ w, v ≠ 0 := by
  cases op <;> simp only [cioExecute, Except.map, reduceCtorEq, Except.ok.injEq,
    Prod.mk.injEq] at h
  case setStream =>
    split at h <;> simp only [reduceCtorEq, Except.ok.injEq, Prod.mk.injEq] at h
    obtain ⟨rfl, rfl⟩ := h
    exact ⟨setStream_selected (hi rfl) ‹_›, by simp⟩
  case print =>
    obtain ⟨rfl, rfl⟩ := h
    exact ⟨hs, by simpa using hs.vmOut_ne_zero⟩
  case other =>
    obtain ⟨rfl, rfl⟩ := h
    exact ⟨hs, by simp⟩

/-- In a build with `ASSUME` set, a run from `initializeGlobals` whose `INTERNAL_SETSTREAM`
indices are slots of the array prints only to streams and keeps a stream selected. -/
theorem runCio_prints_to_open_streams (stdout stderr : Int) (hstderr : stderr ≠ 0)
    (calls : List (Int × CioOp × Int))
    (hcalls : ∀ c ∈ calls, c.2.1 = .setStream → 0 ≤ c.2.2 ∧ c.2.2 < MAX_STREAMS) :
    (∀ w ∈ (runCio K true outOfBounds (CioState.init K stdout stderr) calls).1, w ≠ 0) ∧
      ∀ s, (runCio K true outOfBounds (CioState.init K stdout stderr) calls).2 = .ok s →
        StreamSelected s := by
  suffices ∀ s, StreamSelected s → (∀ w ∈ (runCio K true outOfBounds s calls).1, w ≠ 0) ∧
      ∀ s', (runCio K true outOfBounds s calls).2 = .ok s' → StreamSelected s' from
    this _ (StreamSelected.init hstderr)
  induction calls with
  | nil =>
    refine fun s hs => ⟨by simp [runCio], fun s' h => ?_⟩
    simp only [runCio, Except.ok.injEq] at h
    exact h ▸ hs
  | cons c calls ih =>
    obtain ⟨fopenResult, op, i1⟩ := c
    intro s hs
    have hrest := ih fun c hc => hcalls c (List.mem_cons_of_mem _ hc)
    cases he : cioExecute K true outOfBounds fopenResult op i1 s with
    | error e => simp [runCio, he]
    | ok r =>
      obtain ⟨w, s'⟩ := r
      obtain ⟨hs', hw⟩ := cioExecute_selected (hcalls _ (List.mem_cons_self _ _)) hs he
      simp only [runCio, he, List.mem_append, Option.mem_toList]
      exact ⟨fun v hv => hv.elim (hw v) ((hrest s' hs').1 v), (hrest s' hs').2⟩

end

theorem runCio_prints_to_open_streams_after_symbols :
    (2 : Int) ≠ 0 ∧
    (∀ c ∈ [((5 : Int), CioOp.setStream, (2 : Int)), (0, .print, 0)],
      c.2.1 = .setStream → 0 ≤ c.2.2 ∧ c.2.2 < MAX_STREAMS) ∧
    ((∀ w ∈ (runCio ⟨0, 1, 2, by decide, by decide⟩ true (fun _ currentStream => currentStream)
        (CioState.init ⟨0, 1, 2, by decide, by decide⟩ 1 2)
        [(5, .setStream, 2), (0, .print, 0)]).1, w ≠ 0) ∧
      ∀ s, (runCio ⟨0, 1, 2, by decide, by decide⟩ true (fun _ currentStream => currentStream)
        (CioState.init ⟨0, 1, 2, by decide, by decide⟩ 1 2)
        [(5, .setStream, 2), (0, .print, 0)]).2 = .ok s → StreamSelected s) :=
  ⟨by decide, by decide, runCio_prints_to_open_streams 1 2 (by decide) _ (by decide)⟩

/-! ### Closing the streams -/

/-- What `finalizeStreams` does to a stream. -/
inductive StreamCall where
  | fflush (file : Int)
  | fclose (file : Int)
  deriving DecidableEq, Repr

/-- A call that closes its stream. -/
def StreamCall.isClose : StreamCall → Bool
  | .fclose _ => true
  | .fflush _ => false

/-- The body of the loop of `finalizeStreams` for the slot holding `file`. -/
def finalizeStream (stdout stderr file : Int) : List StreamCall :=
  if file ≠ 0 then
    .fflush file :: if file ≠ stdout ∧ file ≠ stderr then [.fclose file] else []
  else []

/-- `finalizeStreams()`, the first thing `stopVM` does: the slots of `streams` in order, each
stream flushed, and closed unless it is `stdout` or `stderr`. -/
def finalizeStreams (stdout stderr : Int) (s : CioState) : List StreamCall :=
  (List.range MAX_STREAMS.toNat).flatMap fun i => finalizeStream stdout stderr (s.streams i)

/-- The slots other than `STREAM_SYMBOLS` hold what `initializeGlobals` put there. -/
def StreamsKept (K : StreamConstants) (stdout stderr : Int) (s : CioState) : Prop :=
  ∀ i, i ≠ K.STREAM_SYMBOLS.toNat → s.streams i = (CioState.init K stdout stderr).streams i

theorem CioState.init_streams (K : StreamConstants) (stdout stderr : Int) (i : Nat) :
    (CioState.init K stdout stderr).streams i =
      if i = K.STREAM_STDERR.toNat then stderr else if i = K.STREAM_STDOUT.toNat then stdout
      else 0 := by
  simp only [CioState.init, Function.update_apply]

theorem flatMap_eq_of_unique {α β : Type} {l : List α} (hl : l.Nodup) {j : α} (hj : j ∈ l)
    (g : α → List β) (hg : ∀ i ∈ l, i ≠ j → g i = []) : l.flatMap g = g j := by
  induction l with
  | nil => cases hj
  | cons a l ih =>
    rw [List.flatMap_cons]
    obtain ⟨ha, hl⟩ := List.nodup_cons.1 hl
    rcases List.mem_cons.1 hj with rfl | hj
    · rw [List.flatMap_eq_nil_iff.2 fun i hi => hg i (.tail _ hi) (fun h => ha (h ▸ hi)),
        List.append_nil]
    · rw [hg a (.head _) (fun h => ha (h ▸ hj)), ih hl hj fun i hi => hg i (.tail _ hi),
        List.nil_append]

section
variable {K : StreamConstants} {outOfBounds : Int → Int → Int} {stdout stderr : Int}

theorem setStream_streamsKept {ASSUME : Bool} {fopenResult i1 : Int} {s s' : CioState}
    (hs : StreamsKept K stdout stderr s)
    (h : setStream K ASSUME outOfBounds fopenResult i1 s = .ok s') :
    StreamsKept K stdout stderr s' := by
  obtain ⟨s₁, h₁, h₂⟩ := except_bind_eq_ok h
  have hs₁ : StreamsKept K stdout stderr s₁ := by
    split at h₁
    · split at h₁
      · rename_i hsym
        cases h₁
        intro i hi
        dsimp only at hsym ⊢
        rw [Function.update_noteq (by rw [hsym]; exact hi)]
        exact hs i hi
      · cases h₁
    · cases h₁
      exact hs
  split at h₂
  · cases h₂
  · cases h₂
    exact hs₁

/-- A call of `cioExecute` changes no slot but `STREAM_SYMBOLS`. -/
theorem cioExecute_streamsKept {ASSUME : Bool} {fopenResult i1 : Int} {op : CioOp}
    {s s' : CioState} {w : Option Int} (hs : StreamsKept K stdout stderr s)
    (h : cioExecute K ASSUME outOfBounds fopenResult op i1 s = .ok (w, s')) :
    StreamsKept K stdout stderr s' := by
  cases op <;> simp only [cioExecute, reduceCtorEq, Except.ok.injEq, Prod.mk.injEq] at h
  case setStream =>
    cases hset : setStream K ASSUME outOfBounds fopenResult i1 s <;>
      simp only [hset, Except.map, reduceCtorEq, Except.ok.injEq, Prod.mk.injEq] at h
    exact h.2 ▸ setStream_streamsKept hs hset
  all_goals exact h.2 ▸ hs

theorem runCio_streamsKept {ASSUME : Bool} :
    ∀ (calls : List (Int × CioOp × Int)) {s s' : CioState}, StreamsKept K stdout stderr s →
      (runCio K ASSUME outOfBounds s calls).2 = .ok s' → StreamsKept K stdout stderr s'
  | [], s, s', hs, h => by
    simp only [runCio, Except.ok.injEq] at h
    exact h ▸ hs
  | (fopenResult, op, i1) :: calls, s, s', hs, h => by
    simp only [runCio] at h
    split at h
    · cases h
    · exact runCio_streamsKept calls (cioExecute_streamsKept hs ‹_›) h

/-- A slot as `initializeGlobals` leaves it is never closed. -/
theorem finalizeStream_init_no_close (i : Nat) :
    (finalizeStream stdout stderr ((CioState.init K stdout stderr).streams i)).filter
      StreamCall.isClose = [] := by
  rw [CioState.init_streams]
  split_ifs <;> simp [finalizeStream, StreamCall.isClose]

theorem mem_finalizeStream_fflush {f file : Int} :
    .fflush f ∈ finalizeStream stdout stderr file ↔ file ≠ 0 ∧ f = file := by
  unfold finalizeStream
  split_ifs <;> simp_all

/-- Whenever `stopVM` runs, after any calls of `cioExecute` from `initializeGlobals`, its
`finalizeStreams` closes one file at most: the symbols file, if `INTERNAL_SETSTREAM` opened it.
It never closes `stdout` or `stderr`, and it flushes exactly the standard streams and the
symbols file that are not `NULL`. -/
theorem stopVM_closes_only_symbols_file (ASSUME : Bool) (calls : List (Int × CioOp × Int))
    {s : CioState} (h : (runCio K ASSUME outOfBounds (CioState.init K stdout stderr) calls).2 = .ok s) :
    (finalizeStreams stdout stderr s).filter StreamCall.isClose =
      (if s.streams K.STREAM_SYMBOLS.toNat ≠ 0 ∧ s.streams K.STREAM_SYMBOLS.toNat ≠ stdout ∧
        s.streams K.STREAM_SYMBOLS.toNat ≠ stderr then [.fclose (s.streams K.STREAM_SYMBOLS.toNat)]
      else []) ∧
    ∀ f, .fflush f ∈ finalizeStreams stdout stderr s ↔
      f ≠ 0 ∧ (f = stdout ∨ f = stderr ∨ f = s.streams K.STREAM_SYMBOLS.toNat) := by
  have hk := runCio_streamsKept calls (fun _ _ => rfl) h
  have hslots := K.slots
  have hd := K.distinct
  simp only [List.mem_cons, List.mem_singleton, forall_eq_or_imp, forall_eq,
    List.nodup_cons, List.not_mem_nil, not_false_eq_true, List.nodup_nil, and_true] at hslots hd
  have hmax : MAX_STREAMS.toNat = 4 := rfl
  have hmax' : MAX_STREAMS = 4 := rfl
  constructor
  · rw [finalizeStreams, List.filter_flatMap, flatMap_eq_of_unique (List.nodup_range _)
      (j := K.STREAM_SYMBOLS.toNat) (List.mem_range.2 (by omega)) _ fun i _ hi => by rw [hk i hi, finalizeStream_init_no_close]]
    unfold finalizeStream
    split_ifs <;> simp_all [StreamCall.isClose]
  · intro f
    simp only [finalizeStreams, List.mem_flatMap, List.mem_range, hmax, mem_finalizeStream_fflush]
    constructor
    · rintro ⟨i, -, hi0, rfl⟩
      by_cases hsym : i = K.STREAM_SYMBOLS.toNat
      · exact ⟨hi0, .inr (.inr (hsym ▸ rfl))⟩
      · rw [hk i hsym, CioState.init_streams] at hi0 ⊢
        split_ifs at hi0 ⊢ <;> simp_all
    · rintro ⟨hf0, hf | hf | hf⟩
      · refine ⟨K.STREAM_STDOUT.toNat, by omega, ?_⟩
        rw [hk _ (by omega), CioState.init_streams, if_neg (by omega), if_pos rfl]
        exact ⟨hf ▸ hf0, hf⟩
      · refine ⟨K.STREAM_STDERR.toNat, by omega, ?_⟩
        rw [hk _ (by omega), CioState.init_streams, if_pos rfl]
        exact ⟨hf ▸ hf0, hf⟩
      · exact ⟨K.STREAM_SYMBOLS.toNat, by omega, hf ▸ hf0, hf⟩

end

theorem stopVM_closes_symbols_file_opened_by_setStream :
    ∃ s, (runCio ⟨0, 1, 2, by decide, by decide⟩ true (fun _ currentStream => currentStream)
        (CioState.init ⟨0, 1, 2, by decide, by decide⟩ 1 2)
        [(5, .setStream, 2), (0, .print, 0)]).2 = .ok s ∧
      ((finalizeStreams 1 2 s).filter StreamCall.isClose =
        (if s.streams (2 : Int).toNat ≠ 0 ∧ s.streams (2 : Int).toNat ≠ 1 ∧
          s.streams (2 : Int).toNat ≠ 2 then [.fclose (s.streams (2 : Int).toNat)] else []) ∧
      ∀ f, .fflush f ∈ finalizeStreams 1 2 s ↔
        f ≠ 0 ∧ (f = 1 ∨ f = 2 ∨ f = s.streams (2 : Int).toNat)) :=
  ⟨_, rfl, @stopVM_closes_only_symbols_file ⟨0, 1, 2, by decide, by decide⟩
    (fun _ currentStream => currentStream) 1 2 true [(5, .setStream, 2), (0, .print, 0)] _
    (by exact rfl)⟩

end SquawkVM
