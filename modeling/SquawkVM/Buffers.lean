import Mathlib.Data.List.Nodup
import Mathlib.Logic.Function.Basic

/-! The table of buffers allocated by native code (`newBuffer`, `freeBuffer`,
`freeBuffers` of `squawk.c`) and the way `stopVM` empties it. The host allocator is
part of the model: `obtained` and `freed` record the blocks `valloc` handed out and
the blocks given back with `free`, in call order. -/

namespace SquawkVM

/-- `MAX_BUFFERS`. -/
def MAX_BUFFERS : Nat := 10

/-- A block address returned by the host allocator; `0` is `null`. -/
abbrev Address := Nat

/-- The globals `Buffers` and `BufferCount`, with the host allocator's record of calls. -/
@[ext]
structure BufferState where
  buffers : Nat → Address
  bufferCount : Nat
  obtained : List Address
  freed : List Address

/-- The registry as `initializeGlobals` leaves it (`memset` to zero). -/
def BufferState.init : BufferState := ⟨fun _ => 0, 0, [], []⟩

/-- `Buffers[0..BufferCount)`. -/
def BufferState.entries (s : BufferState) : List Address :=
  (List.range s.bufferCount).map s.buffers

/-- One iteration of the compaction loop of `freeBuffer`: a matching entry is given back
to the host, any other entry is copied down to `Buffers[insert]`. -/
def freeBufferStep (buffer : Address) (acc : BufferState × Nat) (i : Nat) : BufferState × Nat :=
  if acc.1.buffers i = buffer then ({ acc.1 with freed := acc.1.freed ++ [buffer] }, acc.2)
  else ({ acc.1 with buffers := Function.update acc.1.buffers acc.2 (acc.1.buffers i) }, acc.2 + 1)

/-- The loop `while (i != BufferCount)` of `freeBuffer`, returning the state and `insert`. -/
def freeBufferLoop (buffer : Address) (s : BufferState) : BufferState × Nat :=
  (List.range s.bufferCount).foldl (freeBufferStep buffer) (s, 0)

/-- `freeBuffer` up to its consistency check; `.error` is the state in which it calls
`fatalVMError("buffer not in Buffers exactly once")`. -/
def freeBufferChecked (buffer : Address) (s : BufferState) : Except BufferState BufferState :=
  let r := freeBufferLoop buffer s
  if r.1.bufferCount ≠ r.2 + 1 then .error r.1 else .ok { r.1 with bufferCount := r.2 }

/-- After the first `n` iterations the kept entries sit at the front in their old order,
the array from index `n` on is untouched, and every match has been freed once. -/
theorem foldl_freeBufferStep (buffer : Address) (s : BufferState) (n : Nat) :
    let r := (List.range n).foldl (freeBufferStep buffer) (s, 0)
    (List.range r.2).map r.1.buffers = ((List.range n).map s.buffers).filter (· != buffer) ∧
    (∀ j, n ≤ j → r.1.buffers j = s.buffers j) ∧
    r.1.freed = s.freed ++ List.replicate (((List.range n).map s.buffers).count buffer) buffer ∧
    r.1.bufferCount = s.bufferCount ∧ r.1.obtained = s.obtained := by
  induction n with
  | zero => simp
  | succ n ih =>
    simp only [List.range_succ, List.foldl_append, List.foldl_cons, List.foldl_nil,
      List.map_append, List.map_singleton, List.filter_append, List.count_append]
    generalize (List.range n).foldl (freeBufferStep buffer) (s, 0) = r at ih ⊢
    obtain ⟨hkept, hrest, hfreed, hcount, hobt⟩ := ih
    have hn : r.1.buffers n = s.buffers n := hrest n le_rfl
    have hle : r.2 ≤ n := by
      simpa using (congrArg List.length hkept).trans_le (List.length_filter_le _ _)
    unfold freeBufferStep
    rw [hn]
    split
    · next heq =>
      refine ⟨by simp [hkept, heq], fun j hj => hrest j (by omega), ?_, hcount, hobt⟩
      simp [hfreed, heq, List.replicate_succ']
    · next hne =>
      refine ⟨?_, fun j hj => ?_, ?_, hcount, hobt⟩
      · rw [List.range_succ, List.map_append, List.map_congr_left fun k hk =>
          Function.update_noteq (List.mem_range.mp hk).ne _ _, hkept]
        simp [hne]
      · dsimp only
        rw [Function.update_noteq (by omega), hrest j (by omega)]
      · simp [hfreed, List.count_singleton', Ne.symm hne]

theorem freeBufferChecked_bufferCount {buffer : Address} {s s' : BufferState}
    (h : freeBufferChecked buffer s = .ok s') : s'.bufferCount < s.bufferCount := by
  have hc := (foldl_freeBufferStep buffer s s.bufferCount).2.2.2.1
  simp only [freeBufferChecked, freeBufferLoop] at h
  split at h
  · cases h
  · cases h
    dsimp only at hc ⊢
    omega

theorem freeBufferChecked_of_mem {buffer : Address} {s : BufferState} (hnd : s.entries.Nodup)
    (hmem : buffer ∈ s.entries) :
    ∃ s', freeBufferChecked buffer s = .ok s' ∧ s'.entries = s.entries.erase buffer ∧
      s'.freed = s.freed ++ [buffer] ∧ s'.obtained = s.obtained := by
  obtain ⟨hkept, -, hfreed, hcount, hobt⟩ := foldl_freeBufferStep buffer s s.bufferCount
  have hentries : s.entries = (List.range s.bufferCount).map s.buffers := rfl
  rw [← hentries, ← hnd.erase_eq_filter] at hkept
  rw [← hentries, List.count_eq_one_of_mem hnd hmem] at hfreed
  have hlen := congrArg List.length hkept
  rw [List.length_map, List.length_range, List.length_erase_of_mem hmem] at hlen
  have hpos : 0 < s.entries.length := List.length_pos_of_mem hmem
  simp only [BufferState.entries, List.length_map, List.length_range] at hpos
  simp only [freeBufferChecked, freeBufferLoop, hcount]
  rw [if_neg (by simp only [BufferState.entries, List.length_map, List.length_range] at hlen; omega)]
  exact ⟨_, rfl, hkept, hfreed, hobt⟩

theorem freeBufferChecked_of_not_mem {buffer : Address} {s : BufferState}
    (hmem : buffer ∉ s.entries) : freeBufferChecked buffer s = .error s := by
  obtain ⟨hkept, hrest, hfreed, hcount, hobt⟩ := foldl_freeBufferStep buffer s s.bufferCount
  have hentries : s.entries = (List.range s.bufferCount).map s.buffers := rfl
  have hall : s.entries.filter (· != buffer) = s.entries :=
    List.filter_eq_self.mpr fun a ha => by simpa using ne_of_mem_of_not_mem ha hmem
  rw [← hentries, hall] at hkept
  rw [← hentries, List.count_eq_zero_of_not_mem hmem] at hfreed
  generalize hr : (List.range s.bufferCount).foldl (freeBufferStep buffer) (s, 0) = r at *
  have hlen := congrArg List.length hkept
  simp only [BufferState.entries, List.length_map, List.length_range] at hlen
  have hs : r.1 = s := by
    ext k
    · by_cases hk : k < s.bufferCount
      · have := congrArg (·[k]?) hkept
        simpa [BufferState.entries, hlen, hk] using this
      · exact hrest k (by omega)
    · exact hcount
    · simp [hobt]
    · simp [hfreed]
  simp only [freeBufferChecked, freeBufferLoop, hr, hs, hlen]
  rw [if_pos (by omega)]

/-- `freeBuffers`: `while (BufferCount != 0) freeBuffer(Buffers[0])`. `.error` means that
`fatalVMError` was raised again from inside the loop. The loop ends because every
`freeBuffer` that passes its check lowers `BufferCount`. -/
def freeBuffers (s : BufferState) : Except BufferState BufferState :=
  if s.bufferCount = 0 then .ok s
  else match h : freeBufferChecked (s.buffers 0) s with
    | .error s' => .error s'
    | .ok s' =>
      have : s'.bufferCount < s.bufferCount := freeBufferChecked_bufferCount h
      freeBuffers s'
termination_by s.bufferCount

/-- On a registry without repeated entries `freeBuffers` ends with an empty table, having
given every registered block back once, oldest first. -/
theorem freeBuffers_of_nodup (s : BufferState) (hnd : s.entries.Nodup) :
    ∃ s', freeBuffers s = .ok s' ∧ s'.bufferCount = 0 ∧ s'.freed = s.freed ++ s.entries ∧
      s'.obtained = s.obtained := by
  generalize hn : s.bufferCount = n
  induction n generalizing s with
  | zero =>
    refine ⟨s, by rw [freeBuffers, if_pos hn], hn, ?_, rfl⟩
    simp [BufferState.entries, hn]
  | succ n ih =>
    have hhead : s.entries = s.buffers 0 :: (List.range n).map (s.buffers ∘ Nat.succ) := by
      simp [BufferState.entries, hn, List.range_succ_eq_map]
    obtain ⟨s1, h1, hent, hfreed, hobt⟩ :=
      freeBufferChecked_of_mem hnd (hhead ▸ List.mem_cons_self _ _)
    rw [hhead, List.erase_cons_head] at hent
    have hn1 : s1.bufferCount = n := by
      simpa [BufferState.entries] using congrArg List.length hent
    obtain ⟨s2, h2, hc2, hf2, ho2⟩ := ih s1 (hent ▸ (hhead ▸ hnd).of_cons) hn1
    refine ⟨s2, ?_, hc2, by rw [hf2, hfreed, hent, hhead]; simp, ho2.trans hobt⟩
    rw [freeBuffers, if_neg (by omega)]
    split
    · next h => rw [h1] at h; cases h
    · next h => rw [h1] at h; cases h; exact h2

/-- How a call that reaches `stopVM` ends. -/
inductive Stop where
  /-- `stopVM(exitCode)` ran `freeBuffers` and exits, or long-jumps to the Java host. -/
  | exit (exitCode : Int) (s : BufferState)
  /-- `freeBuffers` raised `fatalVMError` again, which re-enters `stopVM`. -/
  | cleanupFailed (s : BufferState)

/-- `stopVM(exitCode)`, as far as the buffer table is concerned. -/
def stopVM (exitCode : Int) (s : BufferState) : Stop :=
  match freeBuffers s with
  | .ok s' => .exit exitCode s'
  | .error s' => .cleanupFailed s'

/-- `fatalVMError` ends in `stopVM(-1)`. -/
def fatalVMError (s : BufferState) : Stop := stopVM (-1) s

/-- `freeBuffer(buffer)`. -/
def freeBuffer (buffer : Address) (s : BufferState) : Except Stop BufferState :=
  match freeBufferChecked buffer s with
  | .ok s' => .ok s'
  | .error s' => .error (fatalVMError s')

/-- `newBuffer(size, desc, fatalIfFail)` once `valloc` has answered `buffer` (`0` when it
failed): the block is zeroed, then registered if the table has room. -/
def newBuffer (fatalIfFail : Bool) (buffer : Address) (s : BufferState) :
    Except Stop (Address × BufferState) :=
  if buffer = 0 then
    if fatalIfFail then .error (stopVM 1 s) else .ok (0, s)
  else
    let s := { s with obtained := s.obtained ++ [buffer] }
    if MAX_BUFFERS ≤ s.bufferCount then .error (fatalVMError s)
    else .ok (buffer, { s with buffers := Function.update s.buffers s.bufferCount buffer,
                                bufferCount := s.bufferCount + 1 })

theorem stopVM_of_nodup (exitCode : Int) {s : BufferState} (hnd : s.entries.Nodup) :
    ∃ s', stopVM exitCode s = .exit exitCode s' ∧ s'.bufferCount = 0 ∧
      s'.freed = s.freed ++ s.entries ∧ s'.obtained = s.obtained := by
  obtain ⟨s', h, hc, hf, ho⟩ := freeBuffers_of_nodup s hnd
  exact ⟨s', by rw [stopVM, h], hc, hf, ho⟩

/-! ### The table against the list of live blocks -/

/-- A call on the buffer table: `newBuffer` once `valloc` has answered `buffer`, or
`freeBuffer(buffer)`. -/
inductive BufferCall where
  | newBuffer (fatalIfFail : Bool) (buffer : Address)
  | freeBuffer (buffer : Address)
  deriving DecidableEq, Repr

/-- One call on the table. -/
def BufferCall.run : BufferCall → BufferState → Except Stop BufferState
  | .newBuffer fatalIfFail buffer, s => Prod.snd <$> SquawkVM.newBuffer fatalIfFail buffer s
  | .freeBuffer buffer, s => SquawkVM.freeBuffer buffer s

/-- Runs calls until one of them reaches `stopVM`. -/
def runBuffers (s : BufferState) : List BufferCall → Except Stop BufferState
  | [] => .ok s
  | c :: cs => match c.run s with
    | .ok s' => runBuffers s' cs
    | .error stop => .error stop

/-- What the table stands for: the blocks `newBuffer` returned and nobody has freed, oldest
first. `none` is a call that stops the VM. -/
def BufferCall.live : BufferCall → List Address → Option (List Address)
  | .newBuffer fatalIfFail buffer, l =>
    if buffer = 0 then (if fatalIfFail then none else some l)
    else if MAX_BUFFERS ≤ l.length then none else some (l ++ [buffer])
  | .freeBuffer buffer, l => if buffer ∈ l then some (l.erase buffer) else none

/-- The list of live blocks after a sequence of calls. -/
def runLive (l : List Address) : List BufferCall → Option (List Address)
  | [] => some l
  | c :: cs => (c.live l).bind (runLive · cs)

/-- The host allocator's contract: `valloc` never returns a block that is still live. -/
def HostFresh : List Address → List BufferCall → Prop
  | _, [] => True
  | l, c :: cs =>
    (∀ fatalIfFail buffer, c = .newBuffer fatalIfFail buffer → buffer ∉ l) ∧
      ∀ l', c.live l = some l' → HostFresh l' cs

/-- The table lists exactly the live blocks `l`, each once, within its capacity. -/
structure Refines (s : BufferState) (l : List Address) : Prop where
  entries_eq : s.entries = l
  nodup : l.Nodup
  count_le : s.bufferCount ≤ MAX_BUFFERS

/-- A concrete outcome matches an abstract one: both running and related, or both stopped
through `stopVM`, which has emptied the table. -/
def Agrees : Except Stop BufferState → Option (List Address) → Prop
  | .ok s, some l => Refines s l
  | .error (.exit _ s), none => s.bufferCount = 0
  | _, _ => False

theorem stopVM_agrees (exitCode : Int) {s : BufferState} (hnd : s.entries.Nodup) :
    Agrees (.error (stopVM exitCode s)) none := by
  obtain ⟨s', h, hc, -⟩ := stopVM_of_nodup exitCode hnd
  rw [h]
  exact hc

theorem entries_register (s : BufferState) (buffer : Address) :
    (List.range (s.bufferCount + 1)).map (Function.update s.buffers s.bufferCount buffer) =
      s.entries ++ [buffer] := by
  rw [List.range_succ, List.map_append, List.map_congr_left fun k hk =>
    Function.update_noteq (List.mem_range.mp hk).ne _ _]
  simp [BufferState.entries]

/-- One call keeps the table in step with the live list. -/
theorem BufferCall.run_agrees {c : BufferCall} {s : BufferState} {l : List Address}
    (hr : Refines s l) (hfresh : ∀ fatalIfFail buffer, c = .newBuffer fatalIfFail buffer → buffer ∉ l) :
    Agrees (c.run s) (c.live l) := by
  have hlen : s.bufferCount = l.length := by
    simpa [BufferState.entries] using congrArg List.length hr.entries_eq
  have hnd : s.entries.Nodup := hr.entries_eq ▸ hr.nodup
  cases c with
  | newBuffer fatalIfFail buffer =>
    simp only [BufferCall.run, BufferCall.live, SquawkVM.newBuffer]
    by_cases h0 : buffer = 0
    · cases fatalIfFail
      · simpa [h0] using hr
      · simpa [h0] using stopVM_agrees 1 hnd
    · by_cases hfull : MAX_BUFFERS ≤ l.length
      · simpa [h0, hfull, hlen, fatalVMError] using
          stopVM_agrees (s := { s with obtained := s.obtained ++ [buffer] }) (-1) hnd
      · have hroom : ¬MAX_BUFFERS ≤ s.bufferCount := hlen ▸ hfull
        simp only [h0, hfull, hroom, if_false]
        refine ⟨?_, ?_, ?_⟩
        · rw [← hr.entries_eq]
          exact entries_register s buffer
        · exact List.nodup_append.mpr ⟨hr.nodup, List.nodup_singleton _,
            List.disjoint_singleton.mpr (hfresh _ _ rfl)⟩
        · dsimp only; omega
  | freeBuffer buffer =>
    simp only [BufferCall.run, BufferCall.live, SquawkVM.freeBuffer]
    by_cases hmem : buffer ∈ l
    · obtain ⟨s', h, hent, -⟩ := freeBufferChecked_of_mem hnd (hr.entries_eq ▸ hmem)
      rw [h, if_pos hmem]
      exact ⟨by rw [hent, hr.entries_eq], hr.nodup.erase _,
        (freeBufferChecked_bufferCount h).le.trans hr.count_le⟩
    · rw [freeBufferChecked_of_not_mem (hr.entries_eq ▸ hmem), if_neg hmem]
      exact stopVM_agrees (-1) hnd

theorem runBuffers_agrees {s : BufferState} {l : List Address} (hr : Refines s l) :
    ∀ calls, HostFresh l calls → Agrees (runBuffers s calls) (runLive l calls)
  | [], _ => hr
  | c :: cs, ⟨hfresh, hrest⟩ => by
    have hstep := BufferCall.run_agrees hr hfresh
    simp only [runBuffers, runLive]
    cases hrun : c.run s with
    | error stop =>
      rw [hrun] at hstep
      cases hlive : c.live l with
      | none => simpa [hlive] using hstep
      | some l' => rw [hlive] at hstep; cases stop <;> exact hstep.elim
    | ok s' =>
      rw [hrun] at hstep
      cases hlive : c.live l with
      | none => rw [hlive] at hstep; exact hstep.elim
      | some l' =>
        rw [hlive] at hstep
        exact runBuffers_agrees hstep cs (hrest l' hlive)

theorem Refines.init : Refines BufferState.init [] := ⟨rfl, List.nodup_nil, by decide⟩

/-- The buffer table from `initializeGlobals` on: along every run with a host that never
hands out a live block twice, `Buffers[0..BufferCount)` lists the live blocks once each in
allocation order within `MAX_BUFFERS`; `freeBuffer` gives a registered block back once and
closes the gap, and reaches `fatalVMError` on an unregistered one with the table as it was;
`freeBuffers` empties the table after freeing every entry once. -/
theorem buffer_table_tracks_live_blocks :
    (∀ calls, HostFresh [] calls →
      Agrees (runBuffers BufferState.init calls) (runLive [] calls)) ∧
    (∀ (s : BufferState) (buffer : Address), s.entries.Nodup → buffer ∈ s.entries →
      ∃ s', freeBuffer buffer s = .ok s' ∧ s'.entries = s.entries.erase buffer ∧
        s'.freed = s.freed ++ [buffer]) ∧
    (∀ (s : BufferState) (buffer : Address), buffer ∉ s.entries →
      freeBuffer buffer s = .error (fatalVMError s)) ∧
    (∀ s : BufferState, s.entries.Nodup →
      ∃ s', freeBuffers s = .ok s' ∧ s'.bufferCount = 0 ∧ s'.freed = s.freed ++ s.entries) := by
  refine ⟨fun calls h => runBuffers_agrees Refines.init calls h, fun s buffer hnd hmem => ?_,
    fun s buffer hmem => by rw [freeBuffer, freeBufferChecked_of_not_mem hmem], fun s hnd => ?_⟩
  · obtain ⟨s', h, hent, hfreed, -⟩ := freeBufferChecked_of_mem hnd hmem
    exact ⟨s', by rw [freeBuffer, h], hent, hfreed⟩
  · obtain ⟨s', h, hc, hf, -⟩ := freeBuffers_of_nodup s hnd
    exact ⟨s', h, hc, hf⟩

theorem runBuffers_append (s : BufferState) (cs ds : List BufferCall) :
    runBuffers s (cs ++ ds) = match runBuffers s cs with
      | .ok s' => runBuffers s' ds
      | .error stop => .error stop := by
  induction cs generalizing s with
  | nil => rfl
  | cons c cs ih =>
    simp only [List.cons_append, runBuffers]
    split
    · exact ih _
    · rfl

/-- Eleven calls of `newBuffer(..., true)` with no `freeBuffer` in between, `valloc`
answering the blocks `1` to `11`. -/
def elevenAllocations : List BufferCall := (List.range 11).map fun k => .newBuffer true (k + 1)

/-- The eleventh allocation finds the table full: `fatalVMError` stops the VM, and `stopVM`
frees the ten registered blocks but not the one `valloc` has just returned. -/
theorem newBuffer_full_table_leaks_block :
    ∃ s, runBuffers BufferState.init elevenAllocations = .error (.exit (-1) s) ∧
      11 ∈ s.obtained ∧ 11 ∉ s.freed := by
  have hsplit : elevenAllocations =
      (List.range 10).map (fun k => .newBuffer true (k + 1)) ++ [.newBuffer true 11] := rfl
  have hten : ((runBuffers BufferState.init ((List.range 10).map fun k => .newBuffer true (k + 1))).toOption.map
      fun s => (s.entries, s.obtained, s.freed, s.bufferCount)) =
      some ((List.range 10).map (· + 1), (List.range 10).map (· + 1), [], 10) := by decide
  rw [hsplit, runBuffers_append]
  cases h10 : runBuffers BufferState.init ((List.range 10).map fun k => .newBuffer true (k + 1)) with
  | error stop => rw [h10] at hten; cases hten
  | ok s10 =>
    rw [h10] at hten
    simp only [Except.toOption, Option.map_some', Option.some.injEq, Prod.mk.injEq] at hten
    obtain ⟨hent, hobt, hfreed, hcount⟩ := hten
    obtain ⟨s', hstop, -, hf, ho⟩ := stopVM_of_nodup (-1)
      (s := { s10 with obtained := s10.obtained ++ [11] }) (hent ▸ by decide)
    refine ⟨s', ?_, by simp [ho], ?_⟩
    · have hfull : MAX_BUFFERS ≤ s10.bufferCount := hcount ▸ le_refl 10
      have h11 : ¬(11 : Address) = 0 := by decide
      simp only [runBuffers, BufferCall.run, SquawkVM.newBuffer, h11, hfull, if_true, if_false,
        fatalVMError, hstop]
      rfl
    · rw [hf]
      show 11 ∉ s10.freed ++ s10.entries
      rw [hfreed, hent]
      decide

/-! ### The host's books -/

/-- Every block `valloc` handed out has been given back with `free` or is still in the
table. -/
def Balanced (s : BufferState) : Prop := s.obtained.Perm (s.freed ++ s.entries)

/-- The books at a stop that the call `c` on the table `s` caused, `s'` once `stopVM` has run:
every block handed out was given back, or `c` is a `newBuffer` that found the table full, and
all were but the block it had just obtained. -/
def StopBalanced (s : BufferState) (c : BufferCall) (s' : BufferState) : Prop :=
  s'.obtained.Perm s'.freed ∨ ∃ fatalIfFail b, c = .newBuffer fatalIfFail b ∧ b ≠ 0 ∧
    MAX_BUFFERS ≤ s.bufferCount ∧ s'.obtained.Perm (s'.freed ++ [b])

/-- The books after the call `c` on `s`: balanced while the VM runs, settled as far as
`StopBalanced` says when it stops, and a stop never fails its own cleanup. -/
def BooksKept (s : BufferState) (c : BufferCall) : Except Stop BufferState → Prop
  | .ok s' => Balanced s'
  | .error (.exit _ s') => StopBalanced s c s'
  | .error (.cleanupFailed _) => False

/-- The books after the run of `calls` from `s₀`: balanced while the VM runs, and at a stop
settled as `StopBalanced` says for the call that stopped it and the table that call found. -/
def RunBooksKept (s₀ : BufferState) (calls : List BufferCall) : Except Stop BufferState → Prop
  | .ok s => Balanced s
  | .error (.exit _ s') => ∃ pre c rest s, calls = pre ++ c :: rest ∧ runBuffers s₀ pre = .ok s ∧
      StopBalanced s c s'
  | .error (.cleanupFailed _) => False

theorem stopVM_books (exitCode : Int) {s : BufferState} (hnd : s.entries.Nodup)
    (hb : Balanced s) (c : BufferCall) : BooksKept s c (.error (stopVM exitCode s)) := by
  obtain ⟨s', h, -, hf, ho⟩ := stopVM_of_nodup exitCode hnd
  rw [h]
  exact .inl (by rw [ho, hf]; exact hb)

/-- One call keeps the books, on a table without repeated entries. -/
theorem BufferCall.run_books {c : BufferCall} {s : BufferState} (hnd : s.entries.Nodup)
    (hb : Balanced s) : BooksKept s c (c.run s) := by
  cases c with
  | newBuffer fatalIfFail buffer =>
    simp only [BufferCall.run, SquawkVM.newBuffer]
    by_cases h0 : buffer = 0
    · cases fatalIfFail
      · simpa [h0] using hb
      · simpa [h0] using stopVM_books 1 hnd hb _
    · by_cases hfull : MAX_BUFFERS ≤ s.bufferCount
      · -- `stopVM` frees the registered blocks; the block just obtained is left over
        obtain ⟨s', h, -, hf, ho⟩ :=
          stopVM_of_nodup (-1) (s := { s with obtained := s.obtained ++ [buffer] }) hnd
        simp only [h0, hfull, if_true, if_false, fatalVMError, h, Functor.map, Except.map]
        exact .inr ⟨fatalIfFail, buffer, rfl, h0, hfull,
          by rw [ho, hf]; exact hb.append_right [buffer]⟩
      · simp only [h0, hfull, if_false, Functor.map, Except.map]
        show (s.obtained ++ [buffer]).Perm (s.freed ++ (List.range (s.bufferCount + 1)).map _)
        rw [entries_register, ← List.append_assoc]
        exact hb.append_right [buffer]
  | freeBuffer buffer =>
    by_cases hmem : buffer ∈ s.entries
    · obtain ⟨s', h, hent, hfreed, hobt⟩ := freeBufferChecked_of_mem hnd hmem
      simp only [BufferCall.run, SquawkVM.freeBuffer, h]
      show s'.obtained.Perm (s'.freed ++ s'.entries)
      rw [hent, hfreed, hobt, List.append_assoc]
      exact hb.trans ((List.perm_cons_erase hmem).append_left _)
    · simp only [BufferCall.run, SquawkVM.freeBuffer, freeBufferChecked_of_not_mem hmem]
      exact stopVM_books (-1) hnd hb _

theorem runBuffers_books {s : BufferState} {l : List Address} (hr : Refines s l)
    (hb : Balanced s) : ∀ calls, HostFresh l calls → RunBooksKept s calls (runBuffers s calls)
  | [], _ => hb
  | c :: cs, ⟨hfresh, hrest⟩ => by
    have hstep := BufferCall.run_agrees hr hfresh
    have hbooks := BufferCall.run_books (c := c) (hr.entries_eq ▸ hr.nodup) hb
    simp only [runBuffers]
    cases hrun : c.run s with
    | error stop =>
      rw [hrun] at hbooks
      rcases stop with ⟨e, s'⟩ | s'
      · exact ⟨[], c, cs, s, rfl, rfl, hbooks⟩
      · exact hbooks.elim
    | ok s' =>
      rw [hrun] at hstep hbooks
      cases hlive : c.live l with
      | none => rw [hlive] at hstep; exact hstep.elim
      | some l' =>
        rw [hlive] at hstep
        have ih := runBuffers_books hstep hbooks cs (hrest l' hlive)
        show RunBooksKept s (c :: cs) (runBuffers s' cs)
        revert ih
        rcases runBuffers s' cs with (⟨e, s''⟩ | s'') | s''
        · rintro ⟨pre, c', rest, t, rfl, ht, hst⟩
          exact ⟨c :: pre, c', rest, t, rfl, by simp only [runBuffers, hrun, ht], hst⟩
        all_goals exact id

/-- Along every run from `initializeGlobals` with a host that never hands out a live block,
no block is lost or given back twice while the VM runs: the blocks obtained are those freed
plus those in the table. When the run stops, `stopVM` has given back every block obtained,
except when the call that stopped it is a `newBuffer` that found the table full: then every block
but the one that call had just obtained. And no stop fails its own cleanup. -/
theorem runBuffers_keeps_books (calls : List BufferCall) (hfresh : HostFresh [] calls) :
    RunBooksKept BufferState.init calls (runBuffers BufferState.init calls) :=
  runBuffers_books Refines.init (List.Perm.refl _) calls hfresh

/-- Allocating a block and freeing it. -/
theorem runBuffers_keeps_books_alloc_free :
    HostFresh [] [.newBuffer true 1, .freeBuffer 1] ∧
      RunBooksKept BufferState.init [.newBuffer true 1, .freeBuffer 1]
        (runBuffers BufferState.init [.newBuffer true 1, .freeBuffer 1]) :=
  have hfresh : HostFresh [] [.newBuffer true 1, .freeBuffer 1] := by
    simp [HostFresh, BufferCall.live, MAX_BUFFERS]
  ⟨hfresh, runBuffers_keeps_books _ hfresh⟩

end SquawkVM
