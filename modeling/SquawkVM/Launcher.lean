import SquawkVM.MemoryLayout

/-! The JNI entry `Java_com_sun_squawk_vm_Main_squawk` of `squawk.c`, which finds the command line's
strings in one byte array and stores a pointer to each in the block `newBuffer(argc)` returns. -/

namespace SquawkVM

/-- The `while (pos != size)` loop of `Java_com_sun_squawk_vm_Main_squawk` over the bytes of
`buf` from `pos`: the offsets it stores at `argv[i++]`, in order. -/
def jniArgsLoop : List Int → Nat → Bool → List Nat
  | [], _, _ => []
  | b :: rest, pos, atNextArg =>
    if atNextArg then pos :: jniArgsLoop rest (pos + 1) false
    else if b = 0 then jniArgsLoop rest (pos + 1) true
    else jniArgsLoop rest (pos + 1) false

/-- An entry of `argv` as `Squawk_main` reads it: the offset in `buf` of the pointer the loop
stored there, or, where it stored none, the `bytesPerWord` bytes the block holds there. -/
inductive ArgvEntry where
  | stored (off : Nat)
  | unset (bytes : List UInt8)
  deriving DecidableEq, Repr

/-- Where the JNI entry goes wrong before `Squawk_main` runs: the loop stores `argv[i]` past the
block `newBuffer` returned, in memory that is not `argv`'s, or `assume(i == argc)` fails. -/
inductive JniStop where
  | pastBlock (i : Nat)
  | assumeFailed
  deriving DecidableEq, Repr

/-- `argv[k]` as `Squawk_main` reads it, `found` the offsets the loop stored: past them, the
entry's bytes of the block `newBuffer(argc)`, which `memset` zeroed below `argc` and `valloc`
left as `block` above. -/
def argvEntry (w argc : Nat) (block : Nat → UInt8) (found : List Nat) (k : Nat) : ArgvEntry :=
  match found[k]? with
  | some off => .stored off
  | none => .unset ((List.range (bytesPerWord w)).map fun j =>
    if k * bytesPerWord w + j < argc then 0 else block (k * bytesPerWord w + j))

/-- `argv` as `Squawk_main` gets it from `Java_com_sun_squawk_vm_Main_squawk(env, launcher,
args, argc)` on the `w`-bit platform `P`. `argv` is `newBuffer(argc, ...)`: `argc` bytes rounded
up to whole pages, with room for `actualSize / bytesPerWord w` pointers, and the loop's
`argv[i++]` past that room writes outside the block. -/
def jniArgv (P : Platform) (w : Nat) (block : Nat → UInt8) (args : List Int) (argc : Nat) :
    Except JniStop (List ArgvEntry) :=
  let found := jniArgsLoop args 0 true
  let room := (newBufferActualSize w P.pageSize (BitVec.ofNat w argc) / bytesPerWord w).toNat
  if room < found.length then .error (.pastBlock room)
  else if P.ASSUME ∧ found.length ≠ argc then .error .assumeFailed
  else .ok ((List.range argc).map (argvEntry w argc block found))

/-! ### The launcher's byte array -/

/-- The byte array of a command line: each argument followed by its NUL. -/
def encodeArgs : List (List Int) → List Int
  | [] => []
  | s :: ss => s ++ 0 :: encodeArgs ss

/-- Where the arguments start in `encodeArgs`, from offset `pos`. -/
def argStarts : Nat → List (List Int) → List Nat
  | _, [] => []
  | pos, s :: ss => pos :: argStarts (pos + s.length + 1) ss

/-- The C string at offset `off` of `buf`: its bytes before the next NUL. -/
def cstringAt (buf : List Int) (off : Nat) : List Int := (buf.drop off).takeWhile (· ≠ 0)

example : jniArgsLoop (encodeArgs [[45, 88], [77]]) 0 true = [0, 3] := by decide

@[simp] theorem length_argStarts : ∀ (pos : Nat) (ss : List (List Int)),
    (argStarts pos ss).length = ss.length
  | _, [] => rfl
  | pos, s :: ss => by simp [argStarts, length_argStarts _ ss]

/-- Inside an argument the loop only looks for its NUL. -/
theorem jniArgsLoop_skip (rest : List Int) :
    ∀ (s : List Int) (pos : Nat), 0 ∉ s →
      jniArgsLoop (s ++ 0 :: rest) pos false = jniArgsLoop rest (pos + s.length + 1) true
  | [], pos, _ => by simp [jniArgsLoop]
  | b :: s, pos, hs => by
    have hb : b ≠ 0 := fun h => hs (h ▸ List.mem_cons_self _ _)
    rw [List.cons_append, jniArgsLoop, if_neg Bool.false_ne_true, if_neg hb,
      jniArgsLoop_skip rest s (pos + 1) fun h => hs (List.mem_cons_of_mem _ h), List.length_cons,
      show pos + 1 + s.length + 1 = pos + (s.length + 1) + 1 by omega]

/-- A well-formed argument is not empty and has no NUL. -/
def WellFormedArg (s : List Int) : Prop := s ≠ [] ∧ 0 ∉ s

/-- On arguments that are not empty, the loop stores exactly where each one starts. -/
theorem jniArgsLoop_encodeArgs :
    ∀ (ss : List (List Int)) (pos : Nat), (∀ s ∈ ss, WellFormedArg s) →
      jniArgsLoop (encodeArgs ss) pos true = argStarts pos ss
  | [], _, _ => rfl
  | [] :: _, _, hss => absurd rfl (hss [] (List.mem_cons_self _ _)).1
  | (b :: s) :: ss, pos, hss => by
    have hbs := (hss _ (List.mem_cons_self _ _)).2
    rw [encodeArgs, List.cons_append, jniArgsLoop, if_pos rfl,
      jniArgsLoop_skip _ s _ fun h => hbs (List.mem_cons_of_mem _ h),
      jniArgsLoop_encodeArgs ss _ fun t ht => hss t (List.mem_cons_of_mem _ ht), argStarts,
      List.length_cons, show pos + 1 + s.length + 1 = pos + (s.length + 1) + 1 by omega]

/-- An argument with no NUL reads back up to its terminator. -/
theorem takeWhile_ne_zero_append {s : List Int} (hs : 0 ∉ s) (t : List Int) :
    (s ++ 0 :: t).takeWhile (· ≠ 0) = s := by
  rw [List.takeWhile_append_of_pos fun a ha => by simpa using fun h : a = 0 => hs (h ▸ ha)]
  simp

/-- The string at each start is the argument, when no argument holds a NUL. -/
theorem cstringAt_argStarts :
    ∀ (ss : List (List Int)) (pre : List Int), (∀ s ∈ ss, 0 ∉ s) →
      (argStarts pre.length ss).map (cstringAt (pre ++ encodeArgs ss)) = ss
  | [], _, _ => rfl
  | s :: ss, pre, hss => by
    have hs := hss s (List.mem_cons_self _ _)
    have hrest := cstringAt_argStarts ss (pre ++ s ++ [0]) fun t ht =>
      hss t (List.mem_cons_of_mem _ ht)
    simp only [List.length_append, List.length_singleton, List.append_assoc,
      List.singleton_append] at hrest
    rw [argStarts, List.map_cons, encodeArgs, Nat.add_assoc, hrest, cstringAt, List.drop_left,
      takeWhile_ne_zero_append hs]

/-- The entries the loop stored read back as its pointers. -/
theorem map_argvEntry (w argc : Nat) (block : Nat → UInt8) (found : List Nat) :
    (List.range found.length).map (argvEntry w argc block found) = found.map .stored := by
  apply List.ext_getElem (by simp)
  intro n h _
  have hn : n < found.length := by simpa using h
  simp [argvEntry, List.getElem?_eq_getElem hn]

/-- The room `newBuffer(argc)` gives `argv`, when the rounded size neither wraps nor leaves the
`int`: the pointers that fit in `argc` rounded up to whole pages. -/
theorem argvRoom_eq (P : Platform) {w k : Nat} (hkw : k < w) (hpage : P.pageSize = 2 ^ k)
    {argc : Nat} (hwrap : argc + 2 ^ k ≤ 2 ^ w) (hint : roundUpNat k argc ≤ INT_MAX) :
    (newBufferActualSize w P.pageSize (BitVec.ofNat w argc) / bytesPerWord w).toNat =
      roundUpNat k argc / bytesPerWord w := by
  have hsize : (BitVec.ofNat w argc).toNat = argc := by
    rw [BitVec.toNat_ofNat]; exact Nat.mod_eq_of_lt (by have := Nat.one_le_two_pow (n := k); omega)
  rw [hpage, newBufferActualSize_eq hkw _ (by rw [hsize]; omega) (by rw [hsize]; exact hint), hsize]
  exact_mod_cast Int.toNat_natCast _

/-- For every command line of arguments that are not empty and hold no NUL, in every build, the
loop finds one string per argument and `i == argc`. When the `argc` pointers of `bytesPerWord`
bytes fit in the block of `argc` bytes rounded up to whole pages, `argv[k]` points at the start
of the `k`-th argument and the C string there is that argument; when they do not (more than a
page's worth of bytes over `bytesPerWord - 1`), the loop stores the first pointer that does not
fit past the block. -/
theorem jniArgv_reads_back_arguments (P : Platform) {w k : Nat} (hkw : k < w)
    (hpage : P.pageSize = 2 ^ k) (hbpw : 0 < bytesPerWord w) (block : Nat → UInt8)
    (ss : List (List Int)) (hss : ∀ s ∈ ss, WellFormedArg s) (hwrap : ss.length + 2 ^ k ≤ 2 ^ w)
    (hint : roundUpNat k ss.length ≤ INT_MAX) :
    jniArgv P w block (encodeArgs ss) ss.length =
        (if ss.length * bytesPerWord w ≤ roundUpNat k ss.length then
          .ok ((argStarts 0 ss).map .stored)
        else .error (.pastBlock (roundUpNat k ss.length / bytesPerWord w))) ∧
      (argStarts 0 ss).map (cstringAt (encodeArgs ss)) = ss := by
  have hlen := length_argStarts 0 ss
  refine ⟨?_, cstringAt_argStarts ss [] fun s hs => (hss s hs).2⟩
  have hfit : roundUpNat k ss.length / bytesPerWord w < ss.length ↔
      ¬ss.length * bytesPerWord w ≤ roundUpNat k ss.length := by
    rw [← Nat.le_div_iff_mul_le hbpw]; omega
  rw [jniArgv, argvRoom_eq P hkw hpage hwrap hint, jniArgsLoop_encodeArgs ss 0 hss, hlen]
  by_cases h : ss.length * bytesPerWord w ≤ roundUpNat k ss.length
  · rw [if_neg (by rwa [hfit, not_not]), if_neg fun h => h.2 rfl, if_pos h, ← hlen, map_argvEntry]
  · rw [if_pos (hfit.2 h), if_neg h]

theorem jniArgv_reads_back_two_arguments :
    let P : Platform := ⟨4096, 24 * 1024, false, true⟩
    (12 < 32 ∧ P.pageSize = 2 ^ 12 ∧ 0 < bytesPerWord 32 ∧
      (∀ s ∈ [[45, 88], [77]], WellFormedArg s) ∧ [[45, 88], [77]].length + 2 ^ 12 ≤ 2 ^ 32 ∧
      roundUpNat 12 [[45, 88], [77]].length ≤ INT_MAX) ∧
      jniArgv P 32 (fun _ => 0xAA) (encodeArgs [[45, 88], [77]]) [[45, 88], [77]].length =
        (if [[45, 88], [77]].length * bytesPerWord 32 ≤ roundUpNat 12 [[45, 88], [77]].length then
          .ok ((argStarts 0 [[45, 88], [77]]).map .stored)
        else .error (.pastBlock (roundUpNat 12 [[45, 88], [77]].length / bytesPerWord 32))) ∧
      (argStarts 0 [[45, 88], [77]]).map (cstringAt (encodeArgs [[45, 88], [77]])) =
        [[45, 88], [77]] :=
  by
  intro P
  have hss : ∀ s ∈ [[45, 88], [77]], WellFormedArg s := by
    simp only [List.mem_cons, List.mem_singleton, List.not_mem_nil, or_false, WellFormedArg]
    rintro s (rfl | rfl) <;> decide
  exact ⟨⟨by decide, rfl, by decide, hss, by decide, by decide⟩,
    jniArgv_reads_back_arguments P (show 12 < 32 by decide) rfl (by decide) _ _ hss (by decide) (by decide)⟩

/-- At an empty argument the loop stores its pointer without looking at its NUL, so it scans on
through the next argument, which gets no pointer. -/
theorem jniArgsLoop_empty_arg {s : List Int} (hs : 0 ∉ s) (ss : List (List Int)) (pos : Nat) :
    jniArgsLoop (encodeArgs ([] :: s :: ss)) pos true =
      pos :: jniArgsLoop (encodeArgs ss) (pos + s.length + 2) true := by
  rw [encodeArgs, encodeArgs, List.nil_append, jniArgsLoop, if_pos rfl, jniArgsLoop_skip _ s _ hs,
    show pos + 1 + s.length + 1 = pos + s.length + 2 by omega]

/-- An empty argument swallows the argument after it. For every command line `"" :: s :: ss`
with `s` free of NUL and the later arguments well formed, on a platform of words of two bytes or
more, the loop finds one string fewer than `argc`. It stores a pointer past the block when those
do not fit; otherwise an `ASSUME` build stops, and without `ASSUME` `argv[0]` is the empty string,
`argv[1]` on are the arguments after `s`, and the last entry, which no pointer was stored in, is
not `NULL`: `memset` zeroed only the first `argc` bytes of the block, and that entry's bytes all
lie above them, so it holds what `valloc` left there. -/
theorem jniArgv_drops_argument_after_empty (P : Platform) {w k : Nat} (hkw : k < w)
    (hpage : P.pageSize = 2 ^ k) (hw : 16 ≤ w) (block : Nat → UInt8) {s : List Int}
    (hs : 0 ∉ s) (ss : List (List Int)) (hss : ∀ t ∈ ss, WellFormedArg t)
    (hwrap : ss.length + 2 + 2 ^ k ≤ 2 ^ w) (hint : roundUpNat k (ss.length + 2) ≤ INT_MAX) :
    jniArgv P w block (encodeArgs ([] :: s :: ss)) (ss.length + 2) =
      if roundUpNat k (ss.length + 2) / bytesPerWord w < ss.length + 1 then
        .error (.pastBlock (roundUpNat k (ss.length + 2) / bytesPerWord w))
      else if P.ASSUME then .error .assumeFailed
      else .ok ((0 :: argStarts (s.length + 2) ss).map .stored ++
        [.unset ((List.range (bytesPerWord w)).map fun j =>
          block ((ss.length + 1) * bytesPerWord w + j))]) := by
  have hfound := jniArgsLoop_empty_arg hs ss 0
  rw [jniArgsLoop_encodeArgs ss _ hss, Nat.zero_add] at hfound
  have hlen : (0 :: argStarts (s.length + 2) ss).length = ss.length + 1 := by simp
  have hbpw : (ss.length + 1) * 2 ≤ (ss.length + 1) * bytesPerWord w :=
    Nat.mul_le_mul_left _ (by unfold bytesPerWord; omega)
  rw [jniArgv, argvRoom_eq P hkw hpage hwrap hint, hfound, hlen]
  by_cases h1 : roundUpNat k (ss.length + 2) / bytesPerWord w < ss.length + 1
  · rw [if_pos h1, if_pos h1]
  · rw [if_neg h1, if_neg h1]
    cases P.ASSUME
    · rw [if_neg fun h => Bool.false_ne_true h.1, if_neg Bool.false_ne_true, List.range_succ,
        List.map_append, ← hlen, map_argvEntry, hlen]
      simp only [argvEntry, List.map_cons, List.map_nil, List.getElem?_eq_none hlen.le]
      congr
      funext j
      rw [if_neg (by omega)]
    · rw [if_pos ⟨rfl, by omega⟩, if_pos rfl]

theorem jniArgv_drops_argument_after_empty_of_three :
    let P : Platform := ⟨4096, 24 * 1024, false, false⟩
    (12 < 32 ∧ P.pageSize = 2 ^ 12 ∧ 16 ≤ 32 ∧ 0 ∉ ([45, 88] : List Int) ∧
      (∀ t ∈ [[77]], WellFormedArg t) ∧ [[77]].length + 2 + 2 ^ 12 ≤ 2 ^ 32 ∧
      roundUpNat 12 ([[77]].length + 2) ≤ INT_MAX) ∧
      jniArgv P 32 (fun _ => 0xAA) (encodeArgs ([] :: [45, 88] :: [[77]])) ([[77]].length + 2) =
        .ok [.stored 0, .stored 4, .unset [0xAA, 0xAA, 0xAA, 0xAA]] :=
  by
  intro P
  have hs : 0 ∉ ([45, 88] : List Int) := by decide
  have hss : ∀ t ∈ [[77]], WellFormedArg t := by
    simp only [List.mem_singleton, WellFormedArg]
    rintro t rfl; decide
  exact ⟨⟨by decide, rfl, by decide, hs, hss, by decide, by decide⟩,
    (jniArgv_drops_argument_after_empty P (show 12 < 32 by decide) rfl (by decide) _ hs _ hss (by decide)
      (by decide)).trans rfl⟩

end SquawkVM
