import SquawkVM.MemoryLayout
import SquawkVM.Options

/-! The copy of the command line into the memory buffer: `writeCString` and `writeCStringArray`
of `squawk.c` with the bytes they store, where `SquawkVM.MemoryLayout` keeps only the offsets
they return. An offset near `INT_MAX` wraps `offset++` to `-2^31`. -/

namespace SquawkVM

/-- What a byte of the memory buffer holds after the copy: a character stored by `setByte`, or
byte `i` of a word `setObject` stored the address `Address_add(memory, target)` in (which byte
of the address that is depends on the build's byte order). -/
inductive Cell where
  | char (ch : Char)
  | addressByte (target : Int) (i : Nat)
  deriving DecidableEq, Repr

namespace Copy

/-- `setByte(memory, offset, ch)`. -/
def setByte (buf : Int → Cell) (offset : Int) (ch : Char) : Int → Cell :=
  Function.update buf offset (.char ch)

/-- `setObject(Address_add(memory, offset), 0, Address_add(memory, target))`: the `bpw` bytes
of the word at `offset` take the address of `target`. -/
def setAddress (bpw : Nat) (buf : Int → Cell) (offset target : Int) : Int → Cell :=
  fun x => if offset ≤ x ∧ x < offset + bpw then .addressByte target (x - offset).toNat else buf x

/-- `writeCString(string, offset)`: each character at `offset++`, then the terminator; the
offset past it, and the buffer. -/
def writeCString : CString → Int → (Int → Cell) → Int × (Int → Cell)
  | [], offset, buf => (toInt32 (offset + 1), setByte buf offset '\x00')
  | ch :: string, offset, buf => writeCString string (toInt32 (offset + 1)) (setByte buf offset ch)

/-- The `while (length-- > 0)` loop of `writeCStringArray`: the table entry at `arrayCopy`
gets the address of `offset`, where the next string goes. -/
def writeCStringArrayLoop (bpw : Nat) :
    List CString → Int → Int → (Int → Cell) → Int × (Int → Cell)
  | [], _, offset, buf => (offset, buf)
  | string :: array, arrayCopy, offset, buf =>
    let r := writeCString string offset (setAddress bpw buf arrayCopy offset)
    writeCStringArrayLoop bpw array (arrayCopy + bpw) r.1 r.2

/-- `writeCStringArray(length, array, offset)` in a `w`-bit build, where
`sizeof(char *) = sizeof(Address)`: the table at `offset`, the strings after it. -/
def writeCStringArray (w : Nat) (array : List CString) (offset : Int) (buf : Int → Cell) :
    Int × (Int → Cell) :=
  writeCStringArrayLoop (bytesPerWord w) array offset
    (toInt32 (offset + array.length * bytesPerWord w)) buf

/-! ### What `writeCString` stores -/

theorem writeCString_stores : ∀ (string : CString) (offset : Int) (buf : Int → Cell),
    -2 ^ 31 ≤ offset → offset + string.length + 1 ≤ INT_MAX →
      (writeCString string offset buf).1 = offset + string.length + 1 ∧
      ∀ x, (writeCString string offset buf).2 x =
        if offset ≤ x ∧ x ≤ offset + string.length then .char (string.at (x - offset).toNat)
        else buf x
  | [], offset, buf, h0, h1 => by
    refine ⟨by rw [writeCString, toInt32_of_lt (by omega) (by rw [INT_MAX] at h1; omega)]; simp,
      fun x => ?_⟩
    by_cases hx : x = offset
    · subst hx; simp [writeCString, setByte, CString.at]
    · simp only [writeCString, setByte, Function.update_noteq hx, List.length_nil]
      rw [if_neg (by omega)]
  | ch :: string, offset, buf, h0, h1 => by
    simp only [List.length_cons, Nat.cast_add, Nat.cast_one] at h1 ⊢
    have hnext : toInt32 (offset + 1) = offset + 1 :=
      toInt32_of_lt (by omega) (by rw [INT_MAX] at h1; omega)
    obtain ⟨hfst, hsnd⟩ := writeCString_stores string (offset + 1) (setByte buf offset ch)
      (by omega) (by omega)
    rw [writeCString, hnext, hfst]
    refine ⟨by omega, fun x => ?_⟩
    rw [hsnd]
    by_cases hx : x = offset
    · subst hx
      rw [if_neg (by omega), if_pos (by omega)]
      simp [setByte, CString.at]
    · simp only [setByte, Function.update_noteq hx]
      by_cases hin : offset + 1 ≤ x ∧ x ≤ offset + 1 + string.length
      · rw [if_pos hin, if_pos (by omega), show (x - offset).toNat = (x - (offset + 1)).toNat + 1 by
          omega]
        rfl
      · rw [if_neg hin, if_neg (by omega)]

/-! ### What the loop of `writeCStringArray` stores -/

/-- Where `writeCStringArray` puts the strings from `offset` on: each one right after the
terminator of the one before. -/
def stringStarts (offset : Int) : List CString → List Int
  | [] => []
  | string :: array => offset :: stringStarts (offset + string.length + 1) array

/-- The bytes the strings and their terminators take. -/
def stringsSize (array : List CString) : Nat := ((array.map List.length).map (· + 1)).sum

@[simp] theorem stringsSize_cons (string : CString) (array : List CString) :
    stringsSize (string :: array) = string.length + 1 + stringsSize array := by
  simp [stringsSize]

section Loop

variable (bpw : Nat)

/-- The loop returns the offset past the last terminator. -/
theorem writeCStringArrayLoop_offset : ∀ (array : List CString) (arrayCopy offset : Int)
    (buf : Int → Cell), -2 ^ 31 ≤ offset → offset + stringsSize array ≤ INT_MAX →
      (writeCStringArrayLoop bpw array arrayCopy offset buf).1 = offset + stringsSize array
  | [], _, _, _, _, _ => by simp [writeCStringArrayLoop, stringsSize]
  | string :: array, arrayCopy, offset, buf, h0, h1 => by
    rw [stringsSize_cons, Nat.cast_add, Nat.cast_add, Nat.cast_one] at h1 ⊢
    rw [writeCStringArrayLoop, (writeCString_stores string offset _ h0 (by omega)).1,
      writeCStringArrayLoop_offset array _ _ _ (by omega) (by omega)]
    omega

/-- The loop stores nothing below the table, between the table and the strings, or past the
last terminator. -/
theorem writeCStringArrayLoop_frame : ∀ (array : List CString) (arrayCopy offset : Int)
    (buf : Int → Cell), arrayCopy + array.length * bpw ≤ offset → -2 ^ 31 ≤ offset →
      offset + stringsSize array ≤ INT_MAX → ∀ x, x < arrayCopy ∨
        (arrayCopy + array.length * bpw ≤ x ∧ x < offset) ∨ offset + stringsSize array ≤ x →
      (writeCStringArrayLoop bpw array arrayCopy offset buf).2 x = buf x
  | [], _, _, _, _, _, _, _, _ => rfl
  | string :: array, arrayCopy, offset, buf, ht, h0, h1, x, hx => by
    rw [List.length_cons, Nat.cast_add, Nat.cast_one, Int.add_mul, Int.one_mul] at ht hx
    rw [stringsSize_cons, Nat.cast_add, Nat.cast_add, Nat.cast_one] at h1 hx
    have hb : (0 : Int) ≤ array.length * bpw := Int.mul_nonneg (by omega) (by omega)
    obtain ⟨hf, hs⟩ := writeCString_stores string offset (setAddress bpw buf arrayCopy offset) h0
      (by omega)
    rw [writeCStringArrayLoop, hf, writeCStringArrayLoop_frame array _ _ _ (by omega) (by omega)
      (by omega) x (by omega), hs x, if_neg (by omega), setAddress, if_neg (by omega)]

/-- Entry `k` of the table holds the address of the `k`-th string. -/
theorem writeCStringArrayLoop_table : ∀ (array : List CString) (arrayCopy offset : Int)
    (buf : Int → Cell), arrayCopy + array.length * bpw ≤ offset → -2 ^ 31 ≤ offset →
      offset + stringsSize array ≤ INT_MAX → ∀ k < array.length, ∀ i < bpw,
      (writeCStringArrayLoop bpw array arrayCopy offset buf).2 (arrayCopy + k * bpw + i) =
        .addressByte ((stringStarts offset array).getD k 0) i
  | [], _, _, _, _, _, _, k, hk, _, _ => absurd hk (Nat.not_lt_zero k)
  | string :: array, arrayCopy, offset, buf, ht, h0, h1, k, hk, i, hi => by
    rw [List.length_cons, Nat.cast_add, Nat.cast_one, Int.add_mul, Int.one_mul] at ht
    rw [stringsSize_cons, Nat.cast_add, Nat.cast_add, Nat.cast_one] at h1
    have hb : (0 : Int) ≤ array.length * bpw := Int.mul_nonneg (by omega) (by omega)
    obtain ⟨hf, hs⟩ := writeCString_stores string offset (setAddress bpw buf arrayCopy offset) h0
      (by omega)
    rw [writeCStringArrayLoop, hf]
    cases k with
    | zero =>
      rw [writeCStringArrayLoop_frame bpw array _ _ _ (by omega) (by omega) (by omega) _
        (by omega), hs, if_neg (by omega), setAddress, if_pos (by omega)]
      simp [stringStarts]
    | succ k =>
      rw [Nat.cast_succ, Int.add_mul, Int.one_mul,
        show arrayCopy + (k * bpw + bpw) + i = arrayCopy + bpw + k * bpw + i by omega,
        writeCStringArrayLoop_table array _ _ _ (by omega) (by omega) (by omega) k
          (Nat.lt_of_succ_lt_succ hk) i hi]
      rfl

/-- The `k`-th string and its terminator sit from the `k`-th start on. -/
theorem writeCStringArrayLoop_strings : ∀ (array : List CString) (arrayCopy offset : Int)
    (buf : Int → Cell), arrayCopy + array.length * bpw ≤ offset → -2 ^ 31 ≤ offset →
      offset + stringsSize array ≤ INT_MAX →
      ∀ k < array.length, ∀ i ≤ (array.getD k []).length,
      (writeCStringArrayLoop bpw array arrayCopy offset buf).2
        ((stringStarts offset array).getD k 0 + i) = .char ((array.getD k []).at i)
  | [], _, _, _, _, _, _, k, hk, _, _ => absurd hk (Nat.not_lt_zero k)
  | string :: array, arrayCopy, offset, buf, ht, h0, h1, k, hk, i, hi => by
    rw [List.length_cons, Nat.cast_add, Nat.cast_one, Int.add_mul, Int.one_mul] at ht
    rw [stringsSize_cons, Nat.cast_add, Nat.cast_add, Nat.cast_one] at h1
    obtain ⟨hf, hs⟩ := writeCString_stores string offset (setAddress bpw buf arrayCopy offset) h0
      (by omega)
    rw [writeCStringArrayLoop, hf]
    cases k with
    | zero =>
      simp only [List.getD_cons_zero, stringStarts] at hi ⊢
      rw [writeCStringArrayLoop_frame bpw array _ _ _ (by omega) (by omega) (by omega) _
        (by omega), hs, if_pos (by omega), show (offset + i - offset).toNat = i by omega]
    | succ k =>
      simp only [List.getD_cons_succ, stringStarts] at hi ⊢
      exact writeCStringArrayLoop_strings array _ _ _ (by omega) (by omega) (by omega) k
        (Nat.lt_of_succ_lt_succ hk) i hi

end Loop

theorem argvCopySize_eq (w : Nat) (array : List CString) :
    argvCopySize w (array.map List.length) = array.length * bytesPerWord w + stringsSize array := by
  rw [argvCopySize, List.length_map, stringsSize]

/-- For every table of strings and every offset at which no `int` sum wraps (the size the
calculator adds up, and the offset plus that size, stay within `INT_MAX`),
`writeCStringArray(argc, argv, off)` returns `off + calculateSizeForCopyOfCStringArray(argc,
argv)` and stores nothing outside that range; entry `k` of the table at `off` holds the address
of the `k`-th start, where the characters of `argv[k]` and its terminator lie. Likewise
`writeCString(s, o)` stores `s` and its terminator at `o` and nothing else, and returns
`o + strlen(s) + 1`. -/
theorem writeCStringArray_copies_arguments (w : Nat) (array : List CString) (offset : Int)
    (buf : Int → Cell) (h0 : -2 ^ 31 ≤ offset)
    (hsize : argvCopySize w (array.map List.length) ≤ INT_MAX)
    (h1 : offset + argvCopySize w (array.map List.length) ≤ INT_MAX) :
    let size := calculateSizeForCopyOfCStringArray w (array.map List.length)
    let r := writeCStringArray w array offset buf
    let starts := stringStarts (offset + array.length * bytesPerWord w) array
    r.1 = offset + size ∧
    (∀ x, x < offset ∨ offset + size ≤ x → r.2 x = buf x) ∧
    (∀ k < array.length, ∀ i < bytesPerWord w,
      r.2 (offset + k * bytesPerWord w + i) = .addressByte (starts.getD k 0) i) ∧
    (∀ k < array.length, ∀ i ≤ (array.getD k []).length,
      r.2 (starts.getD k 0 + i) = .char ((array.getD k []).at i)) ∧
    ∀ (string : CString) (o : Int), -2 ^ 31 ≤ o → o + string.length + 1 ≤ INT_MAX →
      (writeCString string o buf).1 = o + string.length + 1 ∧
      ∀ x, (writeCString string o buf).2 x =
        if o ≤ x ∧ x ≤ o + string.length then .char (string.at (x - o).toNat) else buf x := by
  intro size r starts
  have hs : size = array.length * bytesPerWord w + stringsSize array := by
    simp only [size]
    rw [calculateSizeForCopyOfCStringArray_eq w _ hsize, argvCopySize_eq, Nat.cast_add,
      Nat.cast_mul]
  rw [argvCopySize_eq, Nat.cast_add, Nat.cast_mul] at h1
  have hb : (0 : Int) ≤ array.length * bytesPerWord w := Int.mul_nonneg (by omega) (by omega)
  have hstart : toInt32 (offset + array.length * bytesPerWord w) =
      offset + array.length * bytesPerWord w :=
    toInt32_of_lt (by omega) (by rw [INT_MAX] at h1; omega)
  have hr : r = writeCStringArrayLoop (bytesPerWord w) array offset
      (offset + array.length * bytesPerWord w) buf := by
    simp only [r, writeCStringArray, hstart]
  rw [hr, hs]
  refine ⟨?_, fun x hx => ?_, writeCStringArrayLoop_table _ array _ _ buf le_rfl (by omega)
    (by omega), writeCStringArrayLoop_strings _ array _ _ buf le_rfl (by omega) (by omega),
    fun string o => writeCString_stores string o buf⟩
  · rw [writeCStringArrayLoop_offset _ array _ _ buf (by omega) (by omega)]; omega
  · exact writeCStringArrayLoop_frame _ array _ _ buf le_rfl (by omega) (by omega) x (by omega)

theorem writeCStringArray_copies_two_arguments :
    (-2 ^ 31 : Int) ≤ 100 ∧
    ((argvCopySize 32 ([['a'], ['b', 'c']].map List.length) : Nat) : Int) ≤ INT_MAX ∧
    (100 : Int) + ((argvCopySize 32 ([['a'], ['b', 'c']].map List.length) : Nat) : Int) ≤ INT_MAX ∧
    let size := calculateSizeForCopyOfCStringArray 32 ([['a'], ['b', 'c']].map List.length)
    let r := writeCStringArray 32 [['a'], ['b', 'c']] 100 (fun _ => .char 'z')
    let starts := stringStarts (100 + ([['a'], ['b', 'c']] : List CString).length * bytesPerWord 32)
      [['a'], ['b', 'c']]
    r.1 = 100 + size ∧
    (∀ x, x < 100 ∨ 100 + size ≤ x → r.2 x = (fun _ => .char 'z') x) ∧
    (∀ k < ([['a'], ['b', 'c']] : List CString).length, ∀ i < bytesPerWord 32,
      r.2 (100 + k * bytesPerWord 32 + i) = .addressByte (starts.getD k 0) i) ∧
    (∀ k < ([['a'], ['b', 'c']] : List CString).length,
      ∀ i ≤ (([['a'], ['b', 'c']] : List CString).getD k []).length,
      r.2 (starts.getD k 0 + i) = .char ((([['a'], ['b', 'c']] : List CString).getD k []).at i)) ∧
    ∀ (string : CString) (o : Int), -2 ^ 31 ≤ o → o + string.length + 1 ≤ INT_MAX →
      (writeCString string o (fun _ => .char 'z')).1 = o + string.length + 1 ∧
      ∀ x, (writeCString string o (fun _ => .char 'z')).2 x =
        if o ≤ x ∧ x ≤ o + string.length then .char (string.at (x - o).toNat)
        else (fun _ => .char 'z') x :=
  ⟨by decide, by decide, by decide, writeCStringArray_copies_arguments 32 [['a'], ['b', 'c']] 100
    (fun _ => .char 'z') (by decide) (by decide) (by decide)⟩

/-- At `off = INT_MAX - 4` in a 32-bit build, the table entry for the argument `"ab"` fits
below `INT_MAX`, but `offset++` after the `a` wraps to `-2^31`: the `b` lands there, far outside
`[off, off + 7)`, and the byte after the `a` keeps what it held. -/
theorem writeCStringArray_wraps_near_int_max :
    calculateSizeForCopyOfCStringArray 32 [2] = 7 ∧
      (writeCStringArray 32 [['a', 'b']] 2147483643 (fun _ => .char 'z')).1 = -2147483646 ∧
      (writeCStringArray 32 [['a', 'b']] 2147483643 (fun _ => .char 'z')).2 2147483647 =
        .char 'a' ∧
      (writeCStringArray 32 [['a', 'b']] 2147483643 (fun _ => .char 'z')).2 2147483648 =
        .char 'z' ∧
      (writeCStringArray 32 [['a', 'b']] 2147483643 (fun _ => .char 'z')).2 (-2147483648) =
        .char 'b' := by
  decide

end Copy

end SquawkVM
