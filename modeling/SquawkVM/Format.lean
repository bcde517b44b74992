import SquawkVM.Options

/-! The preformatter `format(fmt)` of `squawk.c`, which rewrites the VM's conversions `%A`, `%W`,
`%L`, `%U` and `%D` into `printf`'s in a static buffer of `FORMAT_BUF_LEN` characters. -/

namespace SquawkVM

/-- The build options `format` is compiled under: `SQUAWK_64`, `_MSC_VER` (the compiler is
Microsoft's) and `ASSUME`. -/
structure FormatBuild where
  SQUAWK_64 : Bool
  MSC_VER : Bool
  ASSUME : Bool

/-- `FORMAT_BUF_LEN`: the size of the static buffer of `format`. -/
def FORMAT_BUF_LEN : Nat := 1000

/-- The length modifier that `FORMAT_64` writes. -/
def FORMAT_64 (B : FormatBuild) : List Char := if B.MSC_VER then ['I', '6', '4'] else ['l', 'l']

/-- What the `switch` of `format` writes after the `%` for the character `c` that follows it;
`default` copies `c`. -/
def formatConversion (B : FormatBuild) : Char → List Char
  | 'A' => (if B.SQUAWK_64 then FORMAT_64 B else []) ++ ['u']
  | 'W' => (if B.SQUAWK_64 then FORMAT_64 B else []) ++ ['d']
  | 'L' => FORMAT_64 B ++ ['d']
  | 'U' => FORMAT_64 B ++ ['u']
  | 'D' => FORMAT_64 B ++ ['f']
  | c => [c]

/-- The `while` loop of `format` from `fmtPos`: `buf` is what it has written so far, so `bufPos`
is its length, and `fuel` bounds the iterations. `none` if the `assume` stops the VM. -/
def formatLoop (B : FormatBuild) (fmt : CString) : Nat → Nat → List Char → Option (List Char)
  | 0, _, buf => some buf
  | fuel + 1, fmtPos, buf =>
    if fmtPos < fmt.length then
      if B.ASSUME ∧ ¬buf.length < 1000 then none
      else if fmt.at fmtPos ≠ '%' then formatLoop B fmt fuel (fmtPos + 1) (buf ++ [fmt.at fmtPos])
      else
        formatLoop B fmt fuel (fmtPos + 2) (buf ++ '%' :: formatConversion B (fmt.at (fmtPos + 1)))
    else some buf

/-- `format(fmt)`: every character it writes to `buf`, in order, the terminating NUL included.
Those from index `FORMAT_BUF_LEN` on are written past the end of the buffer. -/
def format (B : FormatBuild) (fmt : CString) : Option (List Char) :=
  (formatLoop B fmt fmt.length 0 []).map (· ++ ['\x00'])

/-- The translation that `format` makes: a `%` and the character after it become `%` and its
conversion, and every other character is copied. A `%` at the end reads the terminating NUL,
which `default` copies. -/
def formatSpec (B : FormatBuild) : CString → List Char
  | [] => []
  | c :: fmt =>
    if c = '%' then
      match fmt with
      | [] => '%' :: formatConversion B '\x00'
      | c' :: rest => '%' :: formatConversion B c' ++ formatSpec B rest
    else c :: formatSpec B fmt

example : formatSpec ⟨false, false, true⟩ "*TRACE*:%d:%A:%L:%%".toList =
    "*TRACE*:%d:%u:%lld:%%".toList := by decide

theorem CString.at_drop (fmt : CString) (n i : Nat) : CString.at (fmt.drop n) i = fmt.at (n + i) := by
  simp only [CString.at, List.getD_eq_getElem?_getD, List.getElem?_drop]

theorem CString.drop_eq_at_cons {fmt : CString} {n : Nat} (h : n < fmt.length) :
    fmt.drop n = fmt.at n :: fmt.drop (n + 1) := by
  rw [List.drop_eq_getElem_cons h, CString.at, List.getD_eq_getElem?_getD,
    List.getElem?_eq_getElem h, Option.getD_some]

/-- `formatSpec` on a `%` that may end the string, read as the loop reads it. -/
theorem formatSpec_cons (B : FormatBuild) (c : Char) (fmt : CString) :
    formatSpec B (c :: fmt) = if c = '%' then
      '%' :: formatConversion B (fmt.at 0) ++ formatSpec B (fmt.drop 1)
    else c :: formatSpec B fmt := by
  cases fmt <;> simp [formatSpec, CString.at]

@[simp] theorem formatSpec_percent (B : FormatBuild) (c : Char) (rest : CString) :
    formatSpec B ('%' :: c :: rest) = '%' :: formatConversion B c ++ formatSpec B rest := by
  simp [formatSpec]

theorem formatSpec_of_ne (B : FormatBuild) {c : Char} (hc : c ≠ '%') (fmt : CString) :
    formatSpec B (c :: fmt) = c :: formatSpec B fmt := by
  cases fmt <;> simp [formatSpec, hc]

theorem two_le_FORMAT_64_length (B : FormatBuild) : 2 ≤ (FORMAT_64 B).length := by
  unfold FORMAT_64; split <;> simp

theorem formatConversion_length_le (B : FormatBuild) (c : Char) :
    (formatConversion B c).length ≤ (FORMAT_64 B).length + 1 := by
  have := two_le_FORMAT_64_length B
  unfold formatConversion; split <;> (try split) <;> simp [this]

/-- The translation is at most `FORMAT_64 + 2` halves as long as the format: a conversion
`%X` of two characters becomes at most `%`, `FORMAT_64` and a letter. -/
theorem formatSpec_length_le (B : FormatBuild) :
    ∀ fmt : CString, 2 * (formatSpec B fmt).length ≤ ((FORMAT_64 B).length + 2) * fmt.length
  | [] => by simp [formatSpec]
  | [c] => by
    have := two_le_FORMAT_64_length B
    by_cases hc : c = '%'
    · subst hc; simp [formatSpec, formatConversion]; omega
    · simp [formatSpec, hc]
  | c :: c' :: rest => by
    have := formatConversion_length_le B c'
    have := formatSpec_length_le B rest
    have := formatSpec_length_le B (c' :: rest)
    by_cases hc : c = '%'
    · subst hc
      simp only [formatSpec_percent, List.length_cons, List.length_append, Nat.mul_add,
        Nat.mul_one] at *
      omega
    · simp only [formatSpec_of_ne B hc, List.length_cons, Nat.mul_add, Nat.mul_one] at *
      omega

/-! ### The loop computes the translation -/

section Loop

variable (B : FormatBuild) (fmt : CString)

/-- From any position, a loop with enough fuel whose `assume` cannot fire appends the
translation of the rest of `fmt`. -/
theorem formatLoop_eq (fuel fmtPos : Nat) (buf : List Char) (hfuel : fmt.length ≤ fmtPos + fuel)
    (hroom : B.ASSUME = true → (buf ++ formatSpec B (fmt.drop fmtPos)).length ≤ 1000) :
    formatLoop B fmt fuel fmtPos buf = some (buf ++ formatSpec B (fmt.drop fmtPos)) := by
  induction fuel generalizing fmtPos buf with
  | zero => simp [formatLoop, List.drop_eq_nil_of_le (by omega : fmt.length ≤ fmtPos), formatSpec]
  | succ fuel ih =>
    by_cases hpos : fmtPos < fmt.length
    · rw [CString.drop_eq_at_cons hpos, formatSpec_cons] at hroom ⊢
      have hassume : ¬(B.ASSUME = true ∧ ¬buf.length < 1000) := fun ⟨ha, hb⟩ => by
        have := hroom ha
        split at this <;> simp only [List.length_append, List.length_cons] at this <;> omega
      simp only [formatLoop, if_pos hpos, if_neg hassume]
      by_cases hc : fmt.at fmtPos = '%'
      · simp only [hc, if_true, ne_eq, not_true_eq_false, if_false, CString.at_drop,
          List.drop_drop] at hroom ⊢
        rw [ih _ _ (by omega) (by simpa using hroom)]
        simp [Nat.add_comm 1 fmtPos]
      · simp only [hc, if_false, ne_eq, not_false_eq_true, if_true] at hroom ⊢
        rw [ih _ _ (by omega) (by simpa using hroom)]
        simp
    · simp [formatLoop, hpos, List.drop_eq_nil_of_le (by omega : fmt.length ≤ fmtPos), formatSpec]

/-- A stretch of `k` characters with no `%` is copied one by one while `bufPos` stays below
`1000`. -/
theorem formatLoop_plain (fuel k fmtPos : Nat) (buf : List Char) (hk : fmtPos + k ≤ fmt.length)
    (hplain : ∀ i < k, fmt.at (fmtPos + i) ≠ '%') (hroom : buf.length + k ≤ 1000) :
    formatLoop B fmt (fuel + k) fmtPos buf =
      formatLoop B fmt fuel (fmtPos + k) (buf ++ (fmt.drop fmtPos).take k) := by
  induction k generalizing fmtPos buf with
  | zero => simp
  | succ k ih =>
    have hc := hplain 0 (by omega)
    rw [Nat.add_zero] at hc
    rw [← Nat.add_assoc, formatLoop, if_pos (by omega), if_neg (by simp only [not_and, not_not]; omega),
      if_pos hc, ih (fmtPos + 1) _ (by omega) (fun i hi => by
        simpa only [Nat.add_assoc, Nat.add_comm 1 i] using hplain (i + 1) (by omega))
      (by simp only [List.length_append, List.length_singleton]; omega),
      CString.drop_eq_at_cons (by omega : fmtPos < fmt.length)]
    simp [Nat.add_assoc, Nat.add_comm 1 k]

end Loop

/-- Whenever its `assume` cannot fire, `format` writes the translation of `fmt` and a NUL. -/
theorem format_eq (B : FormatBuild) (fmt : CString)
    (hroom : B.ASSUME = true → (formatSpec B fmt).length ≤ 1000) :
    format B fmt = some (formatSpec B fmt ++ ['\x00']) := by
  simp [format, formatLoop_eq B fmt fmt.length 0 [] (by omega) (by simpa using hroom)]

/-- On every platform and in every build, `format` returns the translation of every format
short enough for the buffer, with its NUL, and writes nothing past the buffer: the format may
have `(2 * FORMAT_BUF_LEN - 2) / (FORMAT_64 + 2)` characters, 499 with `ll` and 399 with
`I64`. -/
theorem format_translates_within_buffer (B : FormatBuild) (fmt : CString)
    (hlen : ((FORMAT_64 B).length + 2) * fmt.length + 2 ≤ 2 * FORMAT_BUF_LEN) :
    format B fmt = some (formatSpec B fmt ++ ['\x00']) ∧
      (formatSpec B fmt ++ ['\x00']).length ≤ FORMAT_BUF_LEN := by
  have hspec := formatSpec_length_le B fmt
  unfold FORMAT_BUF_LEN at hlen ⊢
  refine ⟨format_eq B fmt fun _ => by omega, ?_⟩
  simp only [List.length_append, List.length_singleton]
  omega

theorem format_translates_trace_header :
    ((FORMAT_64 ⟨false, false, true⟩).length + 2) * "*TRACE*:%d:%d:%A:%d:".toList.length + 2 ≤
        2 * FORMAT_BUF_LEN ∧
      format ⟨false, false, true⟩ "*TRACE*:%d:%d:%A:%d:".toList =
        some (formatSpec ⟨false, false, true⟩ "*TRACE*:%d:%d:%A:%d:".toList ++ ['\x00']) ∧
      (formatSpec ⟨false, false, true⟩ "*TRACE*:%d:%d:%A:%d:".toList ++ ['\x00']).length ≤
        FORMAT_BUF_LEN :=
  ⟨by decide, format_translates_within_buffer ⟨false, false, true⟩ _ (by decide)⟩

/-- The `assume` of `format` checks `bufPos` before a conversion is written, so it lets a
conversion that starts below index `1000` run past the buffer: `%L` after 996 to 999 plain
characters writes its last characters, or its NUL, past `FORMAT_BUF_LEN`, in every build. -/
theorem format_overruns_buffer_past_assume (B : FormatBuild) (p : CString) (hp : '%' ∉ p)
    (hlo : 996 ≤ p.length) (hhi : p.length < 1000) :
    ∃ out, format B (p ++ ['%', 'L']) = some out ∧ FORMAT_BUF_LEN < out.length := by
  have hplain := formatLoop_plain B (p ++ ['%', 'L']) 2 p.length 0 [] (by simp) (fun i hi => by
    rw [Nat.zero_add, CString.at, List.getD_eq_getElem?_getD, List.getElem?_append_left hi,
      List.getElem?_eq_getElem hi, Option.getD_some]
    exact fun h => hp (h ▸ List.getElem_mem hi)) (by simp; omega)
  have hat (i : Nat) : (p ++ ['%', 'L']).at (p.length + i) = ['%', 'L'].getD i '\x00' := by
    simp [CString.at, List.getD_eq_getElem?_getD, List.getElem?_append_right]
  have hloop : formatLoop B (p ++ ['%', 'L']) (p ++ ['%', 'L']).length 0 [] =
      some (p ++ '%' :: formatConversion B 'L') := by
    rw [show (p ++ ['%', 'L']).length = 2 + p.length by simp [Nat.add_comm], hplain]
    have h0 : (p ++ ['%', 'L']).at p.length = '%' := hat 0
    have h1 : (p ++ ['%', 'L']).at (p.length + 1) = 'L' := hat 1
    simp [formatLoop, h0, h1, hhi]
  refine ⟨_, by rw [format, hloop]; rfl, ?_⟩
  have := two_le_FORMAT_64_length B
  simp [formatConversion, FORMAT_BUF_LEN]
  omega

theorem format_overruns_after_998_characters :
    '%' ∉ List.replicate 998 'a' ∧ 996 ≤ (List.replicate 998 'a').length ∧
      (List.replicate 998 'a').length < 1000 ∧
      ∃ out, format ⟨false, false, true⟩ (List.replicate 998 'a' ++ ['%', 'L']) = some out ∧
        FORMAT_BUF_LEN < out.length :=
  have hp : '%' ∉ List.replicate 998 'a' := by simp only [List.mem_replicate]; decide
  have hlen : (List.replicate 998 'a').length = 998 := List.length_replicate 998 'a'
  ⟨hp, by rw [hlen]; decide, by rw [hlen]; decide,
    format_overruns_buffer_past_assume ⟨false, false, true⟩ _ hp (by rw [hlen]; decide)
      (by rw [hlen]; decide)⟩

end SquawkVM
