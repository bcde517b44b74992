import SquawkVM.Options

/-! `getFileSize` and `readFile` of `squawk.c`, which size and load the bootstrap suite. The host
calls are parameters: what `stat` gives (the size or an `errno`), whether `open` returns a
descriptor, and what each `read` returns after a given number of bytes.

When every `read` either fails or makes progress, the loop of `readFile` ends after at most
`st_size` calls, and unless a `read` failed it has read exactly `st_size` bytes. A `read` that
returns `0` (the end of the file) first, because the file is shorter than `stat` said (it shrank
after the `stat`), leaves the loop spinning for ever; for a regular file that is what `read`
does. -/

namespace SquawkVM

/-- The host's side of a call of `getFileSize(file)` or `readFile(file, buffer, size)`: what
`stat` gives (`st_size`, or the `errno` it fails with), whether `open` returns a descriptor, and
`read off toRead`, what `read(fd, readPos, toRead)` returns when `off` bytes have been read;
with the `errno` of a failed `open` and `read`, `ENOENT` and `strerror`. -/
structure HostFile where
  stat : Except Int Int
  opened : Bool
  read : Int → Int → Int
  openErrno : Int
  readErrno : Int
  ENOENT : Int
  strerror : Int → String

/-- `getFileSize(file)`: `st_size`, or `-1` if there is no such file. -/
def getFileSize (H : HostFile) (file : String) : Except VMStop Int :=
  match H.stat with
  | .ok stSize => .ok stSize
  | .error errno =>
    if errno ≠ H.ENOENT then
      .error ⟨[.printf ("Call to stat(" ++ file ++ ") failed: " ++ H.strerror errno ++ "\n")], -1⟩
    else .ok (-1)

/-- The `while (toRead > 0)` loop of `readFile`: `off` bytes have been read (`readPos - buffer`)
and `toRead` are left. It gives the number of bytes read into the buffer; `fuel` bounds the
iterations, and `none` means that it ran out. -/
def readFileLoop (H : HostFile) (stSize : Int) : Nat → Int → Int → Option (Except VMStop Int)
  | 0, _, _ => none
  | fuel + 1, off, toRead =>
    if toRead > 0 then
      if H.read off toRead = -1 then
        some (.error ⟨[.printf ("Call to read() failed: " ++ H.strerror H.readErrno ++
          " (file size=" ++ toString stSize ++ ", read=" ++ toString (stSize - toRead) ++ ")\n")],
          -1⟩)
      else readFileLoop H stSize fuel (off + H.read off toRead) (toRead - H.read off toRead)
    else some (.ok off)

/-- `readFile(file, buffer, size)`: its result (the `int` of `st_size`, or `-1` if there is no
such file) and the number of bytes it read into `buffer`. `size` is not read. -/
def readFile (H : HostFile) (file : String) (fuel : Nat) : Option (Except VMStop (Int × Int)) :=
  match H.stat with
  | .ok stSize =>
    if H.opened then
      (readFileLoop H stSize fuel 0 (toInt32 stSize)).map (·.map ((toInt32 stSize, ·)))
    else
      some (.error ⟨[.printf ("Call to open(" ++ file ++ ") failed: " ++
        H.strerror H.openErrno ++ "\n")], -1⟩)
  | .error errno =>
    if errno ≠ H.ENOENT then
      some (.error ⟨[.printf ("Call to stat(" ++ file ++ ") failed: " ++ H.strerror errno ++
        "\n")], -1⟩)
    else some (.ok (-1, 0))

/-! ### Reads that make progress load the whole file -/

/-- Every `read` the loop can make for a file of `total` bytes either fails or reads between one
byte and what it asked for. -/
def ReadsProgress (H : HostFile) (total : Int) : Prop :=
  ∀ off, 0 ≤ off → off < total →
    H.read off (total - off) = -1 ∨ (0 < H.read off (total - off) ∧ H.read off (total - off) ≤ total - off)

/-- What a read of `L` bytes from a regular file at offset `off` returns: what is asked for, or
what is left before the end of the file. -/
def regularFileRead (L : Int) (off toRead : Int) : Int := min toRead (L - off)

section Loop

variable (H : HostFile) (stSize : Int)

/-- From any point of a run of `total` bytes whose reads make progress, the loop ends within
`toRead + 1` iterations, with every byte read or with a failed `read`. -/
theorem readFileLoop_ends {total : Int} (hp : ReadsProgress H total) :
    ∀ (fuel : Nat) (off : Int), 0 ≤ off → off ≤ total → total - off < fuel →
      readFileLoop H stSize fuel off (total - off) = some (.ok total) ∨
        ∃ e : VMStop, readFileLoop H stSize fuel off (total - off) = some (.error e) ∧
          e.exitCode = -1
  | 0, off, _, _, hfuel => by omega
  | fuel + 1, off, h0, hle, hfuel => by
    unfold readFileLoop
    by_cases ht : total - off > 0
    · rw [if_pos ht]
      rcases hp off h0 (by omega) with hfail | ⟨hpos, hle'⟩
      · exact .inr ⟨_, by rw [if_pos hfail], rfl⟩
      · rw [if_neg (by omega), show total - off - H.read off (total - off) =
          total - (off + H.read off (total - off)) by omega]
        exact readFileLoop_ends hp fuel _ (by omega) (by omega) (by omega)
    · rw [if_neg ht, show off = total by omega]
      exact .inl rfl

/-- Where every `read` from `off` on returns `0`, the loop never leaves it. -/
theorem readFileLoop_spins {off toRead : Int} (heof : ∀ n, 0 < n → H.read off n = 0)
    (ht : 0 < toRead) : ∀ fuel, readFileLoop H stSize fuel off toRead = none
  | 0 => rfl
  | fuel + 1 => by
    have h0 := heof toRead ht
    rw [readFileLoop, if_pos ht, h0, if_neg (by decide), Int.add_zero, Int.sub_zero]
    exact readFileLoop_spins heof ht fuel

/-- Reading a regular file of `L` bytes that `stat` said was longer: the loop reaches the end of
the file and never leaves it. -/
theorem readFileLoop_short_file {L : Int}
    (hread : ∀ off n, 0 ≤ off → off ≤ L → H.read off n = regularFileRead L off n)
    {off toRead : Int} (h0 : 0 ≤ off) (hoff : off ≤ L) (hshort : L < off + toRead) :
    ∀ fuel, readFileLoop H stSize fuel off toRead = none
  | 0 => rfl
  | fuel + 1 => by
    have hc : H.read off toRead = L - off := by
      rw [hread off toRead h0 hoff]; unfold regularFileRead; omega
    rw [readFileLoop, if_pos (by omega), hc, if_neg (by omega)]
    refine readFileLoop_spins H stSize (fun n hn => ?_) (by omega) fuel
    rw [hread _ _ (by omega) (by omega)]; unfold regularFileRead; omega

end Loop

/-- A regular file of `L` bytes, read from an offset `off < L`, gives a positive count no larger
than what was asked for. -/
theorem regularFileRead_progress {L total : Int} (hL : total ≤ L) :
    ∀ off, 0 ≤ off → off < total → 0 < regularFileRead L off (total - off) ∧
      regularFileRead L off (total - off) ≤ total - off := by
  intro off _ h
  unfold regularFileRead
  omega

theorem readFile_of_opened (H : HostFile) (file : String) (fuel : Nat) {stSize : Int}
    (hstat : H.stat = .ok stSize) (hopen : H.opened = true) :
    readFile H file fuel =
      (readFileLoop H stSize fuel 0 (toInt32 stSize)).map (·.map ((toInt32 stSize, ·))) := by
  simp only [readFile, hstat, hopen, if_true]

/-- When `stat` succeeds with a size that fits an `int` and every `read` fails or makes
progress, `readFile` ends once it has the fuel for `st_size` reads and a last test: it has read
exactly `st_size` bytes into the buffer and returns `st_size`, or a `read` failed and the VM
stopped with exit code `-1`. -/
theorem readFile_loads_whole_file (H : HostFile) (file : String) {stSize : Int}
    (hstat : H.stat = .ok stSize) (hopen : H.opened = true) (h0 : 0 ≤ stSize)
    (hmax : stSize ≤ INT_MAX) (hp : ReadsProgress H stSize) (fuel : Nat) (hfuel : stSize < fuel) :
    readFile H file fuel = some (.ok (stSize, stSize)) ∨
      ∃ e : VMStop, readFile H file fuel = some (.error e) ∧ e.exitCode = -1 := by
  rw [readFile_of_opened H file fuel hstat hopen, toInt32_of_le h0 hmax]
  rcases readFileLoop_ends H stSize hp fuel 0 le_rfl h0 (by omega) with h | ⟨e, h, he⟩ <;>
    rw [Int.sub_zero] at h <;> rw [h]
  · exact .inl rfl
  · exact .inr ⟨e, rfl, he⟩

theorem readFile_loads_regular_file :
    let H : HostFile := ⟨.ok 5, true, regularFileRead 5, 0, 0, 2, fun _ => ""⟩
    H.stat = .ok 5 ∧ H.opened = true ∧ (0 : Int) ≤ 5 ∧ (5 : Int) ≤ INT_MAX ∧ ReadsProgress H 5 ∧
      (5 : Int) < (6 : Nat) ∧
      (readFile H "squawk.suite" 6 = some (.ok (5, 5)) ∨
        ∃ e : VMStop, readFile H "squawk.suite" 6 = some (.error e) ∧ e.exitCode = -1) :=
  have hp : ReadsProgress ⟨.ok 5, true, regularFileRead 5, 0, 0, 2, fun _ => ""⟩ 5 :=
    fun off h0 h => .inr (regularFileRead_progress le_rfl off h0 h)
  ⟨rfl, rfl, by decide, by decide, hp, by decide,
    readFile_loads_whole_file _ "squawk.suite" rfl rfl (by decide) (by decide) hp 6 (by decide)⟩

/-- If the boot file is a regular file of `L` bytes while `stat` said `st_size > L` (it shrank
after the `stat`), `readFile` never returns: after `L` bytes every `read` returns `0` and the
loop asks again, for any number of iterations. -/
theorem readFile_spins_on_short_file (H : HostFile) (file : String) {stSize L : Int}
    (hstat : H.stat = .ok stSize) (hopen : H.opened = true) (hmax : stSize ≤ INT_MAX)
    (hL : 0 ≤ L) (hshort : L < stSize)
    (hread : ∀ off n, 0 ≤ off → off ≤ L → H.read off n = regularFileRead L off n) (fuel : Nat) :
    readFile H file fuel = none := by
  rw [readFile_of_opened H file fuel hstat hopen, toInt32_of_le (by omega) hmax,
    readFileLoop_short_file H stSize hread le_rfl hL (by omega)]
  rfl

theorem readFile_spins_on_truncated_suite :
    let H : HostFile := ⟨.ok 10, true, regularFileRead 4, 0, 0, 2, fun _ => ""⟩
    H.stat = .ok 10 ∧ H.opened = true ∧ (10 : Int) ≤ INT_MAX ∧ (0 : Int) ≤ 4 ∧ (4 : Int) < 10 ∧
      (∀ off n, 0 ≤ off → off ≤ 4 → H.read off n = regularFileRead 4 off n) ∧
      readFile H "squawk.suite" 1000 = none :=
  ⟨rfl, rfl, by decide, by decide, by decide, fun _ _ _ _ => rfl,
    readFile_spins_on_short_file _ "squawk.suite" rfl rfl (by decide) (by decide) (by decide)
      (fun _ _ _ _ => rfl) 1000⟩

end SquawkVM
