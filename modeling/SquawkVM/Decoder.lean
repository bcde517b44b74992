import SquawkVM.Machine
import Mathlib.Data.List.Nodup

/-! The instruction decoder of the tracer (`trace.c`): `decodeInstruction` reads one
instruction from `traceIP` through the fetch macros of the dispatch loop and fills a
`DecodedInstruction`. Beside it stands the grammar of spec section 4.2 as the tracer's callers
read it, and the theorem that says where the two meet. -/

namespace SquawkVM

/-- The opcode numbers `decodeInstruction` switches on (`OPC_*`, generated from the Java
bytecode table and missing from `src/`), and whether `java_lang_VM_fcmpl` is defined. The case
labels of the outer `switch` are distinct bytes, as C requires of one `switch` over a fetched
byte; the escaped constants are opcodes of the escape page. -/
structure Opcodes where
  WIDE_M1 : Int
  WIDE_0 : Int
  WIDE_1 : Int
  WIDE_SHORT : Int
  WIDE_INT : Int
  ESCAPE : Int
  ESCAPE_WIDE_M1 : Int
  ESCAPE_WIDE_0 : Int
  ESCAPE_WIDE_1 : Int
  ESCAPE_WIDE_SHORT : Int
  ESCAPE_WIDE_INT : Int
  CONST_BYTE : Int
  CONST_SHORT : Int
  CONST_CHAR : Int
  CONST_INT : Int
  CONST_LONG : Int
  CONST_FLOAT : Int
  CONST_DOUBLE : Int
  FIRST_PARM_BYTECODE : Int
  PARM_BYTECODE_COUNT : Int
  FIRST_ESCAPE_PARM_BYTECODE : Int
  ESCAPE_PARM_BYTECODE_COUNT : Int
  fcmpl : Bool
  labels_distinct : [ESCAPE, WIDE_M1, WIDE_0, WIDE_1, WIDE_SHORT, WIDE_INT, ESCAPE_WIDE_M1,
    ESCAPE_WIDE_0, ESCAPE_WIDE_1, ESCAPE_WIDE_SHORT, ESCAPE_WIDE_INT, CONST_BYTE, CONST_SHORT,
    CONST_CHAR, CONST_INT, CONST_LONG].Nodup
  escape_byte : 0 ≤ ESCAPE ∧ ESCAPE < 256

/-- `DecodedInstruction` without the `TYPEMAP` field; `prefixByte` is its field `prefix`. The
`operand` union holds the member last written: `operand.i` for tags 1 and 3, `operand.l` for
tags 2 and 4. -/
structure DecodedInstruction where
  tag : Int
  prefixByte : Int
  opcode : Int
  operand : Int
  deriving DecidableEq, Repr

/-! ### The fetch macros

They belong to the dispatch loop's generated code, which `src/` does not hold; they read the
bytes of the code in order from `ip` and advance it. -/

/-- `fetchUByte()`. -/
def fetchUByte (code : Nat → UInt8) (ip : Nat) : Int × Nat := ((code ip).toNat, ip + 1)

/-- `fetchByte()`: the byte as a `signed char`. -/
def fetchByte (code : Nat → UInt8) (ip : Nat) : Int × Nat :=
  (((code ip).toNat : Int).bmod 256, ip + 1)

/-- Modelled from the spec: the `n` bytes from `ip` on as one unsigned number, the first byte
most significant in a big-endian build and least significant otherwise. -/
def fetchBytes (bigEndian : Bool) (code : Nat → UInt8) (ip n : Nat) : Nat :=
  let bytes := (List.range n).map fun k => (code (ip + k)).toNat
  (if bigEndian then bytes else bytes.reverse).foldl (fun acc b => acc * 256 + b) 0

/-- Modelled from the spec: `fetchShort()`, a signed 16-bit value. -/
def fetchShort (bigEndian : Bool) (code : Nat → UInt8) (ip : Nat) : Int × Nat :=
  ((fetchBytes bigEndian code ip 2 : Int).bmod (2 ^ 16), ip + 2)

/-- Modelled from the spec: `fetchUShort()`, an unsigned 16-bit value. -/
def fetchUShort (bigEndian : Bool) (code : Nat → UInt8) (ip : Nat) : Int × Nat :=
  (fetchBytes bigEndian code ip 2, ip + 2)

/-- Modelled from the spec: `fetchInt()`, a signed 32-bit value. -/
def fetchInt (bigEndian : Bool) (code : Nat → UInt8) (ip : Nat) : Int × Nat :=
  (toInt32 (fetchBytes bigEndian code ip 4), ip + 4)

/-- Modelled from the spec: `fetchLong()`, a signed 64-bit value. -/
def fetchLong (bigEndian : Bool) (code : Nat → UInt8) (ip : Nat) : Int × Nat :=
  (toInt64 (fetchBytes bigEndian code ip 8), ip + 8)

/-! ### The decoder -/

section
variable (O : Opcodes) (bigEndian : Bool) (code : Nat → UInt8)

/-- `decodeInstruction(instruction, traceIP)`: the struct as the call leaves it, and `ip`
after the instruction. The `switch` is the chain of its case labels in source order. -/
def decodeInstruction (instruction : DecodedInstruction) (traceIP : Nat) :
    DecodedInstruction × Nat :=
  let (opcode, ip) := fetchUByte code traceIP
  let instruction := { instruction with tag := 1, prefixByte := -1, opcode := -1 }
  if opcode = O.WIDE_M1 then
    let (op, ip) := fetchUByte code ip
    let (b, ip) := fetchUByte code ip
    let operand := toInt32 (0xFFFFFF00 ||| b.toNat : Nat)
    ({ instruction with prefixByte := opcode, opcode := op, operand := operand }, ip)
  else if opcode = O.WIDE_0 then
    let (op, ip) := fetchUByte code ip
    let (b, ip) := fetchUByte code ip
    ({ instruction with prefixByte := opcode, opcode := op, operand := b }, ip)
  else if opcode = O.WIDE_1 then
    let (op, ip) := fetchUByte code ip
    let (b, ip) := fetchUByte code ip
    let operand : Int := (0x100 ||| b.toNat : Nat)
    ({ instruction with prefixByte := opcode, opcode := op, operand := operand }, ip)
  else if opcode = O.WIDE_SHORT then
    let (fparm, ip) := fetchShort bigEndian code ip
    let (op, ip) := fetchUByte code ip
    ({ instruction with prefixByte := opcode, opcode := op, operand := fparm }, ip)
  else if opcode = O.WIDE_INT then
    let (fparm, ip) := fetchInt bigEndian code ip
    let (op, ip) := fetchUByte code ip
    ({ instruction with prefixByte := opcode, opcode := op, operand := fparm }, ip)
  else if opcode = O.ESCAPE then
    let (e, ip) := fetchUByte code ip
    let eopcode := e + 256
    let instruction := { instruction with opcode := eopcode }
    if O.fcmpl ∧ eopcode = O.CONST_FLOAT then
      let (fparm, ip) := fetchInt bigEndian code ip
      ({ instruction with tag := 3, operand := fparm }, ip)
    else if O.fcmpl ∧ eopcode = O.CONST_DOUBLE then
      let (flparm, ip) := fetchLong bigEndian code ip
      ({ instruction with tag := 4, operand := flparm }, ip)
    else
      let instruction := { instruction with prefixByte := opcode }
      if eopcode ≥ O.FIRST_ESCAPE_PARM_BYTECODE ∧
          eopcode < O.FIRST_ESCAPE_PARM_BYTECODE + O.ESCAPE_PARM_BYTECODE_COUNT then
        let (b, ip) := fetchUByte code ip
        ({ instruction with operand := b }, ip)
      else ({ instruction with tag := 0 }, ip)
  else if opcode = O.ESCAPE_WIDE_M1 then
    let (op, ip) := fetchUByte code ip
    let (b, ip) := fetchUByte code ip
    let operand := toInt32 (0xFFFFFF00 ||| b.toNat : Nat)
    ({ instruction with prefixByte := opcode, opcode := op + 256, operand := operand }, ip)
  else if opcode = O.ESCAPE_WIDE_0 then
    let (op, ip) := fetchUByte code ip
    let (b, ip) := fetchUByte code ip
    ({ instruction with prefixByte := opcode, opcode := op + 256, operand := b }, ip)
  else if opcode = O.ESCAPE_WIDE_1 then
    let (op, ip) := fetchUByte code ip
    let (b, ip) := fetchUByte code ip
    let operand : Int := (0x100 ||| b.toNat : Nat)
    ({ instruction with prefixByte := opcode, opcode := op + 256, operand := operand }, ip)
  else if opcode = O.ESCAPE_WIDE_SHORT then
    let (fparm, ip) := fetchShort bigEndian code ip
    let (op, ip) := fetchUByte code ip
    ({ instruction with prefixByte := opcode, opcode := op + 256, operand := fparm }, ip)
  else if opcode = O.ESCAPE_WIDE_INT then
    let (fparm, ip) := fetchInt bigEndian code ip
    let (op, ip) := fetchUByte code ip
    ({ instruction with prefixByte := opcode, opcode := op + 256, operand := fparm }, ip)
  else if opcode = O.CONST_BYTE then
    let (b, ip) := fetchByte code ip
    ({ instruction with opcode := opcode, operand := b }, ip)
  else if opcode = O.CONST_SHORT then
    let (fparm, ip) := fetchShort bigEndian code ip
    ({ instruction with opcode := opcode, operand := fparm }, ip)
  else if opcode = O.CONST_CHAR then
    let (fparm, ip) := fetchUShort bigEndian code ip
    ({ instruction with opcode := opcode, operand := fparm }, ip)
  else if opcode = O.CONST_INT then
    let (fparm, ip) := fetchInt bigEndian code ip
    ({ instruction with opcode := opcode, operand := fparm }, ip)
  else if opcode = O.CONST_LONG then
    let (flparm, ip) := fetchLong bigEndian code ip
    ({ instruction with tag := 2, opcode := opcode, operand := flparm }, ip)
  else
    let instruction := { instruction with opcode := opcode }
    if opcode ≥ O.FIRST_PARM_BYTECODE ∧ opcode < O.FIRST_PARM_BYTECODE + O.PARM_BYTECODE_COUNT then
      let (b, ip) := fetchByte code ip
      ({ instruction with operand := b }, ip)
    else ({ instruction with tag := 0 }, ip)

/-! ### The grammar of spec section 4.2 -/

/-- The byte at `ip` as a number. -/
def byteAt (ip : Nat) : Int := (code ip).toNat

/-- The byte at `ip` as a signed byte. -/
def signedByteAt (ip : Nat) : Int := (byteAt code ip).bmod 256

/-- The two bytes at `ip` as a signed short. -/
def shortAt (ip : Nat) : Int := (fetchBytes bigEndian code ip 2 : Int).bmod (2 ^ 16)

/-- The four bytes at `ip` as an `int`. -/
def intAt (ip : Nat) : Int := toInt32 (fetchBytes bigEndian code ip 4)

/-- The eight bytes at `ip` as a `long`. -/
def longAt (ip : Nat) : Int := toInt64 (fetchBytes bigEndian code ip 8)

/-- The instruction at `ip` as the grammar of spec section 4.2 describes it, field by field
and position by position, with its length; the operand is left `0` when the tag is `0`. -/
def grammarDecode (ip : Nat) : DecodedInstruction × Nat :=
  let b0 := byteAt code ip
  let wideM1 (esc : Int) : DecodedInstruction × Nat :=
    (⟨1, b0, byteAt code (ip + 1) + esc, toInt32 (0xFFFFFF00 ||| (code (ip + 2)).toNat : Nat)⟩, ip + 3)
  let wide0 (esc : Int) : DecodedInstruction × Nat :=
    (⟨1, b0, byteAt code (ip + 1) + esc, byteAt code (ip + 2)⟩, ip + 3)
  let wide1 (esc : Int) : DecodedInstruction × Nat :=
    (⟨1, b0, byteAt code (ip + 1) + esc, (0x100 ||| (code (ip + 2)).toNat : Nat)⟩, ip + 3)
  let wideShort (esc : Int) : DecodedInstruction × Nat :=
    (⟨1, b0, byteAt code (ip + 3) + esc, shortAt bigEndian code (ip + 1)⟩, ip + 4)
  let wideInt (esc : Int) : DecodedInstruction × Nat :=
    (⟨1, b0, byteAt code (ip + 5) + esc, intAt bigEndian code (ip + 1)⟩, ip + 6)
  if b0 = O.WIDE_M1 then wideM1 0
  else if b0 = O.WIDE_0 then wide0 0
  else if b0 = O.WIDE_1 then wide1 0
  else if b0 = O.WIDE_SHORT then wideShort 0
  else if b0 = O.WIDE_INT then wideInt 0
  else if b0 = O.ESCAPE then
    let e := byteAt code (ip + 1) + 256
    if O.fcmpl ∧ e = O.CONST_FLOAT then (⟨3, b0, e, intAt bigEndian code (ip + 2)⟩, ip + 6)
    else if O.fcmpl ∧ e = O.CONST_DOUBLE then
      (⟨4, b0, e, longAt bigEndian code (ip + 2)⟩, ip + 10)
    else if e ≥ O.FIRST_ESCAPE_PARM_BYTECODE ∧
        e < O.FIRST_ESCAPE_PARM_BYTECODE + O.ESCAPE_PARM_BYTECODE_COUNT then
      (⟨1, b0, e, signedByteAt code (ip + 2)⟩, ip + 3)
    else (⟨0, b0, e, 0⟩, ip + 2)
  else if b0 = O.ESCAPE_WIDE_M1 then wideM1 256
  else if b0 = O.ESCAPE_WIDE_0 then wide0 256
  else if b0 = O.ESCAPE_WIDE_1 then wide1 256
  else if b0 = O.ESCAPE_WIDE_SHORT then wideShort 256
  else if b0 = O.ESCAPE_WIDE_INT then wideInt 256
  else if b0 = O.CONST_BYTE then (⟨1, -1, b0, signedByteAt code (ip + 1)⟩, ip + 2)
  else if b0 = O.CONST_SHORT then (⟨1, -1, b0, shortAt bigEndian code (ip + 1)⟩, ip + 3)
  else if b0 = O.CONST_CHAR then (⟨1, -1, b0, fetchBytes bigEndian code (ip + 1) 2⟩, ip + 3)
  else if b0 = O.CONST_INT then (⟨1, -1, b0, intAt bigEndian code (ip + 1)⟩, ip + 5)
  else if b0 = O.CONST_LONG then (⟨2, -1, b0, longAt bigEndian code (ip + 1)⟩, ip + 9)
  else if b0 ≥ O.FIRST_PARM_BYTECODE ∧ b0 < O.FIRST_PARM_BYTECODE + O.PARM_BYTECODE_COUNT then
    (⟨1, -1, b0, signedByteAt code (ip + 1)⟩, ip + 2)
  else (⟨0, -1, b0, 0⟩, ip + 1)

/-- The instruction at `traceIP` is an escaped float or double constant. -/
def escapeFloatConstant (traceIP : Nat) : Prop :=
  byteAt code traceIP = O.ESCAPE ∧ O.fcmpl = true ∧
    (byteAt code (traceIP + 1) + 256 = O.CONST_FLOAT ∨ byteAt code (traceIP + 1) + 256 = O.CONST_DOUBLE)

instance (traceIP : Nat) : Decidable (escapeFloatConstant O code traceIP) :=
  inferInstanceAs (Decidable (_ ∧ _ ∧ _))

/-- The instruction at `traceIP` is an escaped opcode of the escape parameter range. -/
def escapeParm (traceIP : Nat) : Prop :=
  byteAt code traceIP = O.ESCAPE ∧ ¬escapeFloatConstant O code traceIP ∧
    byteAt code (traceIP + 1) + 256 ≥ O.FIRST_ESCAPE_PARM_BYTECODE ∧
    byteAt code (traceIP + 1) + 256 < O.FIRST_ESCAPE_PARM_BYTECODE + O.ESCAPE_PARM_BYTECODE_COUNT

instance (traceIP : Nat) : Decidable (escapeParm O code traceIP) :=
  inferInstanceAs (Decidable (_ ∧ _ ∧ _ ∧ _))

end

/-- The labels tested before `ESCAPE` are not `ESCAPE`. -/
theorem Opcodes.escape_ne (O : Opcodes) :
    O.ESCAPE ≠ O.WIDE_M1 ∧ O.ESCAPE ≠ O.WIDE_0 ∧ O.ESCAPE ≠ O.WIDE_1 ∧
      O.ESCAPE ≠ O.WIDE_SHORT ∧ O.ESCAPE ≠ O.WIDE_INT := by
  have h := (List.nodup_cons.1 O.labels_distinct).1
  simp only [List.mem_cons, not_or] at h
  exact ⟨h.1, h.2.1, h.2.2.1, h.2.2.2.1, h.2.2.2.2.1⟩

/-- A byte read signed and taken back modulo 256 is the byte. -/
theorem bmod_byte_emod (b : UInt8) : ((b.toNat : Int).bmod 256) % 256 = b.toNat := by
  have h : ((b.toNat : Int).bmod (256 : Nat)) % ((256 : Nat) : Int) =
      (b.toNat : Int) % ((256 : Nat) : Int) := Int.bmod_emod
  push_cast at h
  rw [h]
  exact Int.emod_eq_of_lt (by omega) (by have := b.toNat_lt_size; simp only [UInt8.size] at this; omega)

/-- The decoder's result `d` against the grammar's `g` for the instruction at `traceIP`: the
same length, tag and opcode; the same prefix except on an escaped float or double constant,
where the decoder leaves `-1`; and, where there is an operand, the same operand except on an
escaped parameter opcode, where the decoder holds the grammar's signed byte read unsigned. -/
def MatchesGrammar (O : Opcodes) (code : Nat → UInt8) (traceIP : Nat)
    (d g : DecodedInstruction × Nat) : Prop :=
  d.2 = g.2 ∧ d.1.tag = g.1.tag ∧ d.1.opcode = g.1.opcode ∧
    d.1.prefixByte = (if escapeFloatConstant O code traceIP then -1 else g.1.prefixByte) ∧
    (g.1.tag ≠ 0 →
      d.1.operand = if escapeParm O code traceIP then g.1.operand % 256 else g.1.operand)

theorem matchesGrammar_ite {O : Opcodes} {code : Nat → UInt8} {traceIP : Nat} {c : Prop}
    [Decidable c] {a b x y : DecodedInstruction × Nat}
    (h₁ : c → MatchesGrammar O code traceIP a x) (h₂ : ¬c → MatchesGrammar O code traceIP b y) :
    MatchesGrammar O code traceIP (if c then a else b) (if c then x else y) := by
  split_ifs with h
  exacts [h₁ h, h₂ h]

theorem decodeInstruction_matches_grammar (O : Opcodes) (bigEndian : Bool) (code : Nat → UInt8)
    (instruction : DecodedInstruction) (traceIP : Nat) :
    MatchesGrammar O code traceIP (decodeInstruction O bigEndian code instruction traceIP)
      (grammarDecode O bigEndian code traceIP) := by
  by_cases hesc : ((code traceIP).toNat : Int) = O.ESCAPE
  case pos =>
    obtain ⟨h1, h2, h3, h4, h5⟩ := O.escape_ne
    unfold decodeInstruction grammarDecode
    dsimp only [fetchUByte, byteAt]
    simp only [hesc, h1, h2, h3, h4, h5, if_false, if_true]
    have hE : ¬(O.fcmpl = true ∧ byteAt code (traceIP + 1) + 256 = O.CONST_FLOAT) →
        ¬(O.fcmpl = true ∧ byteAt code (traceIP + 1) + 256 = O.CONST_DOUBLE) →
        ¬escapeFloatConstant O code traceIP := by
      rintro hfl hdb ⟨-, hf, h | h⟩
      exacts [hfl ⟨hf, h⟩, hdb ⟨hf, h⟩]
    split_ifs with hfl hdb hpr <;> unfold MatchesGrammar
    case pos =>
      have hF : escapeFloatConstant O code traceIP := ⟨hesc, hfl.1, .inl hfl.2⟩
      rw [if_pos hF, if_neg fun h => h.2.1 hF]
      simp [fetchInt, intAt]
    case pos =>
      have hF : escapeFloatConstant O code traceIP := ⟨hesc, hdb.1, .inr hdb.2⟩
      rw [if_pos hF, if_neg fun h => h.2.1 hF]
      simp [fetchLong, longAt]
    case pos =>
      rw [if_neg (hE hfl hdb), if_pos ⟨hesc, hE hfl hdb, hpr⟩]
      simp [signedByteAt, byteAt, bmod_byte_emod]
    case neg =>
      rw [if_neg (hE hfl hdb)]
      simp
  case neg =>
    have hf : ¬escapeFloatConstant O code traceIP := fun h => hesc h.1
    have hp : ¬escapeParm O code traceIP := fun h => hesc h.1
    unfold decodeInstruction grammarDecode
    dsimp only [fetchUByte, byteAt]
    simp only [hesc, if_false]
    repeat' (apply matchesGrammar_ite <;> intro)
    all_goals simp only [MatchesGrammar, hf, hp, fetchByte, fetchShort, fetchUShort, fetchInt,
      fetchLong, signedByteAt, byteAt, shortAt, intAt, longAt, add_assoc, add_zero, Nat.reduceAdd,
      Nat.reducePow, Int.reduceNeg, Int.toNat_ofNat, ↓reduceIte, ne_eq, one_ne_zero,
      OfNat.ofNat_ne_zero, not_true_eq_false, not_false_eq_true, IsEmpty.forall_iff, imp_self,
      and_self]

/-- The decoder leaves the grammar in two places, for every opcode table: an escaped float
constant keeps the prefix `-1` though the `ESCAPE` byte opens it, and an escaped parameter
opcode reads its operand byte unsigned, so the byte `0xFF` gives `255` where the grammar's
signed byte is `-1`. -/
theorem decodeInstruction_escape_divergences (O : Opcodes) (bigEndian : Bool)
    (instruction : DecodedInstruction) :
    (∀ code traceIP, byteAt code traceIP = O.ESCAPE → O.fcmpl = true →
      byteAt code (traceIP + 1) + 256 = O.CONST_FLOAT →
      (decodeInstruction O bigEndian code instruction traceIP).1.prefixByte = -1 ∧
        (grammarDecode O bigEndian code traceIP).1.prefixByte = O.ESCAPE) ∧
    (∀ code traceIP, byteAt code traceIP = O.ESCAPE → ¬escapeFloatConstant O code traceIP →
      byteAt code (traceIP + 1) + 256 ≥ O.FIRST_ESCAPE_PARM_BYTECODE →
      byteAt code (traceIP + 1) + 256 <
        O.FIRST_ESCAPE_PARM_BYTECODE + O.ESCAPE_PARM_BYTECODE_COUNT →
      code (traceIP + 2) = 0xFF →
      (decodeInstruction O bigEndian code instruction traceIP).1.operand = 255 ∧
        (grammarDecode O bigEndian code traceIP).1.operand = -1) := by
  obtain ⟨h1, h2, h3, h4, h5⟩ := O.escape_ne
  constructor
  · intro code traceIP hesc hf hfl
    unfold decodeInstruction grammarDecode
    dsimp only [fetchUByte, byteAt] at hesc hfl ⊢
    simp only [hesc, h1, h2, h3, h4, h5, hf, hfl, and_self, if_false, if_true]
  · intro code traceIP hesc hE hlo hhi hff
    have hfl : ¬(O.fcmpl = true ∧ byteAt code (traceIP + 1) + 256 = O.CONST_FLOAT) :=
      fun h => hE ⟨hesc, h.1, .inl h.2⟩
    have hdb : ¬(O.fcmpl = true ∧ byteAt code (traceIP + 1) + 256 = O.CONST_DOUBLE) :=
      fun h => hE ⟨hesc, h.1, .inr h.2⟩
    unfold decodeInstruction grammarDecode
    dsimp only [fetchUByte, byteAt] at hesc hfl hdb hlo hhi ⊢
    simp only [hesc, h1, h2, h3, h4, h5, if_false, if_true]
    rw [if_neg hfl, if_neg hdb, if_pos ⟨hlo, hhi⟩, if_neg hfl, if_neg hdb, if_pos ⟨hlo, hhi⟩]
    simp only [signedByteAt, byteAt, add_assoc, hff]
    exact ⟨rfl, rfl⟩

end SquawkVM
