import Mathlib.Data.List.Basic
import Mathlib.Algebra.Order.Group.Nat

/-! # Stream serializers

`CSparkMintMeta::SerializationOp` reads and writes its fields with `READWRITE`, which
dispatches on the field's C++ type to the `Serialize`/`Unserialize` overloads of
`serialize.h`.  That header is not among the modelled sources, so a serializer is taken
here as a `Codec`: a writer, a reader that consumes a prefix of the stream, and the law
that the reader reads back exactly what the writer wrote, whatever follows it.  The law is
a field, so every codec the model can build is self-delimiting.

The second half stands for the serializers of `serialize.h` themselves, which are outside
the sources under `src/`: fixed-width little-endian integers, a one-byte `bool`, the raw
32 bytes of a `uint256`, and byte vectors behind a CompactSize length prefix.  The one real argument is
`readCompactSize_writeCompactSize`: each of the four prefix widths is read back, and the
canonical-size checks of the reader never reject what the writer produced.
-/

namespace Firo.Serialize

/-- The bytes of a data stream, front first. -/
abbrev Bytes := List UInt8

/-- A serializer for one C++ type: `write` appends the value's bytes, `read` takes a value
off the front of the stream and returns what is left. -/
structure Codec (α : Type) where
  write : α → Bytes
  read : Bytes → Option (α × Bytes)
  read_write : ∀ value rest, read (write value ++ rest) = some (value, rest)

attribute [simp] Codec.read_write

/-! ## Fixed-width little-endian integers -/

/-- The `width` low bytes of `n`, least significant first (`ser_writedata16/32/64`). -/
def leBytes : Nat → Nat → Bytes
  | 0, _ => []
  | width + 1, n => UInt8.ofNat (n % 256) :: leBytes width (n / 256)

/-- The number a little-endian byte string denotes. -/
def leValue : Bytes → Nat
  | [] => 0
  | byte :: bytes => byte.toNat + 256 * leValue bytes

/-- Read `width` bytes as a little-endian number; `none` when the stream is too short. -/
def readLE (width : Nat) (stream : Bytes) : Option (Nat × Bytes) :=
  if width ≤ stream.length then some (leValue (stream.take width), stream.drop width)
  else none

@[simp] theorem leBytes_length (width n : Nat) : (leBytes width n).length = width := by
  induction width generalizing n with
  | zero => rfl
  | succ width inductionHypothesis => simp [leBytes, inductionHypothesis]

theorem leValue_leBytes (width n : Nat) : leValue (leBytes width n) = n % 256 ^ width := by
  induction width generalizing n with
  | zero => simp [leBytes, leValue, Nat.mod_one]
  | succ width inductionHypothesis =>
    have lowByte : (UInt8.ofNat (n % 256)).toNat = n % 256 := by
      simp [UInt8.toNat, UInt8.ofNat]
    rw [leBytes, leValue, inductionHypothesis, lowByte, Nat.pow_succ', Nat.mod_mul]

theorem readLE_leBytes (width n : Nat) (rest : Bytes) :
    readLE width (leBytes width n ++ rest) = some (n % 256 ^ width, rest) := by
  have length : (leBytes width n).length = width := leBytes_length width n
  simp [readLE, List.take_left' length, List.drop_left' length, leValue_leBytes]

theorem two_pow_eight_mul (width : Nat) : 2 ^ (8 * width) = 256 ^ width := by
  rw [Nat.pow_mul]

/-- `width`-byte little-endian integers: `int` is `littleEndian 4`, `uint64_t` is
`littleEndian 8`. -/
def littleEndian (width : Nat) : Codec (BitVec (8 * width)) where
  write value := leBytes width value.toNat
  read stream := (readLE width stream).map fun (n, rest) => (BitVec.ofNat _ n, rest)
  read_write value rest := by
    have bound : value.toNat < 256 ^ width := two_pow_eight_mul width ▸ value.isLt
    simp [readLE_leBytes, Nat.mod_eq_of_lt bound]

/-- `bool` is one byte; any non-zero byte reads as `true`. -/
def boolean : Codec Bool where
  write flag := [if flag then 1 else 0]
  read
    | [] => none
    | byte :: rest => some (byte != 0, rest)
  read_write flag rest := by cases flag <;> rfl

/-! ## Raw byte strings -/

/-- Take `count` raw bytes off the stream (`Stream::read`). -/
def readBytes (count : Nat) (stream : Bytes) : Option (Bytes × Bytes) :=
  if count ≤ stream.length then some (stream.take count, stream.drop count) else none

@[simp] theorem readBytes_append (data rest : Bytes) :
    readBytes data.length (data ++ rest) = some (data, rest) := by
  simp [readBytes]

theorem readBytes_of_length {count : Nat} {data : Bytes} (rest : Bytes)
    (length : data.length = count) : readBytes count (data ++ rest) = some (data, rest) :=
  length ▸ readBytes_append data rest

theorem readBytes_length {count : Nat} {stream data rest : Bytes}
    (read : readBytes count stream = some (data, rest)) : data.length = count := by
  unfold readBytes at read
  split at read
  · cases read; simpa
  · cases read

/-- A `uint256`: a blob of exactly 32 bytes, serialized raw. -/
structure Uint256 where
  data : Bytes
  size_eq : data.length = 32
deriving DecidableEq

/-- `uint256::Serialize` writes the 32 bytes; `Unserialize` reads 32. -/
def uint256 : Codec Uint256 where
  write blob := blob.data
  read stream :=
    match h : readBytes 32 stream with
    | some (data, rest) => some (⟨data, readBytes_length h⟩, rest)
    | none => none
  read_write blob rest := by
    have read := readBytes_of_length rest blob.size_eq
    dsimp only
    split <;> simp_all

/-! ## CompactSize -/

/-- Stands for `WriteCompactSize` of `serialize.h`, a header outside the sources under
`src/`: one byte below 253, otherwise a marker byte and a 2, 4 or 8 byte integer. -/
def writeCompactSize (nSize : BitVec 64) : Bytes :=
  if nSize.toNat < 253 then [UInt8.ofNat nSize.toNat]
  else if nSize.toNat ≤ 0xFFFF then 253 :: leBytes 2 nSize.toNat
  else if nSize.toNat ≤ 0xFFFFFFFF then 254 :: leBytes 4 nSize.toNat
  else 255 :: leBytes 8 nSize.toNat

/-- One wide branch of `ReadCompactSize`: a `width`-byte size, rejected as non-canonical
when it is below `minimum`. -/
def readCanonical (width minimum : Nat) (stream : Bytes) : Option (BitVec 64 × Bytes) :=
  (readLE width stream).bind fun (nSize, rest) =>
    if nSize < minimum then none else some (BitVec.ofNat 64 nSize, rest)

/-- Stands for `ReadCompactSize` of `serialize.h`, outside the sources under `src/`, with
its checks that a size is written in its shortest form.  Its cap, which rejects a size
above `MAX_SIZE`, is left out: a reader that rejects a size `writeCompactSize` writes
breaks `Codec.read_write`, so no capped reader is a `Codec`. -/
def readCompactSize : Bytes → Option (BitVec 64 × Bytes)
  | [] => none
  | chSize :: stream =>
    if chSize.toNat < 253 then some (BitVec.ofNat 64 chSize.toNat, stream)
    else if chSize.toNat = 253 then readCanonical 2 253 stream
    else if chSize.toNat = 254 then readCanonical 4 0x10000 stream
    else readCanonical 8 0x100000000 stream

theorem readCanonical_leBytes {width minimum : Nat} {nSize : BitVec 64} (rest : Bytes)
    (fits : nSize.toNat < 256 ^ width) (canonical : minimum ≤ nSize.toNat) :
    readCanonical width minimum (leBytes width nSize.toNat ++ rest) = some (nSize, rest) := by
  simp [readCanonical, readLE_leBytes, Nat.mod_eq_of_lt fits, Nat.not_lt.mpr canonical]

theorem readCompactSize_writeCompactSize (nSize : BitVec 64) (rest : Bytes) :
    readCompactSize (writeCompactSize nSize ++ rest) = some (nSize, rest) := by
  have bound : nSize.toNat < 2 ^ 64 := nSize.isLt
  unfold writeCompactSize
  split
  · have oneByte : (UInt8.ofNat nSize.toNat).toNat = nSize.toNat := by
      simp [UInt8.toNat, UInt8.ofNat]; omega
    simp [readCompactSize, oneByte, *]
  · split
    · simp only [List.cons_append, readCompactSize]
      exact readCanonical_leBytes rest (by omega) (by omega)
    · split
      · simp only [List.cons_append, readCompactSize]
        exact readCanonical_leBytes rest (by omega) (by omega)
      · simp only [List.cons_append, readCompactSize]
        exact readCanonical_leBytes rest (by omega) (by omega)

/-! ## Byte vectors -/

/-- A `std::vector<unsigned char>` (or the chars of a `std::string`): its size is a
`size_t`. -/
structure ByteVector where
  data : Bytes
  size_lt : data.length < 2 ^ 64
deriving DecidableEq

/-- Stands for the byte-vector serializer of `serialize.h`, outside the sources under
`src/`: the CompactSize length, then the bytes. -/
def byteVector : Codec ByteVector where
  write vector := writeCompactSize (BitVec.ofNat 64 vector.data.length) ++ vector.data
  read stream :=
    match readCompactSize stream with
    | none => none
    | some (nSize, stream) =>
      match h : readBytes nSize.toNat stream with
      | some (data, rest) => some (⟨data, readBytes_length h ▸ nSize.isLt⟩, rest)
      | none => none
  read_write vector rest := by
    have size : (BitVec.ofNat 64 vector.data.length).toNat = vector.data.length := by
      rw [BitVec.toNat_ofNat, Nat.mod_eq_of_lt vector.size_lt]
    simp only [List.append_assoc, readCompactSize_writeCompactSize]
    split
    · rename_i data remaining read
      rw [size, readBytes_append, Option.some.injEq, Prod.mk.injEq] at read
      obtain ⟨rfl, rfl⟩ := read
      rfl
    · rename_i missing
      rw [size, readBytes_append] at missing
      cases missing

/-! ## Canonical encodings

A codec is canonical when its reader accepts nothing but its writer's output, so that every
value has exactly one encoding.  The integers, `uint256` and byte vectors are: the size
checks of `ReadCompactSize` are what rule out a second, longer encoding of a length.
`boolean` is not, since every non-zero byte reads as `true`. -/

/-- Whatever the reader takes off a stream, the stream began with the writer's encoding of
the value read. -/
def Codec.Canonical {α : Type} (codec : Codec α) : Prop :=
  ∀ stream value rest, codec.read stream = some (value, rest) → stream = codec.write value ++ rest

theorem byte_ofNat_toNat (byte : UInt8) : UInt8.ofNat byte.toNat = byte :=
  UInt8.toNat.inj (UInt8.toNat_ofNat_of_lt (UInt8.toNat_lt_size byte))

theorem leBytes_leValue (bytes : Bytes) : leBytes bytes.length (leValue bytes) = bytes := by
  induction bytes with
  | nil => rfl
  | cons byte bytes inductionHypothesis =>
    have bound : byte.toNat < 256 := UInt8.toNat_lt_size byte
    have low : (byte.toNat + 256 * leValue bytes) % 256 = byte.toNat := by omega
    have high : (byte.toNat + 256 * leValue bytes) / 256 = leValue bytes := by omega
    rw [List.length_cons, leBytes, leValue, low, high, byte_ofNat_toNat, inductionHypothesis]

theorem leValue_lt (bytes : Bytes) : leValue bytes < 256 ^ bytes.length := by
  induction bytes with
  | nil => exact Nat.one_pos
  | cons byte bytes inductionHypothesis =>
    have bound : byte.toNat < 256 := UInt8.toNat_lt_size byte
    rw [leValue, List.length_cons, Nat.pow_succ']
    omega

/-- What `readLE` accepts is a `width`-byte encoding of a number below `256 ^ width`. -/
theorem readLE_eq_some {width n : Nat} {stream rest : Bytes}
    (read : readLE width stream = some (n, rest)) :
    n < 256 ^ width ∧ stream = leBytes width n ++ rest := by
  unfold readLE at read
  split at read
  · rename_i long
    simp only [Option.some.injEq, Prod.mk.injEq] at read
    obtain ⟨rfl, rfl⟩ := read
    have length : (stream.take width).length = width := List.length_take_of_le long
    have bytes := leBytes_leValue (stream.take width)
    have bound := leValue_lt (stream.take width)
    rw [length] at bytes bound
    exact ⟨bound, by rw [bytes, List.take_append_drop]⟩
  · cases read

theorem littleEndian_canonical (width : Nat) : (littleEndian width).Canonical := by
  intro stream value rest read
  simp only [littleEndian, Option.map_eq_some', Prod.exists, Prod.mk.injEq] at read
  obtain ⟨n, _, readN, rfl, rfl⟩ := read
  obtain ⟨bound, rfl⟩ := readLE_eq_some readN
  simp only [littleEndian, BitVec.toNat_ofNat, two_pow_eight_mul, Nat.mod_eq_of_lt bound]

theorem readBytes_eq_some {count : Nat} {stream data rest : Bytes}
    (read : readBytes count stream = some (data, rest)) : stream = data ++ rest := by
  unfold readBytes at read
  split at read
  · cases read
    exact (List.take_append_drop count stream).symm
  · cases read

theorem uint256_canonical : uint256.Canonical := by
  intro stream blob rest read
  simp only [uint256] at read
  split at read
  · rename_i readData
    cases read
    exact readBytes_eq_some readData
  · cases read

/-- What a wide branch of `ReadCompactSize` accepts is the `width`-byte encoding of a size
that is at least `minimum`. -/
theorem readCanonical_eq_some {width minimum : Nat} {stream rest : Bytes} {nSize : BitVec 64}
    (fits : 256 ^ width ≤ 2 ^ 64) (read : readCanonical width minimum stream = some (nSize, rest)) :
    minimum ≤ nSize.toNat ∧ nSize.toNat < 256 ^ width ∧
      stream = leBytes width nSize.toNat ++ rest := by
  simp only [readCanonical, Option.bind_eq_some, Prod.exists] at read
  obtain ⟨n, _, readN, accepted⟩ := read
  obtain ⟨bound, rfl⟩ := readLE_eq_some readN
  split at accepted
  · cases accepted
  · cases accepted
    rw [BitVec.toNat_ofNat, Nat.mod_eq_of_lt (bound.trans_le fits)]
    exact ⟨by omega, bound, rfl⟩

/-- `ReadCompactSize` accepts only `WriteCompactSize`'s encoding: a size written in a wider
form than it needs is rejected. -/
theorem readCompactSize_canonical {stream rest : Bytes} {nSize : BitVec 64}
    (read : readCompactSize stream = some (nSize, rest)) :
    stream = writeCompactSize nSize ++ rest := by
  cases stream with
  | nil => cases read
  | cons chSize stream =>
    have bound : chSize.toNat < 256 := UInt8.toNat_lt_size chSize
    simp only [readCompactSize] at read
    split_ifs at read with oneByte twoBytes fourBytes
    · cases read
      have size : (BitVec.ofNat 64 chSize.toNat).toNat = chSize.toNat := by
        rw [BitVec.toNat_ofNat]; omega
      rw [writeCompactSize, size, if_pos oneByte, byte_ofNat_toNat]
      rfl
    · obtain ⟨least, fits, rfl⟩ := readCanonical_eq_some (by decide) read
      rw [writeCompactSize, if_neg (by omega), if_pos (by omega),
        show chSize = 253 from UInt8.toNat.inj twoBytes]
      rfl
    · obtain ⟨least, fits, rfl⟩ := readCanonical_eq_some (by decide) read
      rw [writeCompactSize, if_neg (by omega), if_neg (by omega), if_pos (by omega),
        show chSize = 254 from UInt8.toNat.inj fourBytes]
      rfl
    · obtain ⟨least, fits, rfl⟩ := readCanonical_eq_some (by decide) read
      rw [writeCompactSize, if_neg (by omega), if_neg (by omega), if_neg (by omega),
        show chSize = 255 from UInt8.toNat.inj (show chSize.toNat = 255 by omega)]
      rfl

theorem byteVector_canonical : byteVector.Canonical := by
  intro stream vector rest read
  simp only [byteVector] at read
  split at read
  · cases read
  · rename_i nSize remaining readSize
    split at read
    · rename_i data _ readData
      cases read
      have size : BitVec.ofNat 64 data.length = nSize := by
        rw [readBytes_length readData, BitVec.ofNat_toNat, BitVec.setWidth_eq]
      rw [readCompactSize_canonical readSize]
      show _ = writeCompactSize (BitVec.ofNat 64 data.length) ++ data ++ rest
      rw [size, readBytes_eq_some readData, List.append_assoc]
    · cases read

end Firo.Serialize
