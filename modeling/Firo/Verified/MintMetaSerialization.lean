import Firo.Spark.Primitives

/-! # The persisted `CSparkMintMeta` reads back

`serializationOp` run writing emits the ten fields' encodings in `READWRITE` order and
nothing of `nonceHash`; run reading over those bytes followed by anything takes back each
field, because each serializer's reader consumes exactly what its writer produced
(`Codec.read_write`).  Both facts hold for every choice of serializers, so they say what
`SerializationOp` itself guarantees; `Serializers.compact` is one such choice.

Main results:

* `serialize_eq` — the written bytes are the ten encodings, concatenated.
* `unserialize_serialize` — reading them back into any record replaces its ten persisted
  fields by the written ones, keeps its cache, and leaves the suffix unread.
* `serializationOp_round_trip` — the two together, with the cache left out of the bytes.
* `serialize_eq_iff` — records have the same bytes exactly when they agree on every
  persisted field.
* `unserialize_eq_some_iff` — with canonical field serializers the reader accepts nothing
  but the writer's output: a stream reads as a record, leaving `rest`, exactly when it is
  that record's bytes followed by `rest`.
-/

namespace Firo.Verified.MintMetaSerialization

open Firo.Serialize Firo.Spark

variable (serializers : Serializers)

/-- The ten encodings, in `READWRITE` order. -/
def fieldBytes (mint : CSparkMintMeta) : Bytes :=
  serializers.int.write mint.nHeight ++ serializers.int.write mint.nId ++
    serializers.bool.write mint.isUsed ++ serializers.uint256.write mint.txid ++
    serializers.uint64.write mint.i ++ serializers.vector.write mint.d ++
    serializers.uint64.write mint.v ++ serializers.scalar.write mint.k ++
    serializers.string.write mint.memo ++ serializers.vector.write mint.serialContext

theorem serialize_eq (mint : CSparkMintMeta) :
    mint.serialize serializers = fieldBytes serializers mint := by
  simp only [CSparkMintMeta.serialize, CSparkMintMeta.serializationOp, serActionSerialize_bind]
  rfl

theorem unserialize_serialize (mint target : CSparkMintMeta) (rest : Bytes) :
    target.unserialize serializers (mint.serialize serializers ++ rest) =
      some ({ mint with nonceHash := target.nonceHash }, rest) := by
  simp only [serialize_eq, fieldBytes, CSparkMintMeta.unserialize,
    CSparkMintMeta.serializationOp, List.append_assoc, serActionUnserialize_bind]
  rfl

/-- Two records are written to the same bytes exactly when they agree on all ten persisted
fields. -/
theorem serialize_eq_iff (mint other : CSparkMintMeta) :
    mint.serialize serializers = other.serialize serializers ↔
      { mint with nonceHash := none } = { other with nonceHash := none } := by
  constructor
  · intro same
    have readBack := unserialize_serialize serializers other { mint with nonceHash := none } []
    rw [← same, unserialize_serialize] at readBack
    simpa using readBack
  · intro same
    rw [serialize_eq, serialize_eq]
    calc fieldBytes serializers mint
        = fieldBytes serializers { mint with nonceHash := none } := rfl
      _ = fieldBytes serializers { other with nonceHash := none } := by rw [same]
      _ = fieldBytes serializers other := rfl

/-! ## The reader accepts only the writer's output -/

/-- With canonical serializers, a stream reads as `mint` leaving `rest` exactly when it is
`mint`'s bytes followed by `rest` and `mint` carries the reading record's cache. -/
theorem unserialize_eq_some_iff (canonical : serializers.Canonical)
    (target mint : CSparkMintMeta) (stream rest : Bytes) :
    target.unserialize serializers stream = some (mint, rest) ↔
      stream = mint.serialize serializers ++ rest ∧ mint.nonceHash = target.nonceHash := by
  constructor
  · intro readAll
    simp only [CSparkMintMeta.unserialize, CSparkMintMeta.serializationOp] at readAll
    obtain ⟨nHeight, _, rfl, readNId⟩ := serActionUnserialize_bind_canonical canonical.int readAll
    obtain ⟨nId, _, rfl, readIsUsed⟩ := serActionUnserialize_bind_canonical canonical.int readNId
    obtain ⟨isUsed, _, rfl, readTxid⟩ :=
      serActionUnserialize_bind_canonical canonical.bool readIsUsed
    obtain ⟨txid, _, rfl, readI⟩ := serActionUnserialize_bind_canonical canonical.uint256 readTxid
    obtain ⟨i, _, rfl, readD⟩ := serActionUnserialize_bind_canonical canonical.uint64 readI
    obtain ⟨d, _, rfl, readV⟩ := serActionUnserialize_bind_canonical canonical.vector readD
    obtain ⟨v, _, rfl, readK⟩ := serActionUnserialize_bind_canonical canonical.uint64 readV
    obtain ⟨k, _, rfl, readMemo⟩ := serActionUnserialize_bind_canonical canonical.scalar readK
    obtain ⟨memo, _, rfl, readSerialContext⟩ :=
      serActionUnserialize_bind_canonical canonical.string readMemo
    obtain ⟨serialContext, _, rfl, readEnd⟩ :=
      serActionUnserialize_bind_canonical canonical.vector readSerialContext
    cases readEnd
    exact ⟨by simp only [serialize_eq, fieldBytes, List.append_assoc], rfl⟩
  · rintro ⟨rfl, sameCache⟩
    rw [unserialize_serialize, ← sameCache]

/-! ## Strict readers

`boolean` reads every non-zero byte as `true` and `scalar` reduces 32 bytes modulo the
group order, so `Serializers.compact` is not canonical.  Readers that reject what their
writers never produce make it so. -/

/-- `bool` read strictly: a byte other than `0` and `1` is rejected. -/
def strictBoolean : Codec Bool where
  write := boolean.write
  read
    | [] => none
    | byte :: rest =>
      if byte = 0 then some (false, rest) else if byte = 1 then some (true, rest) else none
  read_write flag rest := by cases flag <;> rfl

theorem strictBoolean_canonical : strictBoolean.Canonical := by
  intro stream flag rest read
  cases stream with
  | nil => cases read
  | cons byte stream =>
    simp only [strictBoolean] at read
    split_ifs at read with zero one <;> cases read
    · rw [zero]; rfl
    · rw [one]; rfl

/-- A scalar read strictly: 32 bytes denoting the group order or more are rejected. -/
def strictScalar : Codec Scalar where
  write := scalar.write
  read stream := (readBytes 32 stream).bind fun (data, rest) =>
    if valid : leValue data.reverse < groupOrder then some (⟨_, valid⟩, rest) else none
  read_write k rest := by
    have length : (leBytes 32 k.val).reverse.length = 32 := by
      rw [List.length_reverse, leBytes_length]
    have value : leValue (leBytes 32 k.val) = k.val := by
      rw [leValue_leBytes, Nat.mod_eq_of_lt (k.isLt.trans groupOrder_lt)]
    simp [scalar, readBytes_of_length rest length, value, k.isLt]

theorem strictScalar_canonical : strictScalar.Canonical := by
  intro stream k rest read
  simp only [strictScalar, Option.bind_eq_some, Prod.exists] at read
  obtain ⟨data, _, readData, accepted⟩ := read
  split at accepted
  · cases accepted
    have bytes := leBytes_leValue data.reverse
    rw [List.length_reverse, readBytes_length readData] at bytes
    show _ = (leBytes 32 (leValue data.reverse)).reverse ++ rest
    rw [bytes, List.reverse_reverse, readBytes_eq_some readData]
  · cases accepted

/-- `Serializers.compact` with the strict `bool` and scalar readers. -/
def strictSerializers : Serializers :=
  { Serializers.compact with bool := strictBoolean, scalar := strictScalar }

theorem strictSerializers_canonical : strictSerializers.Canonical :=
  ⟨littleEndian_canonical 4, strictBoolean_canonical, uint256_canonical, littleEndian_canonical 8,
    byteVector_canonical, strictScalar_canonical, byteVector_canonical⟩

/-- A record with every field zero or empty. -/
def sampleMint : CSparkMintMeta where
  nHeight := 0
  nId := 0
  isUsed := false
  txid := ⟨List.replicate 32 0, rfl⟩
  i := 0
  d := ⟨[], by decide⟩
  v := 0
  k := ⟨0, groupOrder_pos⟩
  memo := ⟨[], by decide⟩
  serialContext := ⟨[], by decide⟩
  nonceHash := none

theorem unserialize_strict_eq_some_iff :
    strictSerializers.Canonical ∧
      (sampleMint.unserialize strictSerializers (sampleMint.serialize strictSerializers ++ [7]) =
          some (sampleMint, [7]) ↔
        sampleMint.serialize strictSerializers ++ [7] =
            sampleMint.serialize strictSerializers ++ [7] ∧
          sampleMint.nonceHash = sampleMint.nonceHash) :=
  ⟨strictSerializers_canonical,
    unserialize_eq_some_iff strictSerializers strictSerializers_canonical sampleMint sampleMint
      (sampleMint.serialize strictSerializers ++ [7]) [7]⟩

end Firo.Verified.MintMetaSerialization
