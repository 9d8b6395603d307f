import Firo.Serialize.Stream

/-! # Spark mint metadata

The model of `spark/primitives.h`.  `CSparkMintMeta` is the wallet's record of one mint:
ten persisted fields and the `mutable` cache `nonceHash`.  Its `SerializationOp` is one
function for both directions, as in the source: each `READWRITE` line either appends the
field (`CSerActionSerialize`) or reads a new value for it (`CSerActionUnserialize`), so
`serializationOp` is written once, over a `SerAction` in any monad that threads the stream,
and `serialize`/`unserialize` are its two runs.

`GetNonceHash()` and `primitives::GetNonceHash` are declared in the header but defined
elsewhere; the first is modelled from the spec as a memoized accessor, the second is a
parameter `hashNonce`.
-/

namespace Firo.Spark

open Firo.Serialize

/-! ## Scalars -/

/-- The order of the secp256k1 group. -/
def groupOrder : Nat := 0xFFFFFFFFFFFFFFFFFFFFFFFFFFFFFFFEBAAEDCE6AF48A03BBFD25E8CD0364141

theorem groupOrder_lt : groupOrder < 256 ^ 32 := by decide

theorem groupOrder_pos : 0 < groupOrder := by decide

/-- A `secp_primitives::Scalar`: a residue below the group order. -/
def Scalar := Fin groupOrder

instance : DecidableEq Scalar := inferInstanceAs (DecidableEq (Fin groupOrder))

/-- Stands for `Scalar::serialize` and `Scalar::deserialize` of `secp_primitives`, which
are outside the sources under `src/`: 32 big-endian bytes, and a value read at or above the
group order reduced modulo it. -/
def scalar : Codec Scalar where
  write k := (leBytes 32 k.val).reverse
  read stream := (readBytes 32 stream).map fun (data, rest) =>
    (⟨leValue data.reverse % groupOrder, Nat.mod_lt _ groupOrder_pos⟩, rest)
  read_write k rest := by
    have length : (leBytes 32 k.val).reverse.length = 32 := by
      rw [List.length_reverse, leBytes_length]
    have value : leValue (leBytes 32 k.val) % groupOrder = k.val := by
      rw [leValue_leBytes, Nat.mod_eq_of_lt (k.isLt.trans groupOrder_lt),
        Nat.mod_eq_of_lt k.isLt]
    simp only [readBytes_of_length rest length, Option.map_some', List.reverse_reverse, value]
    rfl

/-! ## `CSparkMintMeta` -/

/-- `CSparkMintMeta`. A `std::string` is kept as its chars, a `ByteVector`. -/
structure CSparkMintMeta where
  nHeight : BitVec 32
  nId : BitVec 32
  isUsed : Bool
  txid : Uint256
  /-- diversifier -/
  i : BitVec 64
  /-- encrypted diversifier -/
  d : ByteVector
  /-- value -/
  v : BitVec 64
  /-- nonce -/
  k : Scalar
  /-- memo -/
  memo : ByteVector
  serialContext : ByteVector
  /-- The `mutable boost::optional<uint256>` behind `GetNonceHash()`. -/
  nonceHash : Option Uint256
deriving DecidableEq

/-- The `Serialize`/`Unserialize` overloads `READWRITE` selects for the field types of
`CSparkMintMeta`: `int`, `bool`, `uint256`, `uint64_t`, `std::vector<unsigned char>`,
`Scalar` and `std::string`. -/
structure Serializers where
  int : Codec (BitVec 32)
  bool : Codec Bool
  uint256 : Codec Uint256
  uint64 : Codec (BitVec 64)
  vector : Codec ByteVector
  scalar : Codec Scalar
  string : Codec ByteVector

/-- Serializers whose every reader accepts only its writer's output. -/
structure Serializers.Canonical (serializers : Serializers) : Prop where
  int : serializers.int.Canonical
  bool : serializers.bool.Canonical
  uint256 : serializers.uint256.Canonical
  uint64 : serializers.uint64.Canonical
  vector : serializers.vector.Canonical
  scalar : serializers.scalar.Canonical
  string : serializers.string.Canonical

/-- The serializers of `serialize.h` and `secp_primitives`, as `writeCompactSize` and
`scalar` stand for them: little-endian integers, CompactSize-prefixed byte strings and
32-byte scalars. -/
def Serializers.compact : Serializers where
  int := littleEndian 4
  bool := boolean
  uint256 := Firo.Serialize.uint256
  uint64 := littleEndian 8
  vector := byteVector
  scalar := Firo.Spark.scalar
  string := byteVector

/-- The `ser_action` argument of `SerializationOp`, over the monad `m` that threads the
stream: `READWRITE(field)` gives the field's value after the line, given its serializer
and current value. -/
structure SerAction (m : Type → Type) where
  readWrite : {α : Type} → Codec α → α → m α

/-- `CSerActionSerialize`: append the field's bytes; the field keeps its value. -/
def serActionSerialize : SerAction (StateM Bytes) where
  readWrite codec value := modifyGet fun stream => (value, stream ++ codec.write value)

/-- `CSerActionUnserialize`: read a new value for the field off the stream; a reader that
fails throws in the source, here `none`. -/
def serActionUnserialize : SerAction (StateT Bytes Option) where
  readWrite codec _ := fun stream => codec.read stream

theorem serActionSerialize_bind {α β : Type} (codec : Codec α) (value : α)
    (continuation : α → StateM Bytes β) (stream : Bytes) :
    (serActionSerialize.readWrite codec value >>= continuation).run stream =
      (continuation value).run (stream ++ codec.write value) := rfl

theorem serActionUnserialize_bind {α β : Type} (codec : Codec α) (value old : α) (rest : Bytes)
    (continuation : α → StateT Bytes Option β) :
    (serActionUnserialize.readWrite codec old >>= continuation).run (codec.write value ++ rest) =
      (continuation value).run rest := by
  show (codec.read (codec.write value ++ rest) >>= fun read => (continuation read.1).run read.2) = _
  rw [codec.read_write]
  rfl

/-- What holds of every result of the reads after one read holds of every result of the
whole. -/
theorem serActionUnserialize_bind_elim {α β : Type} {P : β × Bytes → Prop} (codec : Codec α)
    (old : α) (continuation : α → StateT Bytes Option β) (stream : Bytes)
    (continues : ∀ value rest result, (continuation value).run rest = some result → P result) :
    ∀ result, (serActionUnserialize.readWrite codec old >>= continuation).run stream = some result →
      P result := by
  intro result readAll
  change (codec.read stream >>= fun read => (continuation read.1).run read.2) = some result
    at readAll
  cases firstRead : codec.read stream with
  | none => rw [firstRead] at readAll; cases readAll
  | some read =>
    rw [firstRead] at readAll
    exact continues read.1 read.2 result readAll

/-- A read through a canonical codec, then the rest: the stream began with the encoding of
the value read. -/
theorem serActionUnserialize_bind_canonical {α β : Type} {codec : Codec α} {old : α}
    {continuation : α → StateT Bytes Option β} {stream : Bytes} {result : β × Bytes}
    (canonical : codec.Canonical)
    (readAll : (serActionUnserialize.readWrite codec old >>= continuation).run stream =
      some result) :
    ∃ value rest, stream = codec.write value ++ rest ∧ (continuation value).run rest = some result := by
  change (codec.read stream >>= fun read => (continuation read.1).run read.2) = some result
    at readAll
  obtain ⟨⟨value, rest⟩, read, readRest⟩ := Option.bind_eq_some.mp readAll
  exact ⟨value, rest, canonical stream value rest read, readRest⟩

variable {m : Type → Type} [Monad m]

/-- `CSparkMintMeta::SerializationOp`: the ten `READWRITE` lines in order. -/
@[nospecialize]
def CSparkMintMeta.serializationOp (serializers : Serializers) (action : SerAction m)
    (mint : CSparkMintMeta) : m CSparkMintMeta := do
  let nHeight ← action.readWrite serializers.int mint.nHeight
  let nId ← action.readWrite serializers.int mint.nId
  let isUsed ← action.readWrite serializers.bool mint.isUsed
  let txid ← action.readWrite serializers.uint256 mint.txid
  let i ← action.readWrite serializers.uint64 mint.i
  let d ← action.readWrite serializers.vector mint.d
  let v ← action.readWrite serializers.uint64 mint.v
  let k ← action.readWrite serializers.scalar mint.k
  let memo ← action.readWrite serializers.string mint.memo
  let serialContext ← action.readWrite serializers.vector mint.serialContext
  pure { mint with nHeight, nId, isUsed, txid, i, d, v, k, memo, serialContext }

/-- `Serialize` from `ADD_SERIALIZE_METHODS`: `SerializationOp` writing to an empty stream. -/
def CSparkMintMeta.serialize (serializers : Serializers) (mint : CSparkMintMeta) : Bytes :=
  ((mint.serializationOp serializers serActionSerialize).run []).2

/-- `Unserialize` from `ADD_SERIALIZE_METHODS`: `SerializationOp` reading into `mint`. -/
def CSparkMintMeta.unserialize (serializers : Serializers) (mint : CSparkMintMeta)
    (stream : Bytes) : Option (CSparkMintMeta × Bytes) :=
  (mint.serializationOp serializers serActionUnserialize).run stream

/-! ## The nonce hash -/

/-- Modelled from the spec: `CSparkMintMeta::GetNonceHash()`, declared but not defined in
the sources, is a memoized accessor.  It fills the empty cache with
`primitives::GetNonceHash(k)` (the parameter `hashNonce`) and otherwise returns the cached
value. -/
def CSparkMintMeta.getNonceHash (hashNonce : Scalar → Uint256) (mint : CSparkMintMeta) :
    Uint256 × CSparkMintMeta :=
  match mint.nonceHash with
  | some cached => (cached, mint)
  | none => (hashNonce mint.k, { mint with nonceHash := some (hashNonce mint.k) })

end Firo.Spark
