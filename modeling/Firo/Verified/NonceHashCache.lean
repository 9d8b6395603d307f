import Firo.Verified.MintMetaSerialization

/-! # The nonce-hash cache over whole programs

`CSparkMintMeta::nonceHash` memoizes `primitives::GetNonceHash(k)`.  A program holds
records in variables and constructs, copies, deserializes into and queries them; `execute`
is one such operation, and `Reachable` the variables a program can reach from freshly
constructed ones, restricted to the operations a predicate `allowed` admits.

`SerializationOp` rewrites `k` and never touches `nonceHash` (`unserialize_nonceHash`), and
nothing else clears the cache.  So the cache stays the hash of the current nonce exactly as
long as no record is deserialized into while its cache is filled:

* `execute_coherent` — one operation keeps every cache coherent, given that guard;
* `reachable_coherent` — hence so does every run, and every `GetNonceHash()` call of it
  returns the hash of the nonce the record holds (`nonceHash_coherent_into_empty_cache`);
* `stale_after_unserialize` — without the guard, filling the cache and then deserializing
  another nonce into the record makes `GetNonceHash()` return the old nonce's hash.
-/

namespace Firo.Verified.NonceHashCache

open Firo.Serialize Firo.Spark Firo.Verified.MintMetaSerialization

variable (hashNonce : Scalar → Uint256) (serializers : Serializers)

/-- What a program does with its `CSparkMintMeta` variables, each named by a number. -/
inductive Operation where
  /-- `CSparkMintMeta x;`: the cache starts empty; the other fields are left
  uninitialised, so they are whatever `fields` holds. -/
  | construct (x : Nat) (fields : CSparkMintMeta)
  /-- `x = y;`: the implicit copy, cache included. -/
  | copy (x y : Nat)
  /-- `stream >> x;`: `Unserialize` into the existing `x`. -/
  | deserialize (x : Nat) (stream : Bytes)
  /-- `x.GetNonceHash()`. -/
  | getNonceHash (x : Nat)

/-- The program's variables. -/
abbrev Store := Nat → CSparkMintMeta

/-- One operation: the variables after it, and the hash it returned when it is a
`GetNonceHash()` call.  A deserialization that throws is `none`. -/
def execute (store : Store) : Operation → Option (Store × Option Uint256)
  | .construct x fields => some (Function.update store x { fields with nonceHash := none }, none)
  | .copy x y => some (Function.update store x (store y), none)
  | .deserialize x stream =>
    ((store x).unserialize serializers stream).map fun (mint, _) =>
      (Function.update store x mint, none)
  | .getNonceHash x =>
    some (Function.update store x ((store x).getNonceHash hashNonce).2,
      some ((store x).getNonceHash hashNonce).1)

/-- The variables a program reaches from freshly constructed ones, by operations `allowed`
admits. -/
inductive Reachable (allowed : Store → Operation → Prop) : Store → Prop
  | fresh {store : Store} : (∀ x, (store x).nonceHash = none) → Reachable allowed store
  | step {store store' : Store} {answer : Option Uint256} (operation : Operation) :
      Reachable allowed store → allowed store operation →
      execute hashNonce serializers store operation = some (store', answer) →
      Reachable allowed store'

/-- The cache is empty or holds the hash of the record's current nonce. -/
def CacheCoherent (mint : CSparkMintMeta) : Prop :=
  mint.nonceHash = none ∨ mint.nonceHash = some (hashNonce mint.k)

/-- The guard under which the cache stays coherent: deserialize only into a record whose
cache is empty. -/
def IntoEmptyCache (store : Store) : Operation → Prop
  | .deserialize x _ => (store x).nonceHash = none
  | _ => True

/-! ## The accessor and the reader -/

theorem getNonceHash_of_coherent {mint : CSparkMintMeta}
    (coherent : CacheCoherent hashNonce mint) : (mint.getNonceHash hashNonce).1 = hashNonce mint.k := by
  rcases coherent with empty | cached <;> simp [CSparkMintMeta.getNonceHash, *]

theorem getNonceHash_coherent {mint : CSparkMintMeta}
    (coherent : CacheCoherent hashNonce mint) :
    CacheCoherent hashNonce (mint.getNonceHash hashNonce).2 := by
  rcases coherent with empty | cached <;> simp [CSparkMintMeta.getNonceHash, CacheCoherent, *]

/-- Deserializing never touches the cache, whatever the stream holds. -/
theorem unserialize_nonceHash {target mint : CSparkMintMeta} {stream rest : Bytes}
    (readBack : target.unserialize serializers stream = some (mint, rest)) :
    mint.nonceHash = target.nonceHash := by
  suffices keeps : ∀ result, target.unserialize serializers stream = some result →
      result.1.nonceHash = target.nonceHash from keeps (mint, rest) readBack
  unfold CSparkMintMeta.unserialize CSparkMintMeta.serializationOp
  iterate 10 (apply serActionUnserialize_bind_elim; intro _ _)
  rintro _ ⟨⟩
  rfl

/-! ## Runs -/

theorem update_coherent {store : Store} {x : Nat} {mint : CSparkMintMeta}
    (coherent : ∀ y, CacheCoherent hashNonce (store y))
    (updated : CacheCoherent hashNonce mint) :
    ∀ y, CacheCoherent hashNonce (Function.update store x mint y) := by
  intro y
  by_cases same : y = x
  · subst same; rwa [Function.update_same]
  · rw [Function.update_noteq same]; exact coherent y

theorem execute_coherent {store store' : Store} {operation : Operation}
    {answer : Option Uint256} (coherent : ∀ x, CacheCoherent hashNonce (store x))
    (guard : IntoEmptyCache store operation)
    (executed : execute hashNonce serializers store operation = some (store', answer)) :
    ∀ x, CacheCoherent hashNonce (store' x) := by
  cases operation with
  | construct x fields =>
    cases executed; exact update_coherent hashNonce coherent (.inl rfl)
  | copy x source =>
    cases executed; exact update_coherent hashNonce coherent (coherent source)
  | deserialize x stream =>
    simp only [execute, Option.map_eq_some'] at executed
    obtain ⟨⟨mint, rest⟩, readBack, ⟨⟩⟩ := executed
    exact update_coherent hashNonce coherent
      (.inl ((unserialize_nonceHash serializers readBack).trans guard))
  | getNonceHash x =>
    cases executed
    exact update_coherent hashNonce coherent (getNonceHash_coherent hashNonce (coherent x))

theorem reachable_coherent {store : Store}
    (reachable : Reachable hashNonce serializers IntoEmptyCache store) :
    ∀ x, CacheCoherent hashNonce (store x) := by
  induction reachable with
  | fresh empty => exact fun x => .inl (empty x)
  | step operation _ guard executed coherent =>
    exact execute_coherent hashNonce serializers coherent guard executed

theorem nonceHash_coherent_into_empty_cache :
    (∀ store, Reachable hashNonce serializers IntoEmptyCache store →
      ∀ x, ((store x).getNonceHash hashNonce).1 = hashNonce (store x).k) ∧
    (∀ (target mint : CSparkMintMeta) (stream rest : Bytes),
      target.unserialize serializers stream = some (mint, rest) →
        mint.nonceHash = target.nonceHash) :=
  ⟨fun _ reachable x => getNonceHash_of_coherent hashNonce
      (reachable_coherent hashNonce serializers reachable x),
    fun _ _ _ _ read => unserialize_nonceHash serializers read⟩

/-- Fill the cache of a fresh record, deserialize a record with another nonce into it, and
`GetNonceHash()` returns the hash of the nonce it no longer holds. -/
theorem stale_after_unserialize (fields mint : CSparkMintMeta)
    (differ : hashNonce fields.k ≠ hashNonce mint.k) :
    ∃ store, Reachable hashNonce serializers (fun _ _ => True) store ∧
      ((store 0).getNonceHash hashNonce).1 ≠ hashNonce (store 0).k := by
  let initial : Store := fun _ => { fields with nonceHash := none }
  let filled : Store := Function.update initial 0 { fields with nonceHash := some (hashNonce fields.k) }
  let stale : Store := Function.update filled 0 { mint with nonceHash := some (hashNonce fields.k) }
  have fresh : Reachable hashNonce serializers (fun _ _ => True) initial := .fresh fun _ => rfl
  have afterQuery : Reachable hashNonce serializers (fun _ _ => True) filled :=
    .step (.getNonceHash 0) fresh trivial rfl
  have afterRead : Reachable hashNonce serializers (fun _ _ => True) stale :=
    .step (.deserialize 0 (mint.serialize serializers)) afterQuery trivial (by
      have readBack := unserialize_serialize serializers mint (filled 0) []
      rw [List.append_nil] at readBack
      simp only [execute, readBack, Option.map_some']
      rfl)
  exact ⟨stale, afterRead, by simpa [stale, CSparkMintMeta.getNonceHash] using differ⟩

/-- A nonce hash that tells nonces apart, the nonce's own 32 bytes; it stands in for
`primitives::GetNonceHash` below. -/
def nonceBytes (k : Scalar) : Uint256 := ⟨leBytes 32 k.val, leBytes_length 32 k.val⟩

/-- A record holding the nonce `k`, every other field zero and the cache empty. -/
def mintWithNonce (k : Scalar) : CSparkMintMeta where
  nHeight := 0
  nId := 0
  isUsed := false
  txid := nonceBytes (⟨0, groupOrder_pos⟩ : Fin groupOrder)
  i := 0
  d := ⟨[], by decide⟩
  v := 0
  k := k
  memo := ⟨[], by decide⟩
  serialContext := ⟨[], by decide⟩
  nonceHash := none

theorem nonceHash_stale_after_unserialize :
    ¬ ∀ store, Reachable nonceBytes Serializers.compact (fun _ _ => True) store →
      ∀ x, ((store x).getNonceHash nonceBytes).1 = nonceBytes (store x).k := by
  intro coherent
  obtain ⟨store, reachable, stale⟩ := stale_after_unserialize nonceBytes Serializers.compact
    (mintWithNonce (⟨0, groupOrder_pos⟩ : Fin groupOrder))
    (mintWithNonce (⟨1, by decide⟩ : Fin groupOrder)) (by decide)
  exact stale (coherent store reachable 0)

end Firo.Verified.NonceHashCache
