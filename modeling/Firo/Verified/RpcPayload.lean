import Firo.Exodus.RpcPayload
import Mathlib.Logic.Unique

/-! # What the payload-creation calls accept

Each `exodus_createpayload_*` call is a chain of checks in `Except`; a call returns a
payload exactly when every check in the chain passes.  One bind lemma (`bind_eq_ok`)
peels such a chain into the checks that passed, which is how a call's spec lemma
(`exodusCreatepayloadMintbypublickeys_eq_ok`) says when it accepts.

Main results:

* `exodusCreatepayloadTrade_eq_metaDExByPrice` — `trade` checks `RequireDifferentIds`
  twice, which changes nothing: it is the by-price call built with `MetaDExTrade`.
* `mintbypublickeys_mints_valid` — every mint of an accepted `SimpleMint` payload was read
  from the mint objects in order, has a valid key, and names a denomination the property
  has.
-/

namespace Firo.Exodus

/-! ## `Except` chains -/

section Except

variable {ε α β : Type}

@[simp] theorem error_bind (error : ε) (f : α → Except ε β) :
    (Except.error error >>= f) = .error error := rfl

@[simp] theorem ok_bind (value : α) (f : α → Except ε β) :
    (Except.ok value >>= f) = f value := rfl

@[simp] theorem throw_eq (error : ε) : (throw error : Except ε α) = .error error := rfl

@[simp] theorem pure_eq (value : α) : (pure value : Except ε α) = .ok value := rfl

/-- A chain returns a value exactly when its first step does and the rest returns it. -/
theorem bind_eq_ok {x : Except ε α} {f : α → Except ε β} {result : β} :
    x >>= f = .ok result ↔ ∃ value, x = .ok value ∧ f value = .ok result := by
  cases x <;> simp

/-- A check made twice in a row is made once. -/
theorem check_bind_check (check : Except ε Unit) (f : Unit → Except ε β) :
    (check >>= fun _ => check >>= f) = (check >>= f) := by
  cases check <;> rfl

end Except

variable {Value Key : Type} (helpers : Helpers Value Key)

theorem checkParams_eq_ok {synopsis : String} {minimum maximum : Nat}
    {params : List Value} {fHelp : Bool} :
    checkParams synopsis minimum maximum params fHelp = .ok () ↔
      fHelp = false ∧ minimum ≤ params.length ∧ params.length ≤ maximum := by
  cases fHelp <;> simp [checkParams]

/-! ## Helpers over numbers

Sample runs of the calls use `sampleHelpers`: every parser returns its argument, every
requirement passes, `UPDATE` is 2, every property has the denominations 100 and 200 out of
at most 4, the mint objects of an array `n` are `0, …, n - 1`, and the object `k` is the
valid key `k` with denomination id `k`. -/

def sampleHelpers : Helpers Nat Nat where
  null := 0
  parsePropertyId value := pure value.toUInt32
  parseAmount value _ := pure value
  parseAmountOfType value _ := pure value
  parseEcosystem value := pure value.toUInt8
  parseDExAction value := pure value.toUInt8
  parseDExPaymentWindow value := pure value.toUInt8
  parseDExFee value := pure value
  parsePropertyType value := pure value.toUInt16
  parsePreviousPropertyId value := pure value.toUInt32
  parseText value := pure (toString value)
  parseDeadline value := pure value
  parseEarlyBirdBonus value := pure value.toUInt8
  parseIssuerBonus value := pure value.toUInt8
  parseAddress value := pure (toString value)
  requireExistingProperty _ := pure ()
  requirePrimaryToken _ := pure ()
  requirePropertyName _ := pure ()
  requireSameEcosystem _ _ := pure ()
  requireManagedProperty _ := pure ()
  requireDifferentIds _ _ := pure ()
  requireSigma _ := pure ()
  isPropertyDivisible _ := true
  update := 2
  getArray value := pure (List.range value)
  readMintObject value := pure ([value.toUInt8], value)
  deserializeKey id := id.head?.map UInt8.toNat
  isValid _ := true
  getSP _ := some [100, 200]
  maxDenominations := 4
  formatMP _ value := toString value

/-! ## Trades -/

theorem exodusCreatepayloadTrade_eq_metaDExByPrice :
    exodusCreatepayloadTrade helpers =
      metaDExByPrice helpers ("exodus_createpayload_trade propertyidforsale \"amountforsale\" " ++
        "propertiddesired \"amountdesired\"") .metaDExTrade := by
  funext params fHelp
  simp only [exodusCreatepayloadTrade, metaDExByPrice, check_bind_check]

/-! ## Sigma mints -/

/-- Every value a `mapM` returns comes from one of the inputs. -/
theorem mapM_eq_ok_mem {ε α β : Type} {f : α → Except ε β} :
    ∀ {inputs : List α} {outputs : List β}, inputs.mapM f = .ok outputs →
      ∀ output ∈ outputs, ∃ input ∈ inputs, f input = .ok output
  | [], _, mapped => by
    cases mapped
    simp
  | input :: inputs, outputs, mapped => by
    obtain ⟨first, readFirst, rest, readRest, rfl⟩ : ∃ first, f input = .ok first ∧
        ∃ rest, inputs.mapM f = .ok rest ∧ first :: rest = outputs := by
      simpa only [List.mapM_cons, bind_eq_ok, pure_eq, Except.ok.injEq] using mapped
    rintro output (_ | ⟨_, later⟩)
    · exact ⟨input, List.mem_cons_self _ _, readFirst⟩
    · obtain ⟨earlier, member, read⟩ := mapM_eq_ok_mem readRest output later
      exact ⟨earlier, List.mem_cons_of_mem _ member, read⟩

theorem readMint_eq_ok {mintObj : Value} {mint : UInt8 × Key} :
    readMint helpers mintObj = .ok mint ↔
      ∃ id denomId key, helpers.readMintObject mintObj = .ok (id, denomId) ∧
        helpers.deserializeKey id = some key ∧ helpers.isValid key = true ∧
        0 ≤ denomId ∧ denomId ≤ 255 ∧ mint = (UInt8.ofNat denomId.toNat, key) := by
  unfold readMint
  rcases helpers.readMintObject mintObj with _ | ⟨id, denomId⟩
  · simp only [error_bind, reduceCtorEq, false_and, exists_false]
  simp only [ok_bind, Except.ok.injEq, Prod.mk.injEq, and_assoc, exists_and_left,
    exists_eq_left', Bool.not_eq_eq_eq_not, Bool.not_true, Bool.or_eq_true, decide_eq_true_eq,
    gt_iff_lt, throw_eq, pure_eq]
  cases decoded : helpers.deserializeKey id with
  | none => simp only [reduceCtorEq, false_and, exists_false]
  | some key =>
    simp only [Option.some.injEq, exists_eq_left']
    cases valid : helpers.isValid key
    · simp only [↓reduceIte, error_bind, reduceCtorEq, Bool.false_eq_true, false_and]
    by_cases inRange : 0 ≤ denomId ∧ denomId ≤ 255
    · have accepted : ¬(denomId < 0 ∨ 255 < denomId) := by omega
      simp only [Bool.true_eq_false, accepted, ↓reduceIte, ok_bind, inRange.1, inRange.2,
        true_and, Except.ok.injEq, eq_comm (a := mint)]
    · have rejected : denomId < 0 ∨ 255 < denomId := by omega
      simp only [Bool.true_eq_false, rejected, ↓reduceIte, ok_bind, error_bind, reduceCtorEq,
        false_iff, not_and, true_and]
      exact fun nonneg atMost => absurd ⟨nonneg, atMost⟩ inRange

/-- The loop pushes the mints read, in order, after those already pushed. -/
theorem readMints_eq_ok (mints : List (UInt8 × Key)) (mintObjs : List Value)
    (result : List (UInt8 × Key)) :
    readMints helpers mints mintObjs = .ok result ↔
      ∃ read, mintObjs.mapM (readMint helpers) = .ok read ∧ result = mints ++ read := by
  induction mintObjs generalizing mints with
  | nil =>
    simp only [readMints, List.mapM_nil, pure_eq, Except.ok.injEq, exists_eq_left',
      List.append_nil]
    exact eq_comm
  | cons mintObj mintObjs ih =>
    simp only [readMints, List.mapM_cons, bind_eq_ok, ih, pure_eq, Except.ok.injEq]
    constructor
    · rintro ⟨mint, first, read, rest, rfl⟩
      exact ⟨mint :: read, ⟨mint, first, read, rest, rfl⟩, by simp⟩
    · rintro ⟨_, ⟨mint, first, read, rest, rfl⟩, rfl⟩
      exact ⟨mint, first, read, rest, by simp⟩

theorem checkDenominations_eq_ok {denominations : List Int} {mints : List (UInt8 × Key)} :
    checkDenominations denominations mints = .ok () ↔
      ∀ mint ∈ mints, mint.1.toNat < denominations.length := by
  induction mints with
  | nil => simp [checkDenominations]
  | cons mint mints ih =>
    rw [List.forall_mem_cons, ← ih]
    by_cases beyond : denominations.length ≤ mint.1.toNat
    · simp [checkDenominations, beyond, Nat.not_lt.mpr beyond]
    · simp [checkDenominations, beyond, Nat.lt_of_not_le beyond]

theorem validateMintDenominations_eq_ok {propertyId : UInt32} {mints : List (UInt8 × Key)} :
    validateMintDenominations helpers propertyId mints = .ok () ↔
      ∃ denominations, helpers.getSP propertyId = some denominations ∧
        ∀ mint ∈ mints, mint.1.toNat < denominations.length := by
  unfold validateMintDenominations
  cases helpers.getSP propertyId <;> simp [checkDenominations_eq_ok]

theorem exodusCreatepayloadMintbypublickeys_eq_ok {params : List Value} {fHelp : Bool}
    {payload : Payload Key} :
    exodusCreatepayloadMintbypublickeys helpers params fHelp = .ok payload ↔
      fHelp = false ∧ 2 ≤ params.length ∧ params.length ≤ 3 ∧ ∃ propertyId mintObjs mints,
        helpers.parsePropertyId (helpers.param params 0) = .ok propertyId ∧
        helpers.getArray (helpers.param params 1) = .ok mintObjs ∧
        helpers.requireExistingProperty propertyId = .ok () ∧
        helpers.requireSigma propertyId = .ok () ∧
        mintObjs.mapM (readMint helpers) = .ok mints ∧
        validateMintDenominations helpers propertyId mints = .ok () ∧
        payload = .simpleMint propertyId mints := by
  simp only [exodusCreatepayloadMintbypublickeys, pure_eq, bind_eq_ok, readMints_eq_ok,
    List.nil_append, exists_eq_right', Except.ok.injEq, Unique.exists_iff, PUnit.default_eq_unit,
    checkParams_eq_ok, and_assoc, eq_comm (a := payload), exists_and_left]

/-- Every mint of an accepted `SimpleMint` payload was read, in order, from the mint
objects, carries a key `IsValid()` accepts, and names a denomination the property has. -/
theorem mintbypublickeys_mints_valid {params : List Value} {fHelp : Bool}
    {propertyId : UInt32} {mints : List (UInt8 × Key)} {denominations : List Int}
    (accepted : exodusCreatepayloadMintbypublickeys helpers params fHelp =
      .ok (.simpleMint propertyId mints))
    (registered : helpers.getSP propertyId = some denominations) :
    (∃ mintObjs, helpers.getArray (helpers.param params 1) = .ok mintObjs ∧
        mintObjs.mapM (readMint helpers) = .ok mints) ∧
      ∀ mint ∈ mints, helpers.isValid mint.2 = true ∧ mint.1.toNat < denominations.length := by
  obtain ⟨-, -, -, _, mintObjs, _, -, objects, -, -, read, valid, same⟩ :=
    (exodusCreatepayloadMintbypublickeys_eq_ok helpers).mp accepted
  cases same
  obtain ⟨_, found, known⟩ := (validateMintDenominations_eq_ok helpers).mp valid
  cases registered.symm.trans found
  refine ⟨⟨mintObjs, objects, read⟩, fun mint member => ⟨?_, known mint member⟩⟩
  obtain ⟨mintObj, -, readOne⟩ := mapM_eq_ok_mem read mint member
  obtain ⟨_, _, key, -, -, validKey, -, -, rfl⟩ := (readMint_eq_ok helpers).mp readOne
  exact validKey

theorem mintbypublickeys_mints_valid_sample :
    exodusCreatepayloadMintbypublickeys sampleHelpers [3, 2] false =
        .ok (.simpleMint 3 [(0, 0), (1, 1)]) ∧
      ((∃ mintObjs, sampleHelpers.getArray (sampleHelpers.param [3, 2] 1) = .ok mintObjs ∧
          mintObjs.mapM (readMint sampleHelpers) = .ok [(0, 0), (1, 1)]) ∧
        ∀ mint ∈ [((0 : UInt8), 0), (1, 1)], sampleHelpers.isValid mint.2 = true ∧
          mint.1.toNat < [(100 : Int), 200].length) :=
  ⟨rfl, @mintbypublickeys_mints_valid _ _ sampleHelpers [3, 2] false 3 [(0, 0), (1, 1)]
    [100, 200] rfl rfl⟩

end Firo.Exodus
