import Firo.Verified.RpcPayload
import Mathlib.Data.List.GetD

/-! # What every registered payload-creation call guarantees

The results here range over the whole `commands[]` table: for every registered call, every
parameter list and every behaviour of the parsers and checks outside the file.  Each is
proved the same way.  The table is split into its 22 calls, and each call's chain of
steps in `Except` is peeled one bind at a time (`bind_eq_ok_elim`) or compared step by step
behind the count check (`checkParams_bind_congr`); matching the bind unfolds the call, and
the family it is built from, where it is needed.  What is left is the payload, with every
check that passed on the way in context.  One peel, `commands_payload_checked`, gives the
first two results.

Main results:

* `commands_payload_properties_exist` — every property id in a payload a call returns
  passed `RequireExistingProperty`, except the four the calls leave unchecked: the
  property of a DEx offer, of a DEx acceptance, of a crowdsale closed, and the
  distribution property of a send-to-owners.
* `commands_amounts_in_own_divisibility` — every amount a payload carries in one of its
  properties was parsed with that property's divisibility.
* `commands_read_supplied_params` — no call reads a parameter that was not supplied: what
  `params[i]` gives past the end never changes a result.
-/

namespace Firo.Exodus

variable {Value Key : Type} (helpers : Helpers Value Key)

/-! ## Helpers -/

/-- The eliminator form of `bind_eq_ok`, for peeling a chain one step at a time. -/
theorem bind_eq_ok_elim {ε α β : Type} {x : Except ε α} {f : α → Except ε β} {result : β}
    {goal : Prop} (ran : x >>= f = .ok result)
    (step : ∀ value, x = .ok value → f value = .ok result → goal) : goal := by
  obtain ⟨value, first, rest⟩ := bind_eq_ok.mp ran
  exact step value first rest

/-- A chain behind a parameter-count check depends on its continuation only where the count
is in range. -/
theorem checkParams_bind_congr {β : Type} {synopsis : String} {minimum maximum : Nat}
    {params : List Value} {fHelp : Bool} {f g : Unit → Except RpcError β}
    (same : minimum ≤ params.length → params.length ≤ maximum → f () = g ()) :
    (checkParams synopsis minimum maximum params fHelp >>= f) =
      (checkParams synopsis minimum maximum params fHelp >>= g) := by
  cases checked : checkParams synopsis minimum maximum params fHelp with
  | error => rfl
  | ok =>
    obtain ⟨-, atLeast, atMost⟩ := checkParams_eq_ok.mp checked
    exact same atLeast atMost

/-- A parameter that was supplied does not depend on `NullUniValue`. -/
theorem param_of_lt (null : Value) {params : List Value} {index : Nat}
    (inRange : index < params.length) :
    { helpers with null }.param params index = helpers.param params index := by
  simp only [Helpers.param, List.getD_eq_getElem _ _ inRange]

/-- The mint loop reads no parameter. -/
theorem readMints_with_null (null : Value) (mints : List (UInt8 × Key)) (mintObjs : List Value) :
    readMints { helpers with null } mints mintObjs = readMints helpers mints mintObjs := by
  induction mintObjs generalizing mints with
  | nil => rfl
  | cons mintObj mintObjs inductionHypothesis =>
    simp only [readMints, inductionHypothesis]
    rfl

/-! ## What a payload names -/

/-- The property ids a payload names as live properties: every property id but
`previousId`. -/
def Payload.propertyIds : Payload Key → List UInt32
  | .simpleSend propertyId _ | .dExSell propertyId .. | .dExAccept propertyId _
  | .closeCrowdsale propertyId | .grant propertyId .. | .revoke propertyId ..
  | .changeIssuer propertyId | .enableFreezing propertyId | .disableFreezing propertyId
  | .freezeTokens propertyId .. | .unfreezeTokens propertyId ..
  | .createDenomination propertyId _ | .simpleMint propertyId _ => [propertyId]
  | .sendToOwners propertyId _ distributionPropertyId => [propertyId, distributionPropertyId]
  | .issuanceVariable _ _ _ _ _ _ _ _ propertyIdDesired .. => [propertyIdDesired]
  | .metaDExTrade propertyIdForSale _ propertyIdDesired _
  | .metaDExCancelPrice propertyIdForSale _ propertyIdDesired _
  | .metaDExCancelPair propertyIdForSale propertyIdDesired =>
    [propertyIdForSale, propertyIdDesired]
  | .sendAll _ | .issuanceFixed .. | .issuanceManaged .. | .metaDExCancelEcosystem _ => []

/-- The property ids no call requires to exist: the property of a DEx offer, of a DEx
acceptance (required only to be a primary token), of a crowdsale closed ("checks bypassed"
in the source), and the distribution property of a send-to-owners. -/
def Payload.uncheckedIds : Payload Key → List UInt32
  | .dExSell propertyId .. | .dExAccept propertyId _ | .closeCrowdsale propertyId =>
    [propertyId]
  | .sendToOwners _ _ distributionPropertyId => [distributionPropertyId]
  | _ => []

/-- The amounts a payload carries in units of one of its properties, each with that
property.  The amounts of a DEx offer or acceptance are in the primary token, which the
calls parse as divisible, and those of an issuance are in the new property, parsed by its
type: neither is listed. -/
def Payload.amounts : Payload Key → List (UInt32 × Int)
  | .simpleSend propertyId amount | .sendToOwners propertyId amount _
  | .grant propertyId amount _ | .revoke propertyId amount _
  | .freezeTokens propertyId amount _ | .unfreezeTokens propertyId amount _
  | .createDenomination propertyId amount => [(propertyId, amount)]
  | .metaDExTrade propertyIdForSale amountForSale propertyIdDesired amountDesired
  | .metaDExCancelPrice propertyIdForSale amountForSale propertyIdDesired amountDesired =>
    [(propertyIdForSale, amountForSale), (propertyIdDesired, amountDesired)]
  | _ => []

/-! ## What a returned payload carries -/

/-- What every payload a registered call returns carries: its property ids passed
`RequireExistingProperty` unless no call checks them, and its amounts were parsed with
their own property's divisibility. -/
theorem commands_payload_checked (params : List Value) (fHelp : Bool) (payload : Payload Key) :
    ∀ command ∈ commands helpers, command.actor params fHelp = .ok payload →
      (∀ propertyId ∈ payload.propertyIds,
        helpers.requireExistingProperty propertyId = .ok () ∨
          propertyId ∈ payload.uncheckedIds) ∧
      ∀ propertyId amount, (propertyId, amount) ∈ payload.amounts →
        ∃ value, helpers.parseAmount value (helpers.isPropertyDivisible propertyId) =
          .ok amount := by
  simp only [commands, List.mem_cons, List.mem_singleton, List.not_mem_nil, or_false]
  rintro command (rfl | rfl | rfl | rfl | rfl | rfl | rfl | rfl | rfl | rfl | rfl | rfl | rfl |
    rfl | rfl | rfl | rfl | rfl | rfl | rfl | rfl | rfl) accepted
  all_goals
    repeat' (first | refine bind_eq_ok_elim accepted fun _ _ accepted => ?_ | split at accepted)
  all_goals
    cases accepted
    refine ⟨?_, ?_⟩
    · rintro propertyId (_ | ⟨_, _ | ⟨_, ⟨⟩⟩⟩) <;>
      first | exact .inl ‹_› | exact .inr (List.mem_singleton_self _)
    · rintro propertyId amount (_ | ⟨_, _ | ⟨_, ⟨⟩⟩⟩) <;> exact ⟨_, ‹_›⟩

/-- Every property id in a payload a registered call returns passed
`RequireExistingProperty`, or is one of those no call checks: a property id reaches the
payload only through a step after its check. -/
theorem commands_payload_properties_exist (params : List Value) (fHelp : Bool)
    (payload : Payload Key) :
    ∀ command ∈ commands helpers, command.actor params fHelp = .ok payload →
      ∀ propertyId ∈ payload.propertyIds,
        helpers.requireExistingProperty propertyId = .ok () ∨
          propertyId ∈ payload.uncheckedIds :=
  fun command registered accepted =>
    (commands_payload_checked helpers params fHelp payload command registered accepted).1

theorem commands_payload_properties_exist_sto :
    exodusCreatepayloadSto sampleHelpers [3, 5, 4] false = .ok (.sendToOwners 3 5 4) ∧
      ∀ propertyId ∈ (Payload.sendToOwners 3 5 4 : Payload Nat).propertyIds,
        sampleHelpers.requireExistingProperty propertyId = .ok () ∨
          propertyId ∈ (Payload.sendToOwners 3 5 4 : Payload Nat).uncheckedIds :=
  ⟨rfl, commands_payload_properties_exist sampleHelpers [3, 5, 4] false _ _
    (List.mem_cons_of_mem _ (List.mem_cons_of_mem _ (List.mem_cons_of_mem _
      (List.mem_cons_of_mem _ (List.mem_cons_self _ _))))) rfl⟩

/-- Every amount a payload carries in one of its properties was parsed by `ParseAmount`
with that property's divisibility: for a trade, the amount for sale with the divisibility
of the property for sale and the amount desired with that of the property desired. -/
theorem commands_amounts_in_own_divisibility (params : List Value) (fHelp : Bool)
    (payload : Payload Key) :
    ∀ command ∈ commands helpers, command.actor params fHelp = .ok payload →
      ∀ propertyId amount, (propertyId, amount) ∈ payload.amounts →
        ∃ value, helpers.parseAmount value (helpers.isPropertyDivisible propertyId) =
          .ok amount :=
  fun command registered accepted =>
    (commands_payload_checked helpers params fHelp payload command registered accepted).2

theorem commands_amounts_in_own_divisibility_trade :
    exodusCreatepayloadTrade sampleHelpers [3, 5, 4, 7] false = .ok (.metaDExTrade 3 5 4 7) ∧
      ∀ propertyId amount,
        (propertyId, amount) ∈ (Payload.metaDExTrade 3 5 4 7 : Payload Nat).amounts →
          ∃ value, sampleHelpers.parseAmount value (sampleHelpers.isPropertyDivisible propertyId) =
            .ok amount :=
  ⟨rfl, commands_amounts_in_own_divisibility sampleHelpers [3, 5, 4, 7] false _ _
    (List.mem_cons_of_mem _ (List.mem_cons_of_mem _ (List.mem_cons_of_mem _
      (List.mem_cons_of_mem _ (List.mem_cons_of_mem _ (List.mem_cons_of_mem _
        (List.mem_cons_of_mem _ (List.mem_cons_of_mem _ (List.mem_cons_self _ _))))))))) rfl⟩

/-! ## The parameters a call reads -/

/-- No registered call reads a parameter the caller did not supply: each reads its required
parameters only after the count check, and an optional one only behind
`params.size() > i`, so what `params[i]` gives past the end (`NullUniValue`) never changes
a result. -/
theorem commands_read_supplied_params (params : List Value) (fHelp : Bool) (null : Value) :
    (commands { helpers with null }).map (·.actor params fHelp) =
      (commands helpers).map (·.actor params fHelp) := by
  simp only [commands, List.map_cons, List.map_nil, List.cons.injEq, and_true]
  refine ⟨?_, ?_, ?_, ?_, ?_, ?_, ?_, ?_, ?_, ?_, ?_, ?_, ?_, ?_, ?_, ?_, ?_, ?_, ?_, ?_, ?_, ?_⟩
  all_goals
    refine checkParams_bind_congr fun atLeast atMost => ?_
    simp +contextual (disch := first | exact Nat.lt_of_lt_of_le (by decide) atLeast | assumption)
      only [param_of_lt, readMints_with_null]
  -- the sigma validations read no parameter
  all_goals rfl

end Firo.Exodus
