import Mathlib.Data.List.Basic

/-! # Payload-creation RPC calls

The model of `exodus/rpcpayload.cpp`.  It registers one `exodus_createpayload_*` call per
Exodus transaction type.  Each call checks its parameter count, parses and checks its
parameters in source order, and returns the hex of the matching `CreatePayload_*` call.

The parsers of `rpcvalues.h`, the checks of `rpcrequirements.h`, the property registry
`_my_sps`, the parts of the `UniValue` and key API that are read, and the payload encoder
of `createpayload.h` are not in this file: they are the fields of `Helpers`, so what is
proved holds whatever they do.  A call returns the `CreatePayload_*` call it makes, as a
`Payload`, in place of its hex.  Of each help text the model keeps the synopsis, its first
line.
-/

namespace Firo.Exodus

/-- What a call throws. -/
inductive RpcError where
  /-- `runtime_error(help)`, the help text given by its synopsis. -/
  | usage (synopsis : String)
  /-- `JSONRPCError(RPC_INVALID_PARAMETER, message)`. -/
  | invalidParameter (message : String)
  /-- An error thrown by a helper outside this file. -/
  | helper (message : String)
  /-- A failed `assert`, which aborts the node. -/
  | assertFailed
deriving DecidableEq

/-- The `CreatePayload_*` call a call makes, with its arguments.  `int64_t` amounts are
integers: nothing in this file computes with them. -/
inductive Payload (Key : Type) where
  | simpleSend (propertyId : UInt32) (amount : Int)
  | sendAll (ecosystem : UInt8)
  | dExSell (propertyIdForSale : UInt32) (amountForSale amountDesired : Int)
      (paymentWindow : UInt8) (minAcceptFee : Int) (action : UInt8)
  | dExAccept (propertyId : UInt32) (amount : Int)
  | sendToOwners (propertyId : UInt32) (amount : Int) (distributionPropertyId : UInt32)
  | issuanceFixed (ecosystem : UInt8) (type : UInt16) (previousId : UInt32)
      (category subcategory name url data : String) (amount : Int)
  | issuanceVariable (ecosystem : UInt8) (type : UInt16) (previousId : UInt32)
      (category subcategory name url data : String) (propertyIdDesired : UInt32)
      (numTokens deadline : Int) (earlyBonus issuerPercentage : UInt8)
  | issuanceManaged (ecosystem : UInt8) (type : UInt16) (previousId : UInt32)
      (category subcategory name url data : String)
  | closeCrowdsale (propertyId : UInt32)
  | grant (propertyId : UInt32) (amount : Int) (memo : String)
  | revoke (propertyId : UInt32) (amount : Int) (memo : String)
  | changeIssuer (propertyId : UInt32)
  | metaDExTrade (propertyIdForSale : UInt32) (amountForSale : Int)
      (propertyIdDesired : UInt32) (amountDesired : Int)
  | metaDExCancelPrice (propertyIdForSale : UInt32) (amountForSale : Int)
      (propertyIdDesired : UInt32) (amountDesired : Int)
  | metaDExCancelPair (propertyIdForSale propertyIdDesired : UInt32)
  | metaDExCancelEcosystem (ecosystem : UInt8)
  | enableFreezing (propertyId : UInt32)
  | disableFreezing (propertyId : UInt32)
  | freezeTokens (propertyId : UInt32) (amount : Int) (refAddress : String)
  | unfreezeTokens (propertyId : UInt32) (amount : Int) (refAddress : String)
  | createDenomination (propertyId : UInt32) (value : Int)
  | simpleMint (propertyId : UInt32) (mints : List (UInt8 × Key))

/-- What the calls use from outside this file.  `Value` is `UniValue`, `Key` is
`SigmaPublicKey`. -/
structure Helpers (Value Key : Type) where
  /-- `NullUniValue`, which `params[i]` is past the end of `params`. -/
  null : Value
  parsePropertyId : Value → Except RpcError UInt32
  /-- `ParseAmount(value, isDivisible)`. -/
  parseAmount : Value → Bool → Except RpcError Int
  /-- `ParseAmount(value, propertyType)`. -/
  parseAmountOfType : Value → UInt16 → Except RpcError Int
  parseEcosystem : Value → Except RpcError UInt8
  parseDExAction : Value → Except RpcError UInt8
  parseDExPaymentWindow : Value → Except RpcError UInt8
  parseDExFee : Value → Except RpcError Int
  parsePropertyType : Value → Except RpcError UInt16
  parsePreviousPropertyId : Value → Except RpcError UInt32
  parseText : Value → Except RpcError String
  parseDeadline : Value → Except RpcError Int
  parseEarlyBirdBonus : Value → Except RpcError UInt8
  parseIssuerBonus : Value → Except RpcError UInt8
  parseAddress : Value → Except RpcError String
  requireExistingProperty : UInt32 → Except RpcError Unit
  requirePrimaryToken : UInt32 → Except RpcError Unit
  requirePropertyName : String → Except RpcError Unit
  requireSameEcosystem : UInt32 → UInt32 → Except RpcError Unit
  requireManagedProperty : UInt32 → Except RpcError Unit
  requireDifferentIds : UInt32 → UInt32 → Except RpcError Unit
  requireSigma : UInt32 → Except RpcError Unit
  isPropertyDivisible : UInt32 → Bool
  /-- `CMPTransaction::UPDATE`: the DEx actions up to it carry amounts. -/
  update : UInt8
  /-- `value.get_array()`. -/
  getArray : Value → Except RpcError (List Value)
  /-- One mint object read: `get_obj()`, `RPCTypeCheckObj`, then `ParseHex` of its `"id"`
  and `get_int()` of its `"denomination"`. -/
  readMintObject : Value → Except RpcError (List UInt8 × Int)
  /-- `CDataStream(id, ...) >> key`: `none` where it throws `std::ios_base::failure`. -/
  deserializeKey : List UInt8 → Option Key
  /-- `SigmaPublicKey::IsValid`. -/
  isValid : Key → Bool
  /-- `_my_sps->getSP(propertyId, info)`, giving `info.denominations`. -/
  getSP : UInt32 → Option (List Int)
  /-- `MAX_DENOMINATIONS`. -/
  maxDenominations : Nat
  formatMP : UInt32 → Int → String

/-- `if (fHelp || params.size() < minimum || params.size() > maximum) throw
runtime_error(help)`.  A call taking exactly `n` parameters writes `params.size() != n`,
the case `minimum = maximum = n`. -/
def checkParams {Value : Type} (synopsis : String) (minimum maximum : Nat)
    (params : List Value) (fHelp : Bool) : Except RpcError Unit :=
  if fHelp || params.length < minimum || maximum < params.length then
    throw (.usage synopsis)
  else pure ()

variable {Value Key : Type} (helpers : Helpers Value Key)

/-- `params[index]`. -/
def Helpers.param (params : List Value) (index : Nat) : Value :=
  params.getD index helpers.null

/-! ## The calls -/

def exodusCreatepayloadSimplesend (params : List Value) (fHelp : Bool) :
    Except RpcError (Payload Key) := do
  checkParams "exodus_createpayload_simplesend propertyid \"amount\"" 2 2 params fHelp
  let propertyId ← helpers.parsePropertyId (helpers.param params 0)
  helpers.requireExistingProperty propertyId
  let amount ← helpers.parseAmount (helpers.param params 1)
    (helpers.isPropertyDivisible propertyId)
  pure (.simpleSend propertyId amount)

def exodusCreatepayloadSendall (params : List Value) (fHelp : Bool) :
    Except RpcError (Payload Key) := do
  checkParams "exodus_createpayload_sendall ecosystem" 1 1 params fHelp
  let ecosystem ← helpers.parseEcosystem (helpers.param params 0)
  pure (.sendAll ecosystem)

/-- The four amounts stay zero for an action past `UPDATE` (a cancel) and are then never
parsed. -/
def exodusCreatepayloadDexsell (params : List Value) (fHelp : Bool) :
    Except RpcError (Payload Key) := do
  checkParams ("exodus_createpayload_dexsell propertyidforsale \"amountforsale\" " ++
    "\"amountdesired\" paymentwindow minacceptfee action") 6 6 params fHelp
  let propertyIdForSale ← helpers.parsePropertyId (helpers.param params 0)
  let action ← helpers.parseDExAction (helpers.param params 5)
  let mut amountForSale := 0
  let mut amountDesired := 0
  let mut paymentWindow := 0
  let mut minAcceptFee := 0
  if action ≤ helpers.update then
    amountForSale ← helpers.parseAmount (helpers.param params 1) true
    amountDesired ← helpers.parseAmount (helpers.param params 2) true
    paymentWindow ← helpers.parseDExPaymentWindow (helpers.param params 3)
    minAcceptFee ← helpers.parseDExFee (helpers.param params 4)
  pure (.dExSell propertyIdForSale amountForSale amountDesired paymentWindow minAcceptFee
    action)

def exodusCreatepayloadDexaccept (params : List Value) (fHelp : Bool) :
    Except RpcError (Payload Key) := do
  checkParams "exodus_createpayload_dexaccept propertyid \"amount\"" 2 2 params fHelp
  let propertyId ← helpers.parsePropertyId (helpers.param params 0)
  helpers.requirePrimaryToken propertyId
  let amount ← helpers.parseAmount (helpers.param params 1) true
  pure (.dExAccept propertyId amount)

/-- The distribution property defaults to the property sent. -/
def exodusCreatepayloadSto (params : List Value) (fHelp : Bool) :
    Except RpcError (Payload Key) := do
  checkParams "exodus_createpayload_sto propertyid \"amount\" ( distributionproperty )" 2 3
    params fHelp
  let propertyId ← helpers.parsePropertyId (helpers.param params 0)
  helpers.requireExistingProperty propertyId
  let amount ← helpers.parseAmount (helpers.param params 1)
    (helpers.isPropertyDivisible propertyId)
  let distributionPropertyId ← if params.length > 2 then
    helpers.parsePropertyId (helpers.param params 2) else pure propertyId
  pure (.sendToOwners propertyId amount distributionPropertyId)

def exodusCreatepayloadIssuancefixed (params : List Value) (fHelp : Bool) :
    Except RpcError (Payload Key) := do
  checkParams ("exodus_createpayload_issuancefixed ecosystem type previousid \"category\" " ++
    "\"subcategory\" \"name\" \"url\" \"data\" \"amount\"") 9 9 params fHelp
  let ecosystem ← helpers.parseEcosystem (helpers.param params 0)
  let type ← helpers.parsePropertyType (helpers.param params 1)
  let previousId ← helpers.parsePreviousPropertyId (helpers.param params 2)
  let category ← helpers.parseText (helpers.param params 3)
  let subcategory ← helpers.parseText (helpers.param params 4)
  let name ← helpers.parseText (helpers.param params 5)
  let url ← helpers.parseText (helpers.param params 6)
  let data ← helpers.parseText (helpers.param params 7)
  let amount ← helpers.parseAmountOfType (helpers.param params 8) type
  helpers.requirePropertyName name
  pure (.issuanceFixed ecosystem type previousId category subcategory name url data amount)

/-- `RequireSameEcosystem(ecosystem, propertyIdDesired)` passes the ecosystem byte where a
property id is expected; it is widened as C++ widens it. -/
def exodusCreatepayloadIssuancecrowdsale (params : List Value) (fHelp : Bool) :
    Except RpcError (Payload Key) := do
  checkParams ("exodus_createpayload_issuancecrowdsale ecosystem type previousid " ++
    "\"category\" \"subcategory\" \"name\" \"url\" \"data\" propertyiddesired " ++
    "tokensperunit deadline earlybonus issuerpercentage") 13 13 params fHelp
  let ecosystem ← helpers.parseEcosystem (helpers.param params 0)
  let type ← helpers.parsePropertyType (helpers.param params 1)
  let previousId ← helpers.parsePreviousPropertyId (helpers.param params 2)
  let category ← helpers.parseText (helpers.param params 3)
  let subcategory ← helpers.parseText (helpers.param params 4)
  let name ← helpers.parseText (helpers.param params 5)
  let url ← helpers.parseText (helpers.param params 6)
  let data ← helpers.parseText (helpers.param params 7)
  let propertyIdDesired ← helpers.parsePropertyId (helpers.param params 8)
  let numTokens ← helpers.parseAmountOfType (helpers.param params 9) type
  let deadline ← helpers.parseDeadline (helpers.param params 10)
  let earlyBonus ← helpers.parseEarlyBirdBonus (helpers.param params 11)
  let issuerPercentage ← helpers.parseIssuerBonus (helpers.param params 12)
  helpers.requirePropertyName name
  helpers.requireExistingProperty propertyIdDesired
  helpers.requireSameEcosystem ecosystem.toUInt32 propertyIdDesired
  pure (.issuanceVariable ecosystem type previousId category subcategory name url data
    propertyIdDesired numTokens deadline earlyBonus issuerPercentage)

def exodusCreatepayloadIssuancemanaged (params : List Value) (fHelp : Bool) :
    Except RpcError (Payload Key) := do
  checkParams ("exodus_createpayload_issuancemanaged ecosystem type previousid " ++
    "\"category\" \"subcategory\" \"name\" \"url\" \"data\"") 8 8 params fHelp
  let ecosystem ← helpers.parseEcosystem (helpers.param params 0)
  let type ← helpers.parsePropertyType (helpers.param params 1)
  let previousId ← helpers.parsePreviousPropertyId (helpers.param params 2)
  let category ← helpers.parseText (helpers.param params 3)
  let subcategory ← helpers.parseText (helpers.param params 4)
  let name ← helpers.parseText (helpers.param params 5)
  let url ← helpers.parseText (helpers.param params 6)
  let data ← helpers.parseText (helpers.param params 7)
  helpers.requirePropertyName name
  pure (.issuanceManaged ecosystem type previousId category subcategory name url data)

def exodusCreatepayloadClosecrowdsale (params : List Value) (fHelp : Bool) :
    Except RpcError (Payload Key) := do
  checkParams "exodus_createpayload_closecrowdsale propertyid" 1 1 params fHelp
  let propertyId ← helpers.parsePropertyId (helpers.param params 0)
  pure (.closeCrowdsale propertyId)

/-- `grant` and `revoke`: a managed property, an amount in its divisibility, and a memo
that defaults to the empty text. -/
def grantOrRevoke (synopsis : String) (create : UInt32 → Int → String → Payload Key)
    (params : List Value) (fHelp : Bool) : Except RpcError (Payload Key) := do
  checkParams synopsis 2 3 params fHelp
  let propertyId ← helpers.parsePropertyId (helpers.param params 0)
  helpers.requireExistingProperty propertyId
  helpers.requireManagedProperty propertyId
  let amount ← helpers.parseAmount (helpers.param params 1)
    (helpers.isPropertyDivisible propertyId)
  let memo ← if params.length > 2 then helpers.parseText (helpers.param params 2)
    else pure ""
  pure (create propertyId amount memo)

def exodusCreatepayloadGrant : List Value → Bool → Except RpcError (Payload Key) :=
  grantOrRevoke helpers "exodus_createpayload_grant propertyid \"amount\" ( \"memo\" )" .grant

def exodusCreatepayloadRevoke : List Value → Bool → Except RpcError (Payload Key) :=
  grantOrRevoke helpers "exodus_createpayload_revoke propertyid \"amount\" ( \"memo\" )"
    .revoke

def exodusCreatepayloadChangeissuer (params : List Value) (fHelp : Bool) :
    Except RpcError (Payload Key) := do
  checkParams "exodus_createpayload_changeissuer propertyid" 1 1 params fHelp
  let propertyId ← helpers.parsePropertyId (helpers.param params 0)
  helpers.requireExistingProperty propertyId
  pure (.changeIssuer propertyId)

/-- `canceltradesbyprice`, and `trade` but for its repeated check: two existing properties
of one ecosystem, each amount in its own property's divisibility, and different ids. -/
def metaDExByPrice (synopsis : String) (create : UInt32 → Int → UInt32 → Int → Payload Key)
    (params : List Value) (fHelp : Bool) : Except RpcError (Payload Key) := do
  checkParams synopsis 4 4 params fHelp
  let propertyIdForSale ← helpers.parsePropertyId (helpers.param params 0)
  helpers.requireExistingProperty propertyIdForSale
  let amountForSale ← helpers.parseAmount (helpers.param params 1)
    (helpers.isPropertyDivisible propertyIdForSale)
  let propertyIdDesired ← helpers.parsePropertyId (helpers.param params 2)
  helpers.requireExistingProperty propertyIdDesired
  let amountDesired ← helpers.parseAmount (helpers.param params 3)
    (helpers.isPropertyDivisible propertyIdDesired)
  helpers.requireSameEcosystem propertyIdForSale propertyIdDesired
  helpers.requireDifferentIds propertyIdForSale propertyIdDesired
  pure (create propertyIdForSale amountForSale propertyIdDesired amountDesired)

/-- `RequireDifferentIds` is called twice. -/
def exodusCreatepayloadTrade (params : List Value) (fHelp : Bool) :
    Except RpcError (Payload Key) := do
  checkParams ("exodus_createpayload_trade propertyidforsale \"amountforsale\" " ++
    "propertiddesired \"amountdesired\"") 4 4 params fHelp
  let propertyIdForSale ← helpers.parsePropertyId (helpers.param params 0)
  helpers.requireExistingProperty propertyIdForSale
  let amountForSale ← helpers.parseAmount (helpers.param params 1)
    (helpers.isPropertyDivisible propertyIdForSale)
  let propertyIdDesired ← helpers.parsePropertyId (helpers.param params 2)
  helpers.requireExistingProperty propertyIdDesired
  let amountDesired ← helpers.parseAmount (helpers.param params 3)
    (helpers.isPropertyDivisible propertyIdDesired)
  helpers.requireSameEcosystem propertyIdForSale propertyIdDesired
  helpers.requireDifferentIds propertyIdForSale propertyIdDesired
  helpers.requireDifferentIds propertyIdForSale propertyIdDesired
  pure (.metaDExTrade propertyIdForSale amountForSale propertyIdDesired amountDesired)

def exodusCreatepayloadCanceltradesbyprice :
    List Value → Bool → Except RpcError (Payload Key) :=
  metaDExByPrice helpers ("exodus_createpayload_canceltradesbyprice propertyidforsale " ++
    "\"amountforsale\" propertiddesired \"amountdesired\"") .metaDExCancelPrice

def exodusCreatepayloadCanceltradesbypair (params : List Value) (fHelp : Bool) :
    Except RpcError (Payload Key) := do
  checkParams "exodus_createpayload_canceltradesbypair propertyidforsale propertiddesired"
    2 2 params fHelp
  let propertyIdForSale ← helpers.parsePropertyId (helpers.param params 0)
  helpers.requireExistingProperty propertyIdForSale
  let propertyIdDesired ← helpers.parsePropertyId (helpers.param params 1)
  helpers.requireExistingProperty propertyIdDesired
  helpers.requireSameEcosystem propertyIdForSale propertyIdDesired
  helpers.requireDifferentIds propertyIdForSale propertyIdDesired
  pure (.metaDExCancelPair propertyIdForSale propertyIdDesired)

def exodusCreatepayloadCancelalltrades (params : List Value) (fHelp : Bool) :
    Except RpcError (Payload Key) := do
  checkParams "exodus_createpayload_cancelalltrades ecosystem" 1 1 params fHelp
  let ecosystem ← helpers.parseEcosystem (helpers.param params 0)
  pure (.metaDExCancelEcosystem ecosystem)

/-- `enablefreezing` and `disablefreezing`: one existing, managed property. -/
def setFreezing (synopsis : String) (create : UInt32 → Payload Key) (params : List Value)
    (fHelp : Bool) : Except RpcError (Payload Key) := do
  checkParams synopsis 1 1 params fHelp
  let propertyId ← helpers.parsePropertyId (helpers.param params 0)
  helpers.requireExistingProperty propertyId
  helpers.requireManagedProperty propertyId
  pure (create propertyId)

def exodusCreatepayloadEnablefreezing : List Value → Bool → Except RpcError (Payload Key) :=
  setFreezing helpers "exodus_createpayload_enablefreezing propertyid" .enableFreezing

def exodusCreatepayloadDisablefreezing : List Value → Bool → Except RpcError (Payload Key) :=
  setFreezing helpers "exodus_createpayload_disablefreezing propertyid" .disableFreezing

/-- `freeze` and `unfreeze`: the amount is parsed in the property's divisibility before the
property is required to exist and be managed. -/
def freezeOrUnfreeze (synopsis : String) (create : UInt32 → Int → String → Payload Key)
    (params : List Value) (fHelp : Bool) : Except RpcError (Payload Key) := do
  checkParams synopsis 3 3 params fHelp
  let refAddress ← helpers.parseAddress (helpers.param params 0)
  let propertyId ← helpers.parsePropertyId (helpers.param params 1)
  let amount ← helpers.parseAmount (helpers.param params 2)
    (helpers.isPropertyDivisible propertyId)
  helpers.requireExistingProperty propertyId
  helpers.requireManagedProperty propertyId
  pure (create propertyId amount refAddress)

def exodusCreatepayloadFreeze : List Value → Bool → Except RpcError (Payload Key) :=
  freezeOrUnfreeze helpers "exodus_createpayload_freeze \"toaddress\" propertyid amount "
    .freezeTokens

def exodusCreatepayloadUnfreeze : List Value → Bool → Except RpcError (Payload Key) :=
  freezeOrUnfreeze helpers "exodus_createpayload_unfreeze \"toaddress\" propertyid amount "
    .unfreezeTokens

/-! ## Sigma denominations and mints -/

/-- The `// validate` block of `createdenomination`: the property has room for one more
denomination and none of the same value. -/
def validateNewDenomination (propertyId : UInt32) (value : Int) : Except RpcError Unit := do
  let some denominations := helpers.getSP propertyId | throw .assertFailed
  if denominations.length ≥ helpers.maxDenominations then
    throw (.invalidParameter "No more room for new denomination")
  if value ∈ denominations then
    throw (.invalidParameter
      ("Denomination with value " ++ helpers.formatMP propertyId value ++ " already exists"))

def exodusCreatepayloadCreatedenomination (params : List Value) (fHelp : Bool) :
    Except RpcError (Payload Key) := do
  checkParams "exodus_createpayload_createdenomination propertyid \"value\"" 2 2 params fHelp
  let propertyId ← helpers.parsePropertyId (helpers.param params 0)
  let value ← helpers.parseAmount (helpers.param params 1)
    (helpers.isPropertyDivisible propertyId)
  helpers.requireExistingProperty propertyId
  helpers.requireSigma propertyId
  validateNewDenomination helpers propertyId value
  pure (.createDenomination propertyId value)

/-- One pass of the loop over `mintObjs`: the key must deserialize and be valid, and the
denomination id must fit a `SigmaDenomination` byte. -/
def readMint (mintObj : Value) : Except RpcError (UInt8 × Key) := do
  let (id, denomId) ← helpers.readMintObject mintObj
  let some key := helpers.deserializeKey id
    | throw (.invalidParameter "Public key is invalid.")
  if !helpers.isValid key then
    throw (.invalidParameter "Public key is invalid.")
  if denomId < 0 || denomId > 255 then
    throw (.invalidParameter "Denomination id is invalid.")
  pure (UInt8.ofNat denomId.toNat, key)

/-- The loop over `mintObjs`, pushing each mint read onto `mints`. -/
def readMints (mints : List (UInt8 × Key)) : List Value →
    Except RpcError (List (UInt8 × Key))
  | [] => pure mints
  | mintObj :: mintObjs => do
    let mint ← readMint helpers mintObj
    readMints (mints ++ [mint]) mintObjs

/-- The loop of the `// validate denominations.` block. -/
def checkDenominations (denominations : List Int) :
    List (UInt8 × Key) → Except RpcError Unit
  | [] => pure ()
  | mint :: mints => do
    if mint.1.toNat ≥ denominations.length then
      throw (.invalidParameter "Denomination is not exist")
    checkDenominations denominations mints

/-- The `// validate denominations.` block of `mintbypublickeys`: every mint's denomination
is one the property has. -/
def validateMintDenominations (propertyId : UInt32) (mints : List (UInt8 × Key)) :
    Except RpcError Unit := do
  let some denominations := helpers.getSP propertyId | throw .assertFailed
  checkDenominations denominations mints

/-- The third parameter, `denomminconf` in the help text, is never read; the help text is
that of `exodus_sendmint`. -/
def exodusCreatepayloadMintbypublickeys (params : List Value) (fHelp : Bool) :
    Except RpcError (Payload Key) := do
  checkParams ("exodus_sendmint \"fromaddress\" propertyid \x7b\"denomination\":amount,...\x7d" ++
    " ( denomminconf )") 2 3 params fHelp
  let propertyId ← helpers.parsePropertyId (helpers.param params 0)
  let mintObjs ← helpers.getArray (helpers.param params 1)
  helpers.requireExistingProperty propertyId
  helpers.requireSigma propertyId
  let mints ← readMints helpers [] mintObjs
  validateMintDenominations helpers propertyId mints
  pure (.simpleMint propertyId mints)

/-! ## The command table -/

/-- An entry of `commands[]`.  Every entry has category `"exodus (payload creation)"` and
`okSafeMode` set, which the model leaves out. -/
structure CRPCCommand (Value Key : Type) where
  name : String
  actor : List Value → Bool → Except RpcError (Payload Key)

/-- `commands[]`, in its order. -/
def commands : List (CRPCCommand Value Key) :=
  [⟨"exodus_createpayload_simplesend", exodusCreatepayloadSimplesend helpers⟩,
   ⟨"exodus_createpayload_sendall", exodusCreatepayloadSendall helpers⟩,
   ⟨"exodus_createpayload_dexsell", exodusCreatepayloadDexsell helpers⟩,
   ⟨"exodus_createpayload_dexaccept", exodusCreatepayloadDexaccept helpers⟩,
   ⟨"exodus_createpayload_sto", exodusCreatepayloadSto helpers⟩,
   ⟨"exodus_createpayload_grant", exodusCreatepayloadGrant helpers⟩,
   ⟨"exodus_createpayload_revoke", exodusCreatepayloadRevoke helpers⟩,
   ⟨"exodus_createpayload_changeissuer", exodusCreatepayloadChangeissuer helpers⟩,
   ⟨"exodus_createpayload_trade", exodusCreatepayloadTrade helpers⟩,
   ⟨"exodus_createpayload_issuancefixed", exodusCreatepayloadIssuancefixed helpers⟩,
   ⟨"exodus_createpayload_issuancecrowdsale", exodusCreatepayloadIssuancecrowdsale helpers⟩,
   ⟨"exodus_createpayload_issuancemanaged", exodusCreatepayloadIssuancemanaged helpers⟩,
   ⟨"exodus_createpayload_closecrowdsale", exodusCreatepayloadClosecrowdsale helpers⟩,
   ⟨"exodus_createpayload_canceltradesbyprice",
     exodusCreatepayloadCanceltradesbyprice helpers⟩,
   ⟨"exodus_createpayload_canceltradesbypair", exodusCreatepayloadCanceltradesbypair helpers⟩,
   ⟨"exodus_createpayload_cancelalltrades", exodusCreatepayloadCancelalltrades helpers⟩,
   ⟨"exodus_createpayload_enablefreezing", exodusCreatepayloadEnablefreezing helpers⟩,
   ⟨"exodus_createpayload_disablefreezing", exodusCreatepayloadDisablefreezing helpers⟩,
   ⟨"exodus_createpayload_freeze", exodusCreatepayloadFreeze helpers⟩,
   ⟨"exodus_createpayload_unfreeze", exodusCreatepayloadUnfreeze helpers⟩,
   ⟨"exodus_createpayload_createdenomination",
     exodusCreatepayloadCreatedenomination helpers⟩,
   ⟨"exodus_createpayload_mintbypublickeys", exodusCreatepayloadMintbypublickeys helpers⟩]

end Firo.Exodus
