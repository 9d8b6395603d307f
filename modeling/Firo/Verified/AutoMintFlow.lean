import Firo.Qt.AutoMintDialog
import Mathlib.Data.List.Basic

/-! # The auto-mint dialog's passphrase and acknowledgements

Two flags of the dialog decide what it asks of the Lelantus model: `requiredPassphase`
decides whether `accept` unlocks the wallet, and `minting` silences `reject`.  Neither is
ever set back.  `setModel` can only clear `requiredPassphase`, and nothing clears
`minting`.  So each flag is a function of the calls made so far (`callAll_requiredPassphase`,
`callAll_minting`), and the results below follow from one step lemma per flag.

Main results:

* `accept_unlocks_iff` — after any calls from construction, `accept` unlocks the wallet
  exactly when a Lelantus model is set and no `setModel` call so far reached the Lelantus
  model of a wallet that was not locked.  A wallet locked since then is not unlocked.
* `no_userReject_after_accept` — once `accept` has been called, no later call acknowledges
  `UserReject`, whether or not `accept` threw.
-/

namespace Firo.Verified.AutoMintFlow

open Firo.Qt Firo.Qt.AutoMintDialog

/-! ## The passphrase flag -/

/-- A `setModel` call that reaches the Lelantus model of a wallet that is not locked: the
calls that clear `requiredPassphase`. -/
def clearsPassphase : Call → Bool
  | .setModel (some walletModel) =>
    walletModel.getLelantusModel.isSome && walletModel.getEncryptionStatus != .locked
  | _ => false

theorem setModel_requiredPassphase (dialog : AutoMintDialog) (model : Option WalletModel) :
    (dialog.setModel model).1.requiredPassphase =
      (dialog.requiredPassphase && !clearsPassphase (.setModel model)) := by
  rcases model with _ | walletModel
  · simp [setModel, clearsPassphase]
  · rcases reached : walletModel.getLelantusModel with _ | lelantusModel
    · simp [setModel, clearsPassphase, reached]
    · cases status : walletModel.getEncryptionStatus <;>
      simp [setModel, clearsPassphase, reached, status]

theorem call_requiredPassphase (dialog : AutoMintDialog) (next : Call) :
    (dialog.call next).1.requiredPassphase =
      (dialog.requiredPassphase && !clearsPassphase next) := by
  cases next with
  | setModel model => exact setModel_requiredPassphase dialog model
  | exec | reject => simp [call, clearsPassphase]
  | accept passphase lock minted =>
    simp only [call, accept, clearsPassphase, Bool.not_false, Bool.and_true]
    split <;> rfl

theorem callAll_requiredPassphase (dialog : AutoMintDialog) (calls : List Call) :
    (dialog.callAll calls).1.requiredPassphase =
      (dialog.requiredPassphase && !calls.any clearsPassphase) := by
  induction calls generalizing dialog with
  | nil => simp [callAll]
  | cons next calls ih =>
    simp only [callAll, ih, call_requiredPassphase, List.any_cons, Bool.not_or, Bool.and_assoc]

/-- Whether an event unlocks the wallet. -/
def isUnlock : Event → Bool
  | .unlockWallet .. => true
  | _ => false

theorem accept_unlocks (dialog : AutoMintDialog) (passphase : String) (lock : Bool)
    (minted : Except String Int) :
    (dialog.accept passphase lock minted).2.1.any isUnlock =
      (dialog.lelantusModel.isSome && dialog.requiredPassphase) := by
  simp only [accept, ensureLelantusModel]
  rcases dialog.lelantusModel with _ | lelantusModel
  · rfl
  · cases dialog.requiredPassphase <;> cases minted <;> rfl

/-- `accept` unlocks the wallet exactly when a Lelantus model is set and no `setModel`
call so far reached the Lelantus model of a wallet that was not locked. -/
theorem accept_unlocks_iff (calls : List Call) (passphase : String) (lock : Bool)
    (minted : Except String Int) :
    let dialog := (construct.1.callAll calls).1
    (dialog.accept passphase lock minted).2.1.any isUnlock =
      (dialog.lelantusModel.isSome && !calls.any clearsPassphase) := by
  intro dialog
  rw [accept_unlocks, callAll_requiredPassphase]
  rfl

/-- A wallet found unlocked, then a locked wallet with another Lelantus model: `accept`
does not unlock it. -/
example :
    let unlocked : WalletModel := ⟨some ⟨0⟩, .unlocked⟩
    let locked : WalletModel := ⟨some ⟨1⟩, .locked⟩
    ((construct.1.callAll [.setModel (some unlocked), .setModel (some locked)]).1.accept
      "passphrase" false (.ok 5)).2.1.any isUnlock = false := rfl

/-! ## The minting flag -/

/-- Whether a call is `accept`. -/
def isAccept : Call → Bool
  | .accept .. => true
  | _ => false

theorem setModel_minting (dialog : AutoMintDialog) (model : Option WalletModel) :
    (dialog.setModel model).1.minting = dialog.minting := by
  unfold setModel
  split
  · rfl
  · split <;> rfl

theorem call_minting (dialog : AutoMintDialog) (next : Call) :
    (dialog.call next).1.minting = (dialog.minting || isAccept next) := by
  cases next with
  | setModel model => simp [call, setModel_minting, isAccept]
  | exec | reject => simp [call, isAccept]
  | accept passphase lock minted =>
    simp only [call, accept, isAccept, Bool.or_true]
    split <;> rfl

theorem callAll_minting (dialog : AutoMintDialog) (calls : List Call) :
    (dialog.callAll calls).1.minting = (dialog.minting || calls.any isAccept) := by
  induction calls generalizing dialog with
  | nil => simp [callAll]
  | cons next calls ih =>
    simp only [callAll, ih, call_minting, List.any_cons, Bool.or_assoc]

/-- Whether an event acknowledges `UserReject`. -/
def isUserReject : Event → Bool
  | .ackMintAll _ .userReject _ _ => true
  | _ => false

/-- While minting, no call acknowledges `UserReject`: `reject` returns at once and no other
call ever does. -/
theorem call_no_userReject (dialog : AutoMintDialog) (minting : dialog.minting = true)
    (next : Call) : (dialog.call next).2.any isUserReject = false := by
  cases next with
  | setModel model =>
    show (dialog.setModel model).2.any isUserReject = false
    rcases model with _ | walletModel
    · rfl
    · simp only [setModel]
      split <;> rfl
  | exec mintableAmount =>
    simp only [call, exec]
    split
    · rfl
    · split <;> rfl
  | accept passphase lock minted =>
    simp only [call, accept]
    split
    · rfl
    · split <;> cases minted <;> rfl
  | reject => simp [call, reject, minting]

theorem callAll_no_userReject (dialog : AutoMintDialog) (minting : dialog.minting = true)
    (calls : List Call) : (dialog.callAll calls).2.any isUserReject = false := by
  induction calls generalizing dialog with
  | nil => rfl
  | cons next calls ih =>
    have stillMinting : (dialog.call next).1.minting = true := by
      rw [call_minting, minting, Bool.true_or]
    simp only [callAll, List.any_append, call_no_userReject dialog minting, ih _ stillMinting,
      Bool.or_false]

/-- Once `accept` has been called, no later call acknowledges `UserReject`. -/
theorem no_userReject_after_accept (dialog : AutoMintDialog) (before after : List Call)
    (passphase : String) (lock : Bool) (minted : Except String Int) :
    let accepted := (dialog.callAll (before ++ [.accept passphase lock minted])).1
    (accepted.callAll after).2.any isUserReject = false := by
  intro accepted
  have minting : accepted.minting = true := by
    simp [accepted, callAll_minting, isAccept]
  exact callAll_no_userReject accepted minting after

end Firo.Verified.AutoMintFlow
