import Mathlib.Data.List.Basic

/-! # The auto-mint dialog

The model of `qt/automintdialog.cpp`.  What the dialog does to the rest of the program is
a trace of `Event`s: entering and leaving critical sections, and calls into its
`LelantusModel`.  Each member function returns the dialog after it, the events it caused,
and, where it can throw, an `Except` carrying `std::runtime_error`'s message; a throw
leaves the dialog as far as the function had changed it.

The widgets (`ui`, labels, buttons, `repaint`) and `QDialog`'s own `exec`, `accept` and
`reject` are not modelled; neither is `userAsk`, which only chooses label texts.  Wallet
and Lelantus models are values standing for the pointers the dialog holds; the `cs` of a
Lelantus model is known by the model.
-/

namespace Firo.Qt

/-- A `LelantusModel*`, known by its identity. -/
structure LelantusModel where
  id : Nat
deriving DecidableEq

/-- `WalletModel::EncryptionStatus`. -/
inductive EncryptionStatus where
  | unencrypted
  | locked
  | unlocked
deriving DecidableEq

/-- A `WalletModel*`, by what the dialog asks of it. -/
structure WalletModel where
  getLelantusModel : Option LelantusModel
  getEncryptionStatus : EncryptionStatus
deriving DecidableEq

/-- The critical sections the dialog enters and leaves. -/
inductive CriticalSection where
  | csMain
  | csWallet
  /-- `lelantusModel->cs` -/
  | cs (lelantusModel : LelantusModel)
deriving DecidableEq

/-- `AutoMintAck`. -/
inductive AutoMintAck where
  | success
  | failToMint
  | notEnoughFund
  | userReject
deriving DecidableEq

/-- What the dialog does outside itself: critical sections entered and left, and the
four calls it makes into a Lelantus model. -/
inductive Event where
  | enter (criticalSection : CriticalSection)
  | leave (criticalSection : CriticalSection)
  | getMintableAmount (lelantusModel : LelantusModel)
  | unlockWallet (lelantusModel : LelantusModel) (passphase : String) (timeout : Nat)
  | mintAll (lelantusModel : LelantusModel)
  | ackMintAll (lelantusModel : LelantusModel) (ack : AutoMintAck) (minted : Int) (error : String)
deriving DecidableEq

/-- The members of `AutoMintDialog` its logic reads. -/
structure AutoMintDialog where
  model : Option WalletModel
  lelantusModel : Option LelantusModel
  requiredPassphase : Bool
  minting : Bool
deriving DecidableEq

/-- The value `exec` returns: `0` when there is nothing to mint, otherwise what
`QDialog::exec()` returns. -/
inductive ExecResult where
  | zero
  | dialogExec
deriving DecidableEq

namespace AutoMintDialog

/-- The constructor: the members' initial values, then `cs_main` and
`pwalletMain->cs_wallet` are entered. -/
def construct : AutoMintDialog × List Event :=
  (⟨none, none, true, false⟩, [.enter .csMain, .enter .csWallet])

/-- The destructor: the Lelantus model's `cs`, if there is a model, then `cs_wallet` and
`cs_main` are left. -/
def destroy (dialog : AutoMintDialog) : List Event :=
  (match dialog.lelantusModel with
    | some lelantusModel => [.leave (.cs lelantusModel)]
    | none => []) ++ [.leave .csWallet, .leave .csMain]

/-- `ensureLelantusModel`: the model, or the `runtime_error` thrown without one. -/
def ensureLelantusModel (dialog : AutoMintDialog) : Except String LelantusModel :=
  match dialog.lelantusModel with
  | some lelantusModel => .ok lelantusModel
  | none => .error "Lelantus model is not set"

/-- `setModel`: a null model returns before `lelantusModel` is touched; a model without a
Lelantus model clears it; otherwise its `cs` is entered, and an unlocked or unencrypted
wallet needs no passphrase. -/
def setModel (dialog : AutoMintDialog) (model : Option WalletModel) :
    AutoMintDialog × List Event :=
  match model with
  | none => ({ dialog with model := none }, [])
  | some walletModel =>
    match walletModel.getLelantusModel with
    | none => ({ dialog with model, lelantusModel := none }, [])
    | some lelantusModel =>
      ({ dialog with
          model, lelantusModel,
          requiredPassphase :=
            if walletModel.getEncryptionStatus ≠ .locked then false else dialog.requiredPassphase },
        [.enter (.cs lelantusModel)])

/-- `exec`, given what `getMintableAmount()` returns. -/
def exec (dialog : AutoMintDialog) (mintableAmount : Int) :
    List Event × Except String ExecResult :=
  match dialog.ensureLelantusModel with
  | .error message => ([], .error message)
  | .ok lelantusModel =>
    if mintableAmount ≤ 0 then
      ([.getMintableAmount lelantusModel, .ackMintAll lelantusModel .notEnoughFund 0 ""], .ok .zero)
    else ([.getMintableAmount lelantusModel], .ok .dialogExec)

/-- `accept`, given the passphrase typed, the lock check box, and what `mintAll()` returns
or the message of the `runtime_error` it throws.  `minting` is set before the model is
checked, so it stays set when that throws. -/
def accept (dialog : AutoMintDialog) (passphase : String) (lock : Bool)
    (minted : Except String Int) : AutoMintDialog × List Event × Except String Unit :=
  let dialog := { dialog with minting := true }
  match dialog.ensureLelantusModel with
  | .error message => (dialog, [], .error message)
  | .ok lelantusModel =>
    let unlock :=
      if dialog.requiredPassphase then [.unlockWallet lelantusModel passphase (if lock then 0 else 60 * 1000)]
      else []
    let ack := match minted with
      | .ok amount => Event.ackMintAll lelantusModel .success amount ""
      | .error what => Event.ackMintAll lelantusModel .failToMint 0 what
    (dialog, unlock ++ [.mintAll lelantusModel, ack], .ok ())

/-- `reject`: nothing once minting has started. -/
def reject (dialog : AutoMintDialog) : List Event × Except String Unit :=
  if dialog.minting then ([], .ok ())
  else
    match dialog.ensureLelantusModel with
    | .error message => ([], .error message)
    | .ok lelantusModel => ([.ackMintAll lelantusModel .userReject 0 ""], .ok ())

end AutoMintDialog

/-- A call made on a constructed dialog, with what the environment answers. -/
inductive Call where
  | setModel (model : Option WalletModel)
  | exec (mintableAmount : Int)
  | accept (passphase : String) (lock : Bool) (minted : Except String Int)
  | reject

namespace AutoMintDialog

/-- One call: the dialog after it and the events it caused, whether or not it threw. -/
def call (dialog : AutoMintDialog) : Call → AutoMintDialog × List Event
  | .setModel model => dialog.setModel model
  | .exec mintableAmount => (dialog, (dialog.exec mintableAmount).1)
  | .accept passphase lock minted =>
    let accepted := dialog.accept passphase lock minted
    (accepted.1, accepted.2.1)
  | .reject => (dialog, dialog.reject.1)

/-- A sequence of calls, events in order. -/
def callAll (dialog : AutoMintDialog) : List Call → AutoMintDialog × List Event
  | [] => (dialog, [])
  | first :: rest =>
    let afterFirst := dialog.call first
    let afterRest := afterFirst.1.callAll rest
    (afterRest.1, afterFirst.2 ++ afterRest.2)

end AutoMintDialog

/-- Every event of a dialog's life: the constructor, the calls, the destructor. -/
def lifetime (calls : List Call) : List Event :=
  let constructed := AutoMintDialog.construct
  let called := constructed.1.callAll calls
  constructed.2 ++ called.2 ++ called.1.destroy

end Firo.Qt
