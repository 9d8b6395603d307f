import Firo.Qt.AutoMintDialog
import Mathlib.Data.List.Count
import Mathlib.Data.List.Perm.Basic

/-! # Critical sections over a dialog's life

The dialog enters `cs_main` and `cs_wallet` when it is built and leaves them when it is
destroyed; in between, each `setModel` that reaches a Lelantus model enters that model's
`cs`, and the destructor leaves the `cs` of the one model the dialog holds at the end.
`lifetime_lock_trace` states exactly that, for every sequence of calls: the lock events of
a lifetime, in order.  The rest follows from it.

* `lifetime_balanced_iff` — `cs_main` and `cs_wallet` are always left as often as they
  were entered, and every critical section is exactly when the Lelantus models `setModel`
  entered are the one held at destruction, or none.
* `lifetime_balanced_of_single_setModel` — in particular with at most one `setModel`.
* `lifetime_replaced_model_never_left` — two `setModel` calls with different Lelantus
  models: the first one's `cs` is entered and never left.
* `lifetime_calls_under_locks` — every call into a Lelantus model (`getMintableAmount`,
  `unlockWallet`, `mintAll`, `ackMintAll`) is made while `cs_main`, `cs_wallet` and that
  model's `cs` are held.
* `lifetime_lock_order` — `cs_wallet` is taken only under `cs_main`, a Lelantus model's
  `cs` only under both; two models' sections are not ordered.
-/

namespace Firo.Verified.AutoMintLocks

open Firo.Qt Firo.Qt.AutoMintDialog

/-! ## What one call does to the locks -/

/-- The Lelantus model whose `cs` a call enters: only a `setModel` of a wallet model that
has one. -/
def entersModel : Call → Option LelantusModel
  | .setModel (some walletModel) => walletModel.getLelantusModel
  | _ => none

/-- The Lelantus model the dialog holds after a call, given the one it held. -/
def heldAfter (held : Option LelantusModel) : Call → Option LelantusModel
  | .setModel (some walletModel) => walletModel.getLelantusModel
  | _ => held

/-- Entering and leaving critical sections, among the dialog's events. -/
def isLockEvent : Event → Bool
  | .enter _ | .leave _ => true
  | _ => false

/-- The lock events of a trace, in order. -/
def lockEvents (events : List Event) : List Event := events.filter isLockEvent

@[simp] theorem lockEvents_append (events events' : List Event) :
    lockEvents (events ++ events') = lockEvents events ++ lockEvents events' :=
  List.filter_append _ _

theorem call_lelantusModel (dialog : AutoMintDialog) (call : Call) :
    (dialog.call call).1.lelantusModel = heldAfter dialog.lelantusModel call := by
  cases call with
  | setModel model =>
    rcases model with _ | walletModel
    · rfl
    · cases held : walletModel.getLelantusModel <;> simp [AutoMintDialog.call, setModel, heldAfter, held]
  | exec => rfl
  | accept passphase lock minted =>
    simp only [AutoMintDialog.call, accept]
    split <;> rfl
  | reject => rfl

theorem call_lockEvents (dialog : AutoMintDialog) (call : Call) :
    lockEvents (dialog.call call).2 = (entersModel call).toList.map (.enter ∘ .cs) := by
  cases call with
  | setModel model =>
    rcases model with _ | walletModel
    · rfl
    · cases held : walletModel.getLelantusModel <;>
        simp [AutoMintDialog.call, setModel, entersModel, held, lockEvents, isLockEvent]
  | exec mintableAmount =>
    simp only [AutoMintDialog.call, exec]
    split
    · rfl
    · split <;> rfl
  | accept passphase lock minted =>
    simp only [AutoMintDialog.call, accept]
    split
    · rfl
    · cases minted <;> split <;> simp [lockEvents, isLockEvent, entersModel]
  | reject =>
    simp only [AutoMintDialog.call, reject]
    split
    · rfl
    · split <;> rfl

/-! ## Runs of calls -/

theorem callAll_lelantusModel (dialog : AutoMintDialog) (calls : List Call) :
    (dialog.callAll calls).1.lelantusModel = calls.foldl heldAfter dialog.lelantusModel := by
  induction calls generalizing dialog with
  | nil => rfl
  | cons call calls inductionHypothesis =>
    simp [callAll, inductionHypothesis, call_lelantusModel]

theorem callAll_lockEvents (dialog : AutoMintDialog) (calls : List Call) :
    lockEvents (dialog.callAll calls).2 = (calls.filterMap entersModel).map (.enter ∘ .cs) := by
  induction calls generalizing dialog with
  | nil => rfl
  | cons call calls inductionHypothesis =>
    rw [callAll, lockEvents_append, call_lockEvents, inductionHypothesis, List.filterMap_cons]
    cases entersModel call <;> rfl

/-- The Lelantus model a dialog holds at destruction. -/
def finalModel (calls : List Call) : Option LelantusModel := calls.foldl heldAfter none

/-- The critical sections a lifetime enters, in order: `cs_main`, `cs_wallet`, and the `cs`
of each Lelantus model a `setModel` reached. -/
def enteredSections (calls : List Call) : List CriticalSection :=
  [.csMain, .csWallet] ++ (calls.filterMap entersModel).map .cs

/-- The critical sections a lifetime leaves, in order: the `cs` of the model held at
destruction, `cs_wallet`, `cs_main`. -/
def leftSections (calls : List Call) : List CriticalSection :=
  (finalModel calls).toList.map .cs ++ [.csWallet, .csMain]

theorem lifetime_lock_trace (calls : List Call) :
    lockEvents (lifetime calls) =
      (enteredSections calls).map .enter ++ (leftSections calls).map .leave := by
  have unheld : construct.1.lelantusModel = none := rfl
  simp only [lifetime, lockEvents_append, callAll_lockEvents, destroy, callAll_lelantusModel,
    enteredSections, leftSections, finalModel, unheld, List.map_append, List.map_map,
    List.append_assoc]
  cases List.foldl heldAfter none calls <;> rfl

/-! ## Balance -/

/-- A critical section is left as many times as it was entered. -/
def Balanced (events : List Event) (criticalSection : CriticalSection) : Prop :=
  events.count (.enter criticalSection) = events.count (.leave criticalSection)

theorem count_lockEvents (events : List Event) (event : Event) (lock : isLockEvent event = true) :
    (lockEvents events).count event = events.count event :=
  List.count_filter lock

theorem lifetime_count_enter (calls : List Call) (criticalSection : CriticalSection) :
    (lifetime calls).count (.enter criticalSection) =
      (enteredSections calls).count criticalSection := by
  rw [← count_lockEvents (lifetime calls) (.enter criticalSection) rfl, lifetime_lock_trace,
    List.count_append, List.count_map_of_injective _ _ fun _ _ same => Event.enter.inj same]
  simp [List.count_eq_zero]

theorem lifetime_count_leave (calls : List Call) (criticalSection : CriticalSection) :
    (lifetime calls).count (.leave criticalSection) =
      (leftSections calls).count criticalSection := by
  rw [← count_lockEvents (lifetime calls) (.leave criticalSection) rfl, lifetime_lock_trace,
    List.count_append, List.count_map_of_injective _ _ fun _ _ same => Event.leave.inj same]
  simp [List.count_eq_zero]

theorem count_map_cs_of_ne {criticalSection : CriticalSection}
    (notModel : ∀ lelantusModel, criticalSection ≠ .cs lelantusModel)
    (models : List LelantusModel) : (models.map CriticalSection.cs).count criticalSection = 0 :=
  List.count_eq_zero.mpr fun member =>
    let ⟨lelantusModel, _, same⟩ := List.mem_map.mp member
    notModel lelantusModel same.symm

/-- A section that is no Lelantus model's `cs`, that is `cs_main` or `cs_wallet`, is entered
by the constructor and left by the destructor, whatever the calls in between. -/
theorem lifetime_balanced_of_ne_cs (calls : List Call) {criticalSection : CriticalSection}
    (notModel : ∀ lelantusModel, criticalSection ≠ .cs lelantusModel) :
    Balanced (lifetime calls) criticalSection := by
  simp only [Balanced, lifetime_count_enter, lifetime_count_leave, enteredSections,
    leftSections, List.count_append, count_map_cs_of_ne notModel, Nat.add_zero, Nat.zero_add]
  exact (List.Perm.swap .csWallet .csMain []).count_eq criticalSection

theorem lifetime_balanced_cs_iff (calls : List Call) (lelantusModel : LelantusModel) :
    Balanced (lifetime calls) (.cs lelantusModel) ↔
      (calls.filterMap entersModel).count lelantusModel =
        (finalModel calls).toList.count lelantusModel := by
  have csInjective : Function.Injective CriticalSection.cs := fun _ _ same => CriticalSection.cs.inj same
  simp [Balanced, lifetime_count_enter, lifetime_count_leave, enteredSections, leftSections,
    List.count_map_of_injective _ _ csInjective]

/-- Every critical section is balanced exactly when the Lelantus models `setModel` entered
are the one held at destruction, or none. -/
theorem all_balanced_iff (calls : List Call) :
    (∀ criticalSection, Balanced (lifetime calls) criticalSection) ↔
      calls.filterMap entersModel = (finalModel calls).toList := by
  constructor
  · intro balanced
    have permuted : (calls.filterMap entersModel).Perm (finalModel calls).toList :=
      List.perm_iff_count.mpr fun lelantusModel =>
        (lifetime_balanced_cs_iff calls lelantusModel).mp (balanced (.cs lelantusModel))
    cases final : finalModel calls <;> simpa [final] using permuted
  · intro same criticalSection
    cases criticalSection with
    | csMain | csWallet => exact lifetime_balanced_of_ne_cs calls nofun
    | cs lelantusModel => exact (lifetime_balanced_cs_iff calls lelantusModel).mpr (by rw [same])

theorem lifetime_balanced_iff (calls : List Call) :
    (Balanced (lifetime calls) .csMain ∧ Balanced (lifetime calls) .csWallet) ∧
      ((∀ criticalSection, Balanced (lifetime calls) criticalSection) ↔
        calls.filterMap entersModel = (finalModel calls).toList) :=
  ⟨⟨lifetime_balanced_of_ne_cs calls nofun, lifetime_balanced_of_ne_cs calls nofun⟩,
    all_balanced_iff calls⟩

/-! ## One `setModel`, and two -/

/-- A `setModel` call. -/
def isSetModel : Call → Bool
  | .setModel _ => true
  | _ => false

theorem no_setModel_unchanged (calls : List Call) (noSetModel : calls.countP isSetModel = 0)
    (held : Option LelantusModel) :
    calls.filterMap entersModel = [] ∧ calls.foldl heldAfter held = held := by
  induction calls with
  | nil => exact ⟨rfl, rfl⟩
  | cons call calls inductionHypothesis =>
    cases call with
    | setModel model => simp [isSetModel] at noSetModel
    | exec | accept | reject =>
      simp only [List.countP_cons, isSetModel, Bool.false_eq_true, ↓reduceIte,
        Nat.add_zero] at noSetModel
      simpa [entersModel, heldAfter] using inductionHypothesis noSetModel

theorem entered_eq_final_of_single_setModel {calls : List Call}
    (single : calls.countP isSetModel ≤ 1) :
    calls.filterMap entersModel = (finalModel calls).toList := by
  induction calls with
  | nil => rfl
  | cons call calls inductionHypothesis =>
    cases call with
    | setModel model =>
      simp only [List.countP_cons, isSetModel, ↓reduceIte] at single
      obtain ⟨noneEntered, unchanged⟩ :=
        no_setModel_unchanged calls (by omega) (heldAfter none (.setModel model))
      simp only [finalModel, List.foldl_cons, unchanged, List.filterMap_cons, noneEntered]
      rcases model with _ | walletModel
      · rfl
      · cases walletModel.getLelantusModel <;> rfl
    | exec | accept | reject =>
      simp only [List.countP_cons, isSetModel, Bool.false_eq_true, ↓reduceIte,
        Nat.add_zero] at single
      simpa [finalModel, entersModel, heldAfter] using inductionHypothesis single

theorem lifetime_balanced_of_single_setModel (calls : List Call)
    (single : calls.countP isSetModel ≤ 1) :
    ∀ criticalSection, Balanced (lifetime calls) criticalSection :=
  (all_balanced_iff calls).mpr (entered_eq_final_of_single_setModel single)

/-- An unencrypted wallet model whose Lelantus model is the `id`-th one. -/
def walletWith (id : Nat) : WalletModel := ⟨some ⟨id⟩, .unencrypted⟩

theorem lifetime_balanced_of_single_setModel_example :
    [Call.setModel (some (walletWith 0)), .exec 5, .reject].countP isSetModel ≤ 1 ∧
      ∀ criticalSection,
        Balanced (lifetime [.setModel (some (walletWith 0)), .exec 5, .reject]) criticalSection :=
  ⟨by decide, lifetime_balanced_of_single_setModel _ (by decide)⟩

theorem lifetime_replaced_model_never_left :
    (lifetime [.setModel (some (walletWith 0)), .setModel (some (walletWith 1))]).count
        (.enter (.cs ⟨0⟩)) = 1 ∧
      (lifetime [.setModel (some (walletWith 0)), .setModel (some (walletWith 1))]).count
        (.leave (.cs ⟨0⟩)) = 0 := by
  decide

/-! ## Locks held over a lifetime

`ensureLelantusModel` lets a call reach the Lelantus model only when one is set, a model is
only ever set by a `setModel` that enters its `cs`, and nothing before the destructor
leaves a critical section.  `LocksHeld` is that invariant of the calls between
construction and destruction; one step lemma per call keeps it, and a run lemma carries it
over `callAll`.  Each result below says what an event `needs` held, and follows from the
run lemma (`lifetime_guarded`):

* a call into a Lelantus model needs `cs_main`, `cs_wallet` and that model's `cs`;
* entering a section needs every section ranked before it: `cs_main`, then `cs_wallet`,
  then a Lelantus model's `cs`. -/

/-- The Lelantus model an event calls into. -/
def callee : Event → Option LelantusModel
  | .getMintableAmount lelantusModel | .unlockWallet lelantusModel .. | .mintAll lelantusModel
  | .ackMintAll lelantusModel .. => some lelantusModel
  | .enter _ | .leave _ => none

/-- A critical section is held after a trace: entered more often than left. -/
def Held (trace : List Event) (criticalSection : CriticalSection) : Prop :=
  trace.count (.leave criticalSection) < trace.count (.enter criticalSection)

/-- Every event of the list comes, after `before` and the events ahead of it, with every
section `needs` names for it held. -/
def Guarded (needs : Event → CriticalSection → Prop) (before : List Event) :
    List Event → Prop
  | [] => True
  | event :: after =>
    (∀ criticalSection, needs event criticalSection → Held before criticalSection) ∧
      Guarded needs (before ++ [event]) after

/-- The locks between construction and destruction: nothing left yet, and `cs_main`,
`cs_wallet` and the held Lelantus model's `cs` entered. -/
structure LocksHeld (dialog : AutoMintDialog) (trace : List Event) : Prop where
  noLeave : ∀ criticalSection, .leave criticalSection ∉ trace
  csMain : .enter .csMain ∈ trace
  csWallet : .enter .csWallet ∈ trace
  cs : ∀ lelantusModel, dialog.lelantusModel = some lelantusModel →
    .enter (.cs lelantusModel) ∈ trace

/-- What the events of a call may need: `cs_main`, `cs_wallet`, or the `cs` of the
Lelantus model the dialog held before the call. -/
def NeedsOnlyHeld (needs : Event → CriticalSection → Prop) (dialog : AutoMintDialog)
    (events : List Event) : Prop :=
  ∀ event ∈ events, ∀ criticalSection, needs event criticalSection →
    criticalSection = .csMain ∨ criticalSection = .csWallet ∨
      ∃ lelantusModel, dialog.lelantusModel = some lelantusModel ∧
        criticalSection = .cs lelantusModel

theorem held_of_mem {trace : List Event} {criticalSection : CriticalSection}
    (noLeave : .leave criticalSection ∉ trace) (entered : .enter criticalSection ∈ trace) :
    Held trace criticalSection := by
  rw [Held, List.count_eq_zero_of_not_mem noLeave]
  exact List.count_pos_iff.mpr entered

theorem LocksHeld.append {dialog : AutoMintDialog} {trace events : List Event}
    (held : LocksHeld dialog trace)
    (noLeave : ∀ criticalSection, .leave criticalSection ∉ events) :
    LocksHeld dialog (trace ++ events) where
  noLeave criticalSection member :=
    (List.mem_append.mp member).elim (held.noLeave criticalSection) (noLeave criticalSection)
  csMain := List.mem_append_left _ held.csMain
  csWallet := List.mem_append_left _ held.csWallet
  cs lelantusModel holding := List.mem_append_left _ (held.cs lelantusModel holding)

/-! ### What one call does to the locks -/

theorem call_no_leave (dialog : AutoMintDialog) (next : Call) (criticalSection : CriticalSection) :
    .leave criticalSection ∉ (dialog.call next).2 := by
  intro member
  have locked : Event.leave criticalSection ∈ lockEvents (dialog.call next).2 :=
    List.mem_filter.mpr ⟨member, rfl⟩
  rw [call_lockEvents] at locked
  obtain ⟨_, _, entered⟩ := List.mem_map.mp locked
  cases entered

/-- The only sections a call enters are Lelantus models' `cs`. -/
theorem call_enters (dialog : AutoMintDialog) (next : Call) (criticalSection : CriticalSection)
    (member : .enter criticalSection ∈ (dialog.call next).2) :
    ∃ lelantusModel, criticalSection = .cs lelantusModel := by
  have locked : Event.enter criticalSection ∈ lockEvents (dialog.call next).2 :=
    List.mem_filter.mpr ⟨member, rfl⟩
  rw [call_lockEvents] at locked
  obtain ⟨lelantusModel, _, entered⟩ := List.mem_map.mp locked
  cases entered
  exact ⟨lelantusModel, rfl⟩

/-- A call reaches only the Lelantus model the dialog held before it. -/
theorem call_callee (dialog : AutoMintDialog) (next : Call) :
    ∀ event ∈ (dialog.call next).2, ∀ lelantusModel, callee event = some lelantusModel →
      dialog.lelantusModel = some lelantusModel := by
  intro event member lelantusModel calling
  cases next with
  | setModel model =>
    rcases model with _ | walletModel
    · cases member
    · simp only [AutoMintDialog.call, setModel] at member
      split at member
      · cases member
      · obtain rfl := List.mem_singleton.mp member
        cases calling
  | exec | accept | reject =>
    -- each calls only into the model `ensureLelantusModel` returned
    rcases held : dialog.lelantusModel with _ | heldModel <;>
    simp only [AutoMintDialog.call, exec, accept, reject, ensureLelantusModel, held] at member <;>
    repeat' split at member
    all_goals
      simp only [List.mem_append, List.mem_cons, List.mem_singleton, List.not_mem_nil,
        or_false, false_or] at member <;>
      rcases member with rfl | rfl | rfl <;> cases calling <;> rfl

/-- The model a dialog holds after a call it held before, or the call entered its `cs`. -/
theorem call_cs_entered (dialog : AutoMintDialog) (next : Call) (lelantusModel : LelantusModel)
    (holding : (dialog.call next).1.lelantusModel = some lelantusModel) :
    dialog.lelantusModel = some lelantusModel ∨ .enter (.cs lelantusModel) ∈ (dialog.call next).2 := by
  rw [call_lelantusModel] at holding
  cases next with
  | setModel model =>
    rcases model with _ | walletModel
    · exact .inl holding
    · right
      simp only [heldAfter] at holding
      simp [AutoMintDialog.call, setModel, holding]
  | exec | accept | reject => exact .inl holding

section Guarded

variable {needs : Event → CriticalSection → Prop}

theorem guarded_append (before events events' : List Event) :
    Guarded needs before (events ++ events') ↔
      Guarded needs before events ∧ Guarded needs (before ++ events) events' := by
  induction events generalizing before with
  | nil => simp [Guarded]
  | cons event events inductionHypothesis =>
    rw [List.cons_append, Guarded, Guarded, inductionHypothesis, and_assoc,
      List.append_assoc, List.singleton_append]

theorem guarded_of_needs_nothing (before : List Event) {events : List Event}
    (nothing : ∀ event ∈ events, ∀ criticalSection, ¬needs event criticalSection) :
    Guarded needs before events := by
  induction events generalizing before with
  | nil => trivial
  | cons event events inductionHypothesis =>
    exact ⟨fun criticalSection needed =>
        absurd needed (nothing event (List.mem_cons_self _ _) criticalSection),
      inductionHypothesis _ fun later member => nothing later (List.mem_cons_of_mem _ member)⟩

/-- Under `LocksHeld`, events that leave nothing and need only what is held are guarded. -/
theorem guarded_of_locksHeld {dialog : AutoMintDialog} {trace events : List Event}
    (held : LocksHeld dialog trace)
    (noLeave : ∀ criticalSection, .leave criticalSection ∉ events)
    (covered : NeedsOnlyHeld needs dialog events) : Guarded needs trace events := by
  induction events generalizing trace with
  | nil => trivial
  | cons event events inductionHypothesis =>
    refine ⟨fun criticalSection needed => ?_, inductionHypothesis (held.append ?_) ?_ ?_⟩
    · rcases covered event (List.mem_cons_self _ _) criticalSection needed with
        rfl | rfl | ⟨lelantusModel, holding, rfl⟩
      · exact held_of_mem (held.noLeave _) held.csMain
      · exact held_of_mem (held.noLeave _) held.csWallet
      · exact held_of_mem (held.noLeave _) (held.cs lelantusModel holding)
    · intro criticalSection member
      obtain rfl := List.mem_singleton.mp member
      exact noLeave criticalSection (List.mem_cons_self _ _)
    · exact fun criticalSection member => noLeave criticalSection (List.mem_cons_of_mem _ member)
    · exact fun later member => covered later (List.mem_cons_of_mem _ member)

/-! ### Runs of calls -/

theorem call_locksHeld {dialog : AutoMintDialog} {trace : List Event}
    (held : LocksHeld dialog trace) (next : Call)
    (covered : NeedsOnlyHeld needs dialog (dialog.call next).2) :
    Guarded needs trace (dialog.call next).2 ∧
      LocksHeld (dialog.call next).1 (trace ++ (dialog.call next).2) := by
  have noLeave := call_no_leave dialog next
  refine ⟨guarded_of_locksHeld held noLeave covered, ?_⟩
  have appended := held.append noLeave
  refine ⟨appended.noLeave, appended.csMain, appended.csWallet, fun lelantusModel holding => ?_⟩
  rcases call_cs_entered dialog next lelantusModel holding with before | entered
  · exact appended.cs lelantusModel before
  · exact List.mem_append_right _ entered

theorem callAll_locksHeld {dialog : AutoMintDialog} {trace : List Event}
    (covered : ∀ (dialog : AutoMintDialog) next,
      NeedsOnlyHeld needs dialog (dialog.call next).2)
    (held : LocksHeld dialog trace) (calls : List Call) :
    Guarded needs trace (dialog.callAll calls).2 ∧
      LocksHeld (dialog.callAll calls).1 (trace ++ (dialog.callAll calls).2) := by
  induction calls generalizing dialog trace with
  | nil => exact ⟨trivial, by simpa [callAll] using held⟩
  | cons next calls inductionHypothesis =>
    obtain ⟨guardedFirst, heldFirst⟩ := call_locksHeld held next (covered dialog next)
    obtain ⟨guardedRest, heldRest⟩ := inductionHypothesis heldFirst
    rw [callAll, guarded_append, ← List.append_assoc]
    exact ⟨⟨guardedFirst, guardedRest⟩, heldRest⟩

theorem destroy_needs_nothing
    (leaves : ∀ criticalSection event, needs (.leave criticalSection) event → False)
    (dialog : AutoMintDialog) :
    ∀ event ∈ dialog.destroy, ∀ criticalSection, ¬needs event criticalSection := by
  intro event member criticalSection
  simp only [destroy] at member
  split at member <;>
  simp only [List.cons_append, List.nil_append, List.mem_cons, List.mem_singleton,
    List.not_mem_nil, or_false] at member <;>
  rcases member with rfl | rfl | rfl <;> exact leaves _ criticalSection

/-- A whole lifetime is guarded when the constructor's events are, what the calls need is
held, and the destructor's leaves need nothing. -/
theorem lifetime_guarded (calls : List Call)
    (constructed : Guarded needs [] construct.2)
    (covered : ∀ (dialog : AutoMintDialog) next,
      NeedsOnlyHeld needs dialog (dialog.call next).2)
    (leaves : ∀ criticalSection event, needs (.leave criticalSection) event → False) :
    Guarded needs [] (lifetime calls) := by
  have held : LocksHeld construct.1 construct.2 :=
    ⟨by simp [construct], List.mem_cons_self _ _, List.mem_cons_of_mem _ (List.mem_cons_self _ _),
      fun _ unset => by cases unset⟩
  rw [lifetime, guarded_append, guarded_append]
  exact ⟨⟨constructed, (callAll_locksHeld covered held calls).1⟩,
    guarded_of_needs_nothing _ (destroy_needs_nothing leaves _)⟩

end Guarded

/-! ### Calls into the Lelantus model -/

/-- A call into a Lelantus model needs `cs_main`, `cs_wallet` and that model's `cs`. -/
def callNeeds (event : Event) (criticalSection : CriticalSection) : Prop :=
  ∃ lelantusModel, callee event = some lelantusModel ∧
    (criticalSection = .csMain ∨ criticalSection = .csWallet ∨
      criticalSection = .cs lelantusModel)

theorem callNeeds_only_held (dialog : AutoMintDialog) (next : Call) :
    NeedsOnlyHeld callNeeds dialog (dialog.call next).2 := by
  rintro event member criticalSection ⟨lelantusModel, calling, rfl | rfl | rfl⟩
  · exact .inl rfl
  · exact .inr (.inl rfl)
  · exact .inr (.inr ⟨lelantusModel, call_callee dialog next event member lelantusModel calling, rfl⟩)

/-- Every call into a Lelantus model made over a dialog's life is made while `cs_main`,
`cs_wallet` and that model's `cs` are held. -/
theorem lifetime_calls_under_locks (calls : List Call) (before after : List Event)
    (event : Event) (lelantusModel : LelantusModel)
    (split : lifetime calls = before ++ event :: after)
    (calling : callee event = some lelantusModel) :
    Held before .csMain ∧ Held before .csWallet ∧ Held before (.cs lelantusModel) := by
  have guarded := lifetime_guarded calls
    (guarded_of_needs_nothing _ fun _ member _ ⟨_, calling, _⟩ => by
      simp only [construct, List.mem_cons, List.mem_singleton, List.not_mem_nil, or_false]
        at member
      rcases member with rfl | rfl <;> cases calling)
    callNeeds_only_held fun _ _ ⟨_, calling, _⟩ => by cases calling
  rw [split, guarded_append] at guarded
  have needed := guarded.2.1
  exact ⟨needed _ ⟨lelantusModel, calling, .inl rfl⟩,
    needed _ ⟨lelantusModel, calling, .inr (.inl rfl)⟩,
    needed _ ⟨lelantusModel, calling, .inr (.inr rfl)⟩⟩

theorem lifetime_calls_under_locks_exec :
    lifetime [.setModel (some (walletWith 0)), .exec 0] =
        [.enter .csMain, .enter .csWallet, .enter (.cs ⟨0⟩)] ++
          .getMintableAmount ⟨0⟩ :: [.ackMintAll ⟨0⟩ .notEnoughFund 0 "",
            .leave (.cs ⟨0⟩), .leave .csWallet, .leave .csMain] ∧
      callee (.getMintableAmount ⟨0⟩) = some ⟨0⟩ ∧
      Held [.enter .csMain, .enter .csWallet, .enter (.cs ⟨0⟩)] .csMain ∧
      Held [.enter .csMain, .enter .csWallet, .enter (.cs ⟨0⟩)] .csWallet ∧
      Held [.enter .csMain, .enter .csWallet, .enter (.cs ⟨0⟩)] (.cs ⟨0⟩) :=
  ⟨rfl, rfl, lifetime_calls_under_locks [.setModel (some (walletWith 0)), .exec 0] _
    [.ackMintAll ⟨0⟩ .notEnoughFund 0 "", .leave (.cs ⟨0⟩), .leave .csWallet, .leave .csMain]
    (.getMintableAmount ⟨0⟩) ⟨0⟩ rfl rfl⟩

/-! ### The order locks are taken in -/

/-- The order the dialog takes its locks in: `cs_main`, `cs_wallet`, then a Lelantus
model's `cs`. -/
def rank : CriticalSection → Nat
  | .csMain => 0
  | .csWallet => 1
  | .cs _ => 2

/-- Entering a critical section needs every section ranked before it. -/
def enterNeeds (event : Event) (lower : CriticalSection) : Prop :=
  ∃ criticalSection, event = .enter criticalSection ∧ rank lower < rank criticalSection

theorem enterNeeds_only_held (dialog : AutoMintDialog) (next : Call) :
    NeedsOnlyHeld enterNeeds dialog (dialog.call next).2 := by
  rintro _ member lower ⟨criticalSection, rfl, ranked⟩
  obtain ⟨lelantusModel, rfl⟩ := call_enters dialog next criticalSection member
  cases lower with
  | csMain => exact .inl rfl
  | csWallet => exact .inr (.inl rfl)
  | cs => exact absurd ranked (Nat.lt_irrefl 2)

/-- The dialog enters `cs_wallet` only while holding `cs_main`, and a Lelantus model's
`cs` only while holding both.  `rank` gives every Lelantus model's `cs` the same place, so
the order between two models' sections is not fixed: two `setModel` calls with different
models take them in the order of the calls, either way round. -/
theorem lifetime_lock_order (calls : List Call) (before after : List Event)
    (criticalSection lower : CriticalSection)
    (split : lifetime calls = before ++ .enter criticalSection :: after)
    (ranked : rank lower < rank criticalSection) : Held before lower := by
  have constructed : Guarded enterNeeds [] construct.2 := by
    refine ⟨?_, ?_, trivial⟩
    · rintro lower ⟨_, entered, ranked⟩
      cases entered
      exact absurd ranked (Nat.not_lt_zero _)
    · rintro lower ⟨_, entered, ranked⟩
      cases entered
      cases lower with
      | csMain => exact held_of_mem (by simp) (by simp)
      | csWallet => exact absurd ranked (Nat.lt_irrefl 1)
      | cs => exact absurd ranked (by decide : ¬2 < 1)
  have guarded := lifetime_guarded calls constructed enterNeeds_only_held
    fun _ _ ⟨_, entered, _⟩ => by cases entered
  rw [split, guarded_append] at guarded
  exact guarded.2.1 lower ⟨criticalSection, rfl, ranked⟩

theorem lifetime_lock_order_setModel :
    lifetime [.setModel (some (walletWith 0))] =
        [.enter .csMain, .enter .csWallet] ++
          .enter (.cs ⟨0⟩) :: [.leave (.cs ⟨0⟩), .leave .csWallet, .leave .csMain] ∧
      rank .csWallet < rank (.cs ⟨0⟩) ∧ Held [.enter .csMain, .enter .csWallet] .csWallet :=
  ⟨rfl, by decide, lifetime_lock_order [.setModel (some (walletWith 0))] _
    [.leave (.cs ⟨0⟩), .leave .csWallet, .leave .csMain] (.cs ⟨0⟩) .csWallet rfl (by decide)⟩

end Firo.Verified.AutoMintLocks
