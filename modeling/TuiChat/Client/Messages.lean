import TuiChat.Client.Records

/-!
# What leaves the messages alone

Most of what follows a frame of the server touches neither the loaded messages nor the rows of `messages` that are
there (`Retains`): it leaves contacts and messages as they are, writes contacts, or stores further messages.
-/

namespace TuiChat

open Lib
open Lib.Prog (Moves wp)

variable {P : Primitives} {env : Environment}

/-- The loaded messages are the same, and rows that are stored stay. -/
structure KeepsMessages (w w' : World P) : Prop where
  loaded : w'.app.messages = w.app.messages
  stored : ∀ id m, w.store.messages.find id = some m → w'.store.messages.find id = some m

instance : Std.Refl (KeepsMessages (P := P)) := ⟨fun _ => ⟨rfl, fun _ _ h => h⟩⟩

instance : IsTrans (World P) KeepsMessages :=
  ⟨fun _ _ _ h h' => ⟨h'.loaded.trans h.loaded, fun id m hm => h'.stored id m (h.stored id m hm)⟩⟩

/-- Every run of `m` leaves the messages alone. -/
abbrev Retains {α : Type} (m : ClientM P α) : Prop := Moves KeepsMessages m

namespace KeepsMessages

variable {w w' w'' : World P}

theorem trans (h : KeepsMessages w w') (h' : KeepsMessages w' w'') : KeepsMessages w w'' :=
  IsTrans.trans _ _ _ h h'

theorem of_eq (hloaded : w'.app.messages = w.app.messages) (hstored : w'.store.messages = w.store.messages) :
    KeepsMessages w w' := by
  constructor
  · exact hloaded
  · intro id m hm
    rw [hstored]
    exact hm

end KeepsMessages

instance : OfRecords (KeepsMessages (P := P)) := ⟨fun _ _ h => .of_eq h.loaded h.messages⟩

/-- A transaction that stores what was stored. -/
theorem executeRecording_retains {f : World P → Option (Store P)} {events : World P → List Event}
    (h : ∀ w store, f w = some store → ∀ id m, w.store.messages.find id = some m → store.messages.find id = some m) :
    Retains (executeRecording env f events) :=
  .of_wp fun w => wp_executeRecording (fun _ => .of_eq rfl rfl) fun store hs => ⟨rfl, h w.ticked store hs⟩

theorem execute_retains {f : Store P → Store P} (h : ∀ s : Store P, (f s).messages = s.messages) :
    Retains (execute env fun s => some (f s)) :=
  executeRecording_retains fun w store hs id m hm => by
    cases hs
    rw [h]
    exact hm

/-! ## The contact list -/

theorem upsertContact_retains (bundle : UserBundle) : Retains (upsertContact env bundle : ClientM P Contact) := by
  refine .past (query_leaves _) fun old => .bind (executeRecording_retains fun w store hs id m hm => ?_)
    fun _ => .past (query_leaves _) fun _ => .orFail _ _
  rw [Store.putContact_eq hs]
  exact hm

theorem loadContacts_retains : Retains (loadContacts env : ClientM P Unit) :=
  .past (attempt_leaves _) fun _ => .modify fun _ => .of_eq rfl rfl

theorem loadContactsSelecting_retains (account : Option String) :
    Retains (loadContactsSelecting env account : ClientM P Unit) :=
  .past (attempt_leaves _) fun _ => .modify fun _ => .of_eq rfl rfl

theorem refreshContactsPreserveSelection_retains : Retains (refreshContactsPreserveSelection env : ClientM P Unit) :=
  .past (getApp_leaves _) fun _ => loadContactsSelecting_retains _

/-! ## Pairing events -/

theorem handleBootstrap_retains (event : PairingEvent) : Retains (handleBootstrap env event : ClientM P Unit) := by
  refine .past (getApp_leaves _) fun _ => .bind (.orFail _ _) fun pairing => .bind (.ensure _ _) fun _ => ?_
  refine .bind (.ofExcept _) fun _ => .bind (.orFail _ _) fun transfer => .past (getApp_leaves _) fun _ => ?_
  refine .bind (.ensure _ _) fun _ => .past (record_leaves _) fun _ =>
    .bind (.modify fun _ => .of_eq rfl rfl) fun _ => ?_
  refine .bind ?_ fun _ => .bind loadContacts_retains fun _ => .past (getApp_leaves _) fun _ =>
    .bind (execute_retains fun _ => rfl) fun _ => .of_leaves (setStatus_leaves _)
  refine executeRecording_retains fun w store hs id m hm => ?_
  rw [importContacts_eq hs]
  exact hm

theorem handleHistoryChunk_retains (event : PairingEvent) :
    Retains (handleHistoryChunk env event : ClientM P Unit) := by
  refine .past (getApp_leaves _) fun _ => .bind (.orFail _ _) fun pairing => .bind (.ofExcept _) fun _ => ?_
  refine .bind (.orFail _ _) fun transfer => .bind (.each fun message _ => ?_) fun _ => .of_leaves (setStatus_leaves _)
  exact executeRecording_retains fun w store hs id m hm => Store.find_insertMessage hs hm

theorem handlePairingEvent_retains (event : PairingEvent) :
    Retains (handlePairingEvent env event : ClientM P Unit) := by
  refine .past (getApp_leaves _) fun _ => .ite (fun _ => .of_leaves (handleSasPublic_leaves event)) fun _ => ?_
  refine .ite (fun _ => .of_leaves (handleSasConfirmed_leaves event)) fun _ => ?_
  refine .ite (fun _ => handleBootstrap_retains event) fun _ => ?_
  refine .ite (fun _ => handleHistoryChunk_retains event) fun _ => ?_
  refine .ite (fun _ => .of_leaves (setStatus_leaves _)) fun _ => ?_
  exact .ite (fun _ => .of_leaves (handleDeviceActivated_leaves event)) fun _ => .pure _

theorem handleNumberedPairingEvent_retains (event : PairingEvent) :
    Retains (handleNumberedPairingEvent env event : ClientM P Unit) := by
  refine .ite (fun _ => handlePairingEvent_retains event) fun _ => .past (query_leaves _) fun processed => ?_
  extract_lets jp
  have hjp : ∀ u, Retains (jp u) := fun _ => .of_leaves (sendFrame_leaves _)
  refine .ite (fun _ => hjp ()) fun _ => .bind (handlePairingEvent_retains event) fun _ => .bind ?_ hjp
  refine executeRecording_retains fun w store hs id m hm => ?_
  cases hs
  unfold Store.markPairingEventProcessed
  split
  · exact hm
  · exact hm

end TuiChat
