import TuiChat.Client.Contacts
import TuiChat.Verify.Scenario

/-!
# The bundles of the contacts

`handle_sync_batch` writes the bundle that the server gives for a sender, and asks `validate_bundle` afterwards; a
bootstrap transfer is imported without being asked about. Where these bundles would have passed, every bundle that is
stored or selected passes (`contacts_valid`); where one does not, the row of a verified contact is left with it
(`sender_bundle_stored`).
-/

namespace TuiChat

open Lib

variable {P : Primitives} {env : Environment} {profile : RuntimeProfile P} {w : World P}

/-- A first start has no contacts. -/
theorem World.ContactsValid.ofProfile (profile : RuntimeProfile P) : (World.ofProfile profile).ContactsValid where
  stored row hrow := absurd hrow (Table.not_mem_empty row)
  listed _ hc := absurd hc List.not_mem_nil

/-- The contacts of every run in which `ActionValid` holds of every action are valid. -/
theorem reachable_contactsValid (h : (clientSystem env profile).ReachableUnder (ActionValid env) w) :
    w.ContactsValid := by
  refine h.invariant (fun w hw => ?_) fun w action w' hw hvalid hstep => ?_
  · rw [show w = .ofProfile profile from hw]
    exact .ofProfile profile
  · obtain rfl : w.after env action = w' := Option.some.inj hstep
    have hkeeps : KeepsContacts w (w.after env action) := Prog.wp_state.1 (runAction_keeps hvalid)
    exact hkeeps hw

theorem reachableUnder_after {C : World P → Action → Prop} (h : (clientSystem env profile).ReachableUnder C w)
    (action : Action) (hC : C w action) : (clientSystem env profile).ReachableUnder C (w.after env action) :=
  .step h hC rfl

/-- A frame with a batch is asked about its envelopes. -/
theorem reachableUnder_batch (f : Frame) (batch : SyncBatch)
    (h : (clientSystem env profile).ReachableUnder (ActionValid env) w) (hbody : f.body = some (.syncBatch batch))
    (hbatch : AtBatch env (SenderValid env) f batch w) :
    (clientSystem env profile).ReachableUnder (ActionValid env) (w.after env (.serverEvent f)) := by
  refine reachableUnder_after h _ ?_
  show BundlesValid env w f
  unfold BundlesValid
  rw [hbody]
  exact hbatch

/-- In every run in which the bundles that are written unchecked would pass, every stored bundle passes, and that of
the selected contact does, which is what `send_text` asks. -/
theorem contacts_valid (h : (clientSystem env profile).ReachableUnder (ActionValid env) w) :
    (∀ row ∈ w.store.contacts, row.bundle.Valid P) ∧
      ∀ contact, w.app.selectedContact = some contact → contact.bundle.Valid P := by
  have hvalid := reachable_contactsValid h
  exact ⟨hvalid.stored, fun contact hc => hvalid.listed contact (App.selectedContact_mem hc)⟩

namespace Scenario.SpoiledContact

def alice : RuntimeProfile primitives := firstDevice "alice" "a1" 1 2

def bob : UserBundle := bundle "bob" 5 [("b1", 6)]

/-- The server adds a device of its own, without a certificate of Bob's master key. -/
def tampered : UserBundle :=
  { bob with devices := bob.devices ++ [{ device "bob" "b2" 5 7 with certificateSignature := [] }] }

def receipt (id : String) : WirePayload := payload "read_batch" id "bob" "alice" "" ["0"]

/-- What the directory gives for Bob changes at a moment. -/
def outside (late : UserBundle) : Environment :=
  environment (fun n => [bundle "alice" 1 [("a1", 2)], if n < 16 then bob else late]) [receipt "1", receipt "2"]

def batchOf (cursor : Nat) (id : String) : SyncBatch :=
  { envelopes := [envelope cursor "b1" "c" 6 "a1" (receipt id)]
    nextCursor := cursor
    hasMore := false
    deliveryUpdates := []
    nextStatusCursor := 0 }

def first : Frame := frame "" (.syncBatch (batchOf 1 "1"))

def second : Frame := frame "" (.syncBatch (batchOf 2 "2"))

/-- Alice has a receipt of Bob's and has compared the safety code. -/
def verified (late : UserBundle) : World primitives :=
  (World.ofProfile alice).afterAll (outside late) [.serverEvent first, .selectIndex 0, .verifySelected]

/-- Another receipt comes. -/
def received (late : UserBundle) : World primitives := (verified late).after (outside late) (.serverEvent second)

/-- Where the bundle stays the one that was compared, it is stored and may be sent to. -/
theorem contacts_valid_honest :
    (received bob).store.contacts.rows.map (fun row => (row.bundle, row.verified)) = [(bob, true)] ∧
      (∀ row ∈ (received bob).store.contacts, row.bundle.Valid primitives) ∧
      ∀ contact, (received bob).app.selectedContact = some contact → contact.bundle.Valid primitives := by
  have hstart : (clientSystem (outside bob) alice).ReachableUnder (ActionValid (outside bob)) (.ofProfile alice) :=
    .init rfl
  have hfirst := reachableUnder_batch first (batchOf 1 "1") hstart rfl (by decide +kernel)
  have hverified : (clientSystem (outside bob) alice).ReachableUnder (ActionValid (outside bob)) (verified bob) :=
    reachableUnder_after (reachableUnder_after hfirst (.selectIndex 0) trivial) .verifySelected trivial
  have hreceived : (clientSystem (outside bob) alice).ReachableUnder (ActionValid (outside bob)) (received bob) :=
    reachableUnder_batch second (batchOf 2 "2") hverified rfl (by decide +kernel)
  have hvalid := contacts_valid hreceived
  exact ⟨by decide +kernel, hvalid⟩

/-- The error by which an action ends. -/
def failure (env : Environment) (action : Action) (w : World primitives) : Option Error :=
  match (runAction env action).exec w with
  | (.ok _, _) => none
  | (.error e, _) => some e

/-- The row of the contact that was compared is given the bundle that fails, and from the next start on nothing can be
sent to Bob. -/
theorem sender_bundle_stored :
    (clientSystem (outside tampered) alice).Reachable (received tampered) ∧
      (verified tampered).store.contacts.find "bob" =
        some { bundle := bob, verified := true, identityChanged := false } ∧
      bob.Valid primitives ∧ ¬ tampered.Valid primitives ∧
      (received tampered).store.contacts.find "bob" =
        some { bundle := tampered, verified := true, identityChanged := false } ∧
      failure (outside tampered) (.sendText "hello")
          ((received tampered).afterAll (outside tampered) [.restart, .selectIndex 0]) =
        some "invalid device certificate" := by
  refine ⟨.step (reachable_ofProfile _ _ _) trivial rfl, ?_, ?_, ?_, ?_, ?_⟩ <;> decide +kernel

end Scenario.SpoiledContact

end TuiChat
