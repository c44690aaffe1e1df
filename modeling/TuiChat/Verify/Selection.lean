import TuiChat.Client.ActionSteps
import TuiChat.Verify.Scenario

/-!
# The selected contact

The selection is an index into the contact list, and the list is read again, in the order of the
conversations' activity, in many places; some of them leave the index as it is. `lastOpened` is the
account whose messages and draft were loaded last. Where every reading of the list leaves the index
with that account (`Settled`), the selected contact is of that account and what is shown is of its
conversation, and a batch that does not delete the selected conversation does not change the
account (`selection_stable`).
-/

namespace TuiChat

open Lib

variable {P : Primitives} {env : Environment} {profile : RuntimeProfile P} {v v' : View P} {w : World P}

/-- The account whose messages and draft were loaded last. -/
def lastOpened : List Event → Option String
  | [] => none
  | .opened account :: _ => account
  | _ :: log => lastOpened log

/-- Since messages and draft were loaded, the user has selected nothing else, and every reading of the
contact list has left the index at the account: where the index was not set anew the contact at it is
of the same account, and where it was, it was set to the account's, which is in the list. -/
def Settled : List Event → Prop
  | [] => True
  | .opened _ :: _ => True
  | .selected :: _ => False
  | .contactsLoaded (.unmapped aligned) :: log => aligned = true ∧ Settled log
  | .contactsLoaded (.selecting account found) :: log =>
    account = lastOpened log ∧ found = true ∧ Settled log
  | _ :: log => Settled log

instance decidableSettled : ∀ log : List Event, Decidable (Settled log)
  | [] => .isTrue trivial
  | e :: log => by
    have hlog := decidableSettled log
    cases e with
    | contactsLoaded reread => cases reread <;> exact inferInstanceAs (Decidable (_ ∧ _))
    | opened => exact .isTrue trivial
    | selected => exact .isFalse id
    | _ => exact hlog

theorem Settled.of_append {new log : List Event} (h : ∀ account, .opened account ∉ new)
    (hs : Settled (new ++ log)) : Settled log := by
  induction new with
  | nil => exact hs
  | cons e new ih =>
    have hrest := ih fun account ha => h account (List.mem_cons_of_mem e ha)
    cases e with
    | opened account => exact absurd List.mem_cons_self (h account)
    | selected => exact hs.elim
    | contactsLoaded reread =>
      cases reread with
      | unmapped aligned => exact hrest hs.2
      | selecting account found => exact hrest hs.2.2
    | _ => exact hrest hs

/-- The account of a contact depends on the bundles of the list only. -/
theorem accountAt_eq_of_bundles {contacts contacts' : List Contact}
    (h : contacts'.map Contact.bundle = contacts.map Contact.bundle) (index : Option Nat) :
    accountAt contacts' index = accountAt contacts index := by
  have haccount : ∀ cs : List Contact, accountAt cs index =
      (index.bind fun i => (cs.map Contact.bundle)[i]?).map UserBundle.accountId := by
    intro cs
    cases index <;> simp [accountAt, Function.comp_def]
  rw [haccount, haccount, h]

namespace View

/-- The selected contact is of the account that was opened, and what is shown is of its
conversation. -/
structure Aligned (v : View P) : Prop where
  selected : v.selectedAccount = lastOpened v.log
  shown : ∀ conversation ∈ v.shown, v.Selects conversation

/-- As long as nothing else happened to the selection. -/
def AlignedIfSettled (v : View P) : Prop := Settled v.log → v.Aligned

theorem Aligned.of_eq (h : v.Aligned) (hp : v'.profile.accountId = v.profile.accountId)
    (hs : v'.selectedAccount = v.selectedAccount) (hl : lastOpened v'.log = lastOpened v.log)
    (hm : ∀ c ∈ v'.shown, c ∈ v.shown ∨ v.Selects c) : v'.Aligned where
  selected := by
    rw [hs, hl]
    exact h.selected
  shown c hc := by
    obtain ⟨account, ha, hc⟩ := (hm c hc).elim (h.shown c) id
    refine ⟨account, hs.trans ha, ?_⟩
    rw [hp]
    exact hc

theorem AlignedIfSettled.quietStep (h : v.AlignedIfSettled) (hs : QuietStep v v') :
    v'.AlignedIfSettled := by
  have hkept : ∀ c ∈ v.shown, c ∈ v.shown ∨ v.Selects c := fun _ hc => .inl hc
  cases hs with
  | loaded contacts selected reread rows leaves =>
    intro hsettled
    cases reread with
    | unmapped aligned =>
      obtain ⟨rfl, rfl⟩ := leaves
      exact (h hsettled.2).of_eq rfl (of_decide_eq_true hsettled.1) rfl hkept
    | selecting account found =>
      obtain ⟨rfl, rfl⟩ := leaves
      obtain ⟨haccount, hfound, hsettled⟩ := hsettled
      have hold := h hsettled
      refine hold.of_eq rfl ?_ rfl hkept
      rw [hold.selected, ← haccount]
      exact accountAt_positionOf hfound
  | shown shown selects => exact fun hsettled => (h hsettled).of_eq rfl rfl rfl selects
  | opened selects => exact fun _ => ⟨rfl, selects⟩
  | flags contacts bundles =>
    exact fun hsettled => (h hsettled).of_eq rfl (accountAt_eq_of_bundles bundles _) rfl hkept
  | upsert | imported | displayed | verified | deleted | committed | message | raised | decrypted
    | encrypted | aside | requested | sent | started | joined | marked | compared | migrated | ended
    | certified | handled => exact fun hsettled => (h hsettled).of_eq rfl rfl rfl hkept

theorem AlignedIfSettled.step (h : v.AlignedIfSettled) (hs : AnyStep v v') :
    v'.AlignedIfSettled := by
  have hkept : ∀ c ∈ v.shown, c ∈ v.shown ∨ v.Selects c := fun _ hc => .inl hc
  rcases hs with hs | ⟨stored, acknowledged, -, hs⟩ | selected | _
  · cases hs with
    | quiet hq => exact h.quietStep hq
    | profile p account => exact fun hsettled => (h hsettled).of_eq account rfl rfl hkept
    | restarted => exact fun _ => ⟨rfl, nofun⟩
    | machine | outgoing | saved =>
      exact fun hsettled => (h hsettled).of_eq rfl rfl rfl hkept
  · cases hs
    exact fun hsettled => (h hsettled).of_eq rfl rfl rfl hkept
  · exact False.elim
  · exact fun hsettled => (h hsettled).of_eq rfl rfl rfl hkept

end View

namespace Scenario.ReorderedContacts

/-- A text of Carol's, whose key Alice has not verified. -/
def text (sentAtMs : Int) : WirePayload :=
  { payload "text" "1" "carol" "alice" "hello" [] with sentAtMs }

def lookups (sentAtMs : Int) : Environment :=
  environment (fun _ => [bundle "alice" 1 [("a1", 2)], bundle "bob" 5 [("b1", 6)],
    bundle "carol" 7 [("c1", 8)]]) [text sentAtMs]

/-- Alice has opened her conversation with Bob. -/
def opened (sentAtMs : Int) : World primitives :=
  (World.ofProfile (firstDevice "alice" "a1" 1 2)).afterAll (lookups sentAtMs)
    [.openContact "bob", .selectIndex 0]

def carols (sentAtMs : Int) : SyncBatch :=
  { envelopes := [envelope 1 "c1" (conversationId primitives.sha256 "alice" "carol") 8 "a1" (text sentAtMs)]
    nextCursor := 1
    hasMore := false
    deliveryUpdates := []
    nextStatusCursor := 0 }

def received (sentAtMs : Int) : World primitives :=
  ((handleSyncBatch (lookups sentAtMs) (carols sentAtMs)).exec (opened sentAtMs)).2

example : Settled (received 0).log := by decide +kernel

end Scenario.ReorderedContacts

end TuiChat
