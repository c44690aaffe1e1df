import TuiChat.Client.Effects
import TuiChat.Verify.Scenario

/-!
# The key under a verified mark

`upsert_contact` decides from the row it finds under the user name and writes the row of the account id.
Where the two differ, the unique user name stops the statement; so whatever bundles a server returns, a
row that is marked verified has the key it had when the mark was set (`verified_mark_keeps_key`).
-/

namespace TuiChat

open Lib
open Lib.Prog (Moves wp)

variable {P : Primitives} {env : Environment}

/-- The calls that write contact rows. -/
inductive ContactCall
  | upsertContact (bundle : UserBundle)
  | verifyContact (accountId : String)
  | importContacts (contacts : List TransferContact)
  | deleteConversationState (peerAccountId conversationId : String)

/-- The key that the row of each account contained when it was last marked verified. -/
abbrev Marks := String → Option Bytes

namespace Marks

def set (marks : Marks) (bundle : UserBundle) : Marks :=
  Function.update marks bundle.accountId (some bundle.accountMasterKey)

/-- The mark that `verify_contact` sets on a row. -/
def verifying (marks : Marks) (rows : Table ContactRow.accountId) (accountId : String) : Marks :=
  ((rows.find accountId).map fun row => marks.set row.bundle).getD marks

/-- The marks that a transfer brings. -/
def importing (marks : Marks) (contacts : List TransferContact) : Marks :=
  contacts.foldl (fun marks c => if c.verified then marks.set c.bundle else marks) marks

end Marks

/-- The statement of a call, if no constraint stops it. -/
def Store.call (s : Store P) : ContactCall → Option (Store P)
  | .upsertContact bundle => s.putContact (upsertRow (s.rowByUsername bundle.username) bundle)
  | .verifyContact accountId => some (s.verifyContact accountId)
  | .importContacts contacts => s.importContacts contacts
  | .deleteConversationState peer conversation => some (s.deleteConversationState peer conversation)

/-- The marks after a call on a store. -/
def Marks.call (marks : Marks) (s : Store P) : ContactCall → Marks
  | .verifyContact accountId => marks.verifying s.contacts accountId
  | .importContacts contacts => marks.importing contacts
  | .upsertContact _ | .deleteConversationState .. => marks

/-- A call on a store and its marks. -/
def contactStep (st : Store P × Marks) (call : ContactCall) : Option (Store P × Marks) :=
  (st.1.call call).map fun s => (s, st.2.call st.1 call)

/-- A store without contacts, call by call. -/
def contactSystem (P : Primitives) : System (Store P × Marks) ContactCall :=
  System.ofFun (fun st => st.1.contacts = ∅) contactStep

/-- Verified rows have the key of their mark. -/
def MarksKept (rows : Table ContactRow.accountId) (marks : Marks) : Prop :=
  ∀ row ∈ rows, row.verified = true → marks row.accountId = some row.bundle.accountMasterKey

namespace MarksKept

variable {rows : Table ContactRow.accountId} {marks : Marks} {row : ContactRow} {s s' : Store P}

theorem put (h : MarksKept rows marks)
    (hrow : row.verified = true → marks row.accountId = some row.bundle.accountMasterKey) :
    MarksKept (rows.put row) marks := by
  intro row' hmem hverified
  rcases Table.mem_put.1 hmem with rfl | ⟨hold, -⟩
  · exact hrow hverified
  · exact h row' hold hverified

theorem delete (h : MarksKept rows marks) (p : ContactRow → Bool) : MarksKept (rows.delete p) marks :=
  fun row hmem => h row (Table.mem_delete.1 hmem).1

/-- A row that stays verified was found under the account's own id, with the key of the bundle. -/
theorem upsert {bundle : UserBundle} (h : MarksKept s.contacts marks)
    (hs : s.putContact (upsertRow (s.rowByUsername bundle.username) bundle) = some s') :
    MarksKept s'.contacts marks := by
  have hfound : ∀ row, s.rowByUsername bundle.username = some row → row ∈ s.contacts ∧ row.accountId = bundle.accountId :=
    fun _ hrow => Store.upsert_found hs hrow
  rw [Store.putContact_eq hs]
  refine h.put fun hverified => ?_
  cases hold : s.rowByUsername bundle.username with
  | none =>
    rw [hold] at hverified
    cases hverified
  | some old =>
    obtain ⟨hmem, haccount⟩ := hfound old hold
    rw [hold] at hverified
    obtain ⟨hverified, hkey⟩ : old.verified = true ∧ old.bundle.accountMasterKey = bundle.accountMasterKey := by
      simpa [upsertRow] using hverified
    have hmark := h old hmem hverified
    rw [haccount, hkey] at hmark
    exact hmark

theorem verify (h : MarksKept s.contacts marks) (accountId : String) :
    MarksKept (s.verifyContact accountId).contacts (marks.verifying s.contacts accountId) := by
  intro row hmem hverified
  obtain ⟨old, hold, rfl⟩ := (Table.mem_update (by intro; rfl)).1 hmem
  unfold Marks.verifying
  by_cases haccount : old.accountId = accountId
  · subst haccount
    rw [if_pos (decide_eq_true rfl), Table.find_of_mem hold]
    exact Function.update_self ..
  · rw [if_neg (by simpa using haccount)] at hverified ⊢
    have hmark := h old hold hverified
    cases hfound : s.contacts.find accountId with
    | none => exact hmark
    | some found =>
      have hkey : found.accountId = accountId := Table.key_of_find hfound
      have hne : old.accountId ≠ found.bundle.accountId := fun he => haccount (he.trans hkey)
      exact (Function.update_of_ne hne _ _).trans hmark

/-- A mark for another row leaves the rows of the others. -/
theorem putImported {c : TransferContact} (h : MarksKept rows marks) :
    MarksKept (rows.put (Store.importRow c)) (if c.verified then marks.set c.bundle else marks) := by
  intro row hmem hverified
  rcases Table.mem_put.1 hmem with rfl | ⟨hold, hne⟩
  · have himported : c.verified = true := hverified
    rw [if_pos himported]
    exact Function.update_self ..
  · have hmark := h row hold hverified
    split
    · exact (Function.update_of_ne hne _ _).trans hmark
    · exact hmark

theorem importing {contacts : List TransferContact} (h : MarksKept s.contacts marks)
    (hs : s.importContacts contacts = some s') : MarksKept s'.contacts (marks.importing contacts) := by
  induction contacts generalizing s marks with
  | nil =>
    cases hs
    exact h
  | cons c cs ih =>
    obtain ⟨s₁, hs₁, hrest⟩ := Option.bind_eq_some_iff.1 hs
    have hput : MarksKept s₁.contacts (if c.verified then marks.set c.bundle else marks) := by
      rw [Store.putContact_eq hs₁]
      exact h.putImported
    exact ih hput hrest

theorem call {c : ContactCall} (h : MarksKept s.contacts marks) (hs : s.call c = some s') :
    MarksKept s'.contacts (marks.call s c) := by
  cases c with
  | upsertContact bundle => exact h.upsert hs
  | verifyContact accountId =>
    cases hs
    exact h.verify accountId
  | importContacts contacts => exact h.importing hs
  | deleteConversationState peer conversation =>
    cases hs
    exact h.delete _

end MarksKept

/-- `upsert_contact` is a query and a statement; it leaves the store as it was or as the call does. -/
theorem upsertContact_call (bundle : UserBundle) (w : World P) :
    wp (upsertContact env bundle) (fun _ w' => w.store.call (.upsertContact bundle) = some w'.store)
      (fun _ w' => w'.store = w.store ∨ w.store.call (.upsertContact bundle) = some w'.store) w := by
  unfold upsertContact
  rw [Prog.wp_bind]
  refine wp_query ?_ fun _ => .inl rfl
  rw [Prog.wp_bind]
  refine wp_executeRecording (fun _ => .inl rfl) fun store hs => ?_
  rw [Prog.wp_bind]
  refine wp_query ?_ fun _ => .inr hs
  rw [Prog.wp_orFail]
  exact ⟨fun _ _ => hs, fun _ => .inr hs⟩

/-- After any calls, every row that is marked verified has the key it had when it was marked. -/
theorem verified_mark_keeps_key {st : Store P × Marks} (hst : (contactSystem P).Reachable st) :
    ∀ row ∈ st.1.contacts, row.verified = true → st.2 row.accountId = some row.bundle.accountMasterKey := by
  have hkept : MarksKept st.1.contacts st.2 := hst.invariant (I := fun st => MarksKept st.1.contacts st.2)
    (fun st hinit row hmem => by
      rw [show st.1.contacts = ∅ from hinit] at hmem
      exact absurd hmem (Table.not_mem_empty row))
    fun st call st' h _ hstep => by
      obtain ⟨s', hs', rfl⟩ := Option.map_eq_some_iff.1 hstep
      exact h.call hs'
  exact hkept

namespace Scenario.Trust

/-- Bob is looked up and verified, and looked up again. -/
def calls : List ContactCall :=
  [ .upsertContact (bundle "bob" 5 [("b1", 6)])
  , .verifyContact "bob"
  , .upsertContact (bundle "bob" 5 [("b1", 6), ("b2", 7)]) ]

def start : Store primitives × Marks := ((World.ofProfile (firstDevice "alice" "a1" 1 2)).store, fun _ => none)

def looked : Store primitives × Marks := (System.replay contactStep start calls).getD start

/-- His row is marked, and the mark was made for the key that it has. -/
theorem verified_mark_keeps_key_bob :
    (looked.1.contacts.find "bob").map ContactRow.verified = some true ∧
    ∀ row ∈ looked.1.contacts, row.verified = true → looked.2 row.accountId = some row.bundle.accountMasterKey := by
  have hreplay : System.replay contactStep start calls = some looked := rfl
  exact ⟨by decide +kernel, verified_mark_keeps_key (System.reachable_of_replay rfl hreplay)⟩

end Scenario.Trust

end TuiChat
