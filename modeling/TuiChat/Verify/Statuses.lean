import TuiChat.Client.Effects
import TuiChat.Verify.Scenario
import Mathlib.Order.Bounds.Basic

/-!
# The status of a message

The statements that change the status of a stored message, and the re-import of a message, in any order:
the status is the greatest of the one the row was inserted with and of those of the updates that apply to
the row (`status_isGreatest`).
-/

namespace TuiChat

open Lib

variable {P : Primitives}

/-! ## The order of statuses -/

theorem MessageStatus.rank_injective : Function.Injective MessageStatus.rank := by
  intro a b h
  cases a <;> cases b <;> first | rfl | cases h

/-- sending < sent < delivered < read. -/
instance : LinearOrder MessageStatus := LinearOrder.lift' MessageStatus.rank MessageStatus.rank_injective

theorem MessageStatus.lt_iff {a b : MessageStatus} : a < b ↔ a.rank < b.rank := Iff.rfl

/-- `CASE status WHEN 'sending' THEN 0 .. ELSE 0 END`, as both statements have it. -/
def caseRank (status : String) : Nat :=
  if status = "sending" then 0
  else if status = "sent" then 1
  else if status = "delivered" then 2
  else if status = "read" then 3
  else 0

/-- The rank of a column is that of the status it was written with. -/
theorem caseRank_asStr (status : MessageStatus) : caseRank status.asStr = status.rank := by
  cases status <;> decide

/-! ## The statements -/

/-- A statement on the messages: `update_status`, `update_outbound_status_for_peer` or `save_message`. -/
inductive StatusUpdate
  | raised (id : String) (status : MessageStatus)
  | raisedForPeer (id peerAccountId : String) (status : MessageStatus)
  | saved (m : ChatMessage)

namespace StatusUpdate

/-- The store after a statement; one that fails leaves it. -/
def run (s : Store P) : StatusUpdate → Store P
  | .raised id status => s.updateStatus id status
  | .raisedForPeer id peerAccountId status => s.updateOutboundStatusForPeer id peerAccountId status
  | .saved m => (s.insertMessage m).getD s

/-- The status that a statement would give a row. -/
def applies (m : ChatMessage) : StatusUpdate → Option MessageStatus
  | .raised id status => if id = m.id then some status else none
  | .raisedForPeer id peerAccountId status =>
    if id = m.id ∧ peerAccountId = m.peerAccountId ∧ m.inbound = false then some status else none
  | .saved _ => none

/-- The status that a row comes to have. -/
def join (m : ChatMessage) (us : List StatusUpdate) : MessageStatus :=
  (us.filterMap (applies m)).foldl max m.status

end StatusUpdate

namespace Store

variable {s s' : Store P}

/-- The row of an id after a status was raised. -/
theorem find_raiseStatus (s : Store P) (id id' : String) (status : MessageStatus) (p : ChatMessage → Bool) :
    (s.raiseStatus id status p).messages.find id' = (s.messages.find id').map fun m =>
      if m.id = id ∧ p m = true then { m with status := max m.status status } else m := by
  have hmax : ∀ m : ChatMessage, ¬m.status < status → { m with status := max m.status status } = m := by
    intro m hm
    rw [max_eq_left (le_of_not_gt hm)]
  unfold raiseStatus
  cases hfind : s.messages.find id with
  | none =>
    cases hfind' : s.messages.find id' with
    | none => rfl
    | some m =>
      have hne : m.id ≠ id := by
        intro hid
        have hid' : m.id = id' := Table.key_of_find hfind'
        rw [← hid, hid', hfind'] at hfind
        cases hfind
      simp [hne]
  | some m =>
    have hid : m.id = id := Table.key_of_find hfind
    dsimp only
    split
    · next hraise =>
      obtain ⟨hp, hlt⟩ := Bool.and_eq_true_iff.1 hraise
      have hlt : m.status < status := of_decide_eq_true hlt
      dsimp only
      rw [Table.find_update]
      cases hfind' : s.messages.find id' with
      | none => rfl
      | some m' =>
        by_cases hm' : m'.id = id
        · have heq : m' = m :=
            Table.eq_of_mem (Table.mem_of_find hfind') (Table.mem_of_find hfind) (hm'.trans hid.symm)
          simp [heq, hid, hp, max_eq_right hlt.le]
        · simp [hm']
    · next hraise =>
      cases hfind' : s.messages.find id' with
      | none => rfl
      | some m' =>
        by_cases hm' : m'.id = id ∧ p m' = true
        · have heq : m' = m :=
            Table.eq_of_mem (Table.mem_of_find hfind') (Table.mem_of_find hfind) (hm'.1.trans hid.symm)
          have hnlt : ¬m.status < status := by
            intro hlt
            rw [heq] at hm'
            exact hraise (Bool.and_eq_true_iff.2 ⟨hm'.2, decide_eq_true hlt⟩)
          rw [heq] at hm'
          simp only [Option.map_some, heq, if_pos hm', hmax m hnlt]
        · simp only [Option.map_some, if_neg hm']

end Store

namespace StatusUpdate

variable {s : Store P} {id : String} {m : ChatMessage}

/-- What one statement does to a row. -/
theorem find_run (u : StatusUpdate) (h : s.messages.find id = some m) :
    (u.run s).messages.find id = some { m with status := ((u.applies m).map (max m.status)).getD m.status } := by
  cases u with
  | raised id' status =>
    show (s.raiseStatus id' status _).messages.find id = _
    rw [Store.find_raiseStatus, h]
    by_cases hid : id' = m.id
    · simp [applies, hid]
    · simp [applies, hid, Ne.symm hid]
  | raisedForPeer id' peer status =>
    show (s.raiseStatus id' status _).messages.find id = _
    rw [Store.find_raiseStatus, h, Option.map_some]
    by_cases hrow : id' = m.id ∧ peer = m.peerAccountId ∧ m.inbound = false
    · obtain ⟨hid, hpeer, hinbound⟩ := hrow
      simp [applies, hid, hpeer, hinbound]
    · have happlies : applies m (.raisedForPeer id' peer status) = none := if_neg hrow
      have hother : ¬(m.id = id' ∧ (decide (m.peerAccountId = peer) && !m.inbound) = true) := by
        rintro ⟨hid, hp⟩
        simp only [Bool.and_eq_true, decide_eq_true_eq, Bool.not_eq_true'] at hp
        exact hrow ⟨hid.symm, hp.1.symm, hp.2⟩
      rw [happlies, if_neg hother]
      rfl
  | saved m' =>
    show ((s.insertMessage m').getD s).messages.find id = _
    cases hinsert : s.insertMessage m' with
    | none => exact h
    | some s' => exact Store.find_insertMessage hinsert h

/-- A statement applies to a row whatever its status is. -/
theorem applies_status (m : ChatMessage) (status : MessageStatus) :
    applies { m with status } = applies m := by
  funext u
  cases u <;> rfl

/-- What a sequence of statements does to a row, by induction on the sequence. -/
theorem find_runs (us : List StatusUpdate) :
    ∀ {s : Store P} {m : ChatMessage}, s.messages.find id = some m →
      (us.foldl run s).messages.find id = some { m with status := join m us } := by
  induction us with
  | nil => exact fun h => h
  | cons u us ih =>
    intro s m h
    rw [List.foldl_cons, ih (find_run u h)]
    have hjoin : ∀ status, join { m with status } us = (us.filterMap (applies m)).foldl max status := by
      intro status
      rw [join, applies_status]
    rw [hjoin, join]
    cases happlies : applies m u with
    | none => rw [List.filterMap_cons_none happlies]; rfl
    | some status => rw [List.filterMap_cons_some happlies]; rfl

/-- The statuses that a row was given. -/
def Given (m : ChatMessage) (us : List StatusUpdate) (status : MessageStatus) : Prop :=
  status = m.status ∨ ∃ u ∈ us, u.applies m = some status

theorem join_isGreatest (m : ChatMessage) (us : List StatusUpdate) : IsGreatest {status | Given m us status} (join m us) := by
  have hfold : ∀ (statuses : List MessageStatus) (status : MessageStatus),
      IsGreatest {x | x = status ∨ x ∈ statuses} (statuses.foldl max status) := by
    intro statuses
    induction statuses with
    | nil =>
      intro status
      exact ⟨.inl rfl, fun x hx => (hx.resolve_right List.not_mem_nil).le⟩
    | cons first statuses ih =>
      intro status
      obtain ⟨hmem, hupper⟩ := ih (max status first)
      constructor
      · rcases hmem with hmax | hmem
        · rcases max_choice status first with h | h
          · exact .inl (hmax.trans h)
          · exact .inr (List.mem_cons.2 (.inl (hmax.trans h)))
        · exact .inr (List.mem_cons_of_mem _ hmem)
      · rintro x (rfl | hx)
        · exact (le_max_left _ _).trans (hupper (.inl rfl))
        · rcases List.mem_cons.1 hx with rfl | hx
          · exact (le_max_right _ _).trans (hupper (.inl rfl))
          · exact hupper (.inr hx)
  have hset : {status | Given m us status} = {x | x = m.status ∨ x ∈ us.filterMap (applies m)} := by
    ext x
    simp only [Given, Set.mem_ofPred_eq, List.mem_filterMap]
  rw [hset]
  exact hfold _ _

end StatusUpdate

/-- The status of a row is the greatest of those it was given, in whatever order the statements came, and
no further statement lowers it. -/
theorem status_isGreatest {s : Store P} {id : String} {m : ChatMessage} (h : s.messages.find id = some m)
    (us : List StatusUpdate) :
    ∃ status, (us.foldl StatusUpdate.run s).messages.find id = some { m with status } ∧
      IsGreatest {x | StatusUpdate.Given m us x} status ∧
      (∀ us', us.Perm us' → (us'.foldl StatusUpdate.run s).messages.find id = some { m with status }) ∧
      ∀ us', ∃ status', ((us ++ us').foldl StatusUpdate.run s).messages.find id = some { m with status := status' } ∧
        status ≤ status' := by
  have hgreatest := StatusUpdate.join_isGreatest m us
  refine ⟨StatusUpdate.join m us, StatusUpdate.find_runs us h, hgreatest, ?_, ?_⟩
  · intro us' hperm
    have hgiven : ∀ x, StatusUpdate.Given m us' x ↔ StatusUpdate.Given m us x := by
      intro x
      simp only [StatusUpdate.Given, hperm.mem_iff]
    have hgreatest' := StatusUpdate.join_isGreatest m us'
    simp only [hgiven] at hgreatest'
    rw [StatusUpdate.find_runs us' h, hgreatest'.unique hgreatest]
  · intro us'
    refine ⟨StatusUpdate.join m (us ++ us'), StatusUpdate.find_runs _ h, ?_⟩
    apply (StatusUpdate.join_isGreatest m (us ++ us')).2
    rcases hgreatest.1 with hsame | ⟨u, hu, happlies⟩
    · exact .inl hsame
    · exact .inr ⟨u, List.mem_append_left us' hu, happlies⟩

namespace Scenario

/-- A message that was sent and has not been accepted. -/
def pendingMessage : ChatMessage :=
  { id := "m"
    conversationId := "c"
    peerAccountId := "bob"
    senderAccountId := "alice"
    body := "hello"
    sentAtMs := 0
    status := .sending
    inbound := false
    provenance := none }

def storeOf (messages : List ChatMessage) : Store primitives :=
  { Store.ofProfile (firstDevice "alice" "a1" 1 2) with messages := messages.foldl Table.insertOrIgnore ∅ }

/-- The receipt comes before the acceptance. -/
theorem status_read_first :
    (storeOf [pendingMessage]).messages.find "m" = some pendingMessage ∧
    ∃ status, ([.raisedForPeer "m" "bob" .read, .raised "m" .sent].foldl StatusUpdate.run
        (storeOf [pendingMessage])).messages.find "m" = some { pendingMessage with status } ∧
      IsGreatest {x | StatusUpdate.Given pendingMessage [.raisedForPeer "m" "bob" .read, .raised "m" .sent] x} status := by
  have hfind : (storeOf [pendingMessage]).messages.find "m" = some pendingMessage := by decide
  obtain ⟨status, hstatus, hgreatest, -⟩ :=
    status_isGreatest hfind [.raisedForPeer "m" "bob" .read, .raised "m" .sent]
  exact ⟨hfind, status, hstatus, hgreatest⟩

end Scenario

end TuiChat
