import TuiChat.Client.ActionSteps
import TuiChat.Verify.Scenario

/-!
# The ratchet is stored before a ciphertext is sent

The handlers that encrypt work on a copy of the machine. They store the copy together with the frame
that carries its ciphertexts, in one transaction, and only frames of the outbox are handed to the
connection; when a handler fails the machine in memory is the stored one again. So every ciphertext
that is ever sent was made by one step of a single line of machines that leads to the stored one
(`ratchet_write_ahead`). A failure may set in at any statement, a crash being an environment in which
nothing works until the restart, so the order of the statements is part of what is proved.
-/

namespace TuiChat

open Lib

variable {P : Primitives} {env : Environment} {profile : RuntimeProfile P} {v v' : View P} {w : World P}

/-- The envelopes of a log's messages, in the order they were stored in. -/
def queuedEnvelopes : List Event → List EncryptedEnvelope
  | [] => []
  | .queued message :: log => queuedEnvelopes log ++ message.envelopes
  | _ :: log => queuedEnvelopes log

/-- The first machine leads to the second by operations whose encryptions made the envelopes, each of
them by one operation, in this order. -/
def Succeeds (m m' : OlmMachine P.olm) (envelopes : List EncryptedEnvelope) : Prop :=
  ∃ ops, Line m ops m' ∧ List.Forall₂ Seals (ops.filter MachineOp.isEncryption) envelopes

theorem Succeeds.line {m m₁ m₂ : OlmMachine P.olm} {ops : List MachineOp}
    {envelopes made : List EncryptedEnvelope} (h : Succeeds m m₁ envelopes) (hl : Line m₁ ops m₂)
    (hs : List.Forall₂ Seals (ops.filter MachineOp.isEncryption) made) :
    Succeeds m m₂ (envelopes ++ made) := by
  obtain ⟨before, hbefore, hsealed⟩ := h
  refine ⟨before ++ ops, hbefore.trans hl, ?_⟩
  rw [List.filter_append]
  exact List.rel_append hsealed hs

namespace View

/-- The machine in memory is the stored one. -/
def Synced (v : View P) : Prop := v.profile.machine = v.stored.machine

theorem Synced.step (h : v.Synced) (hs : AnyStep v v') : v'.Synced := by
  rcases hs with hs | ⟨stored, acknowledged, -, hs⟩ | selected | _
  · cases hs with
    | quiet hq =>
      obtain ⟨hp, hst, -⟩ := hq.same
      unfold Synced
      rw [hp, hst]
      exact h
    | profile p account master machine => exact machine.trans h
    | machine | outgoing | saved | restarted => rfl
  · cases hs
    exact h
  · exact h
  · exact h

/-- The envelopes of the outbox and of the connection were stored with their machine. -/
structure WrittenAhead (v : View P) (m : OlmMachine P.olm) : Prop where
  line : Succeeds m v.profile.machine (queuedEnvelopes v.log)
  queued : ∀ message, some (.sendEnvelopes message) ∈ v.queued → .queued message ∈ v.log
  sent : ∀ f ∈ v.sent, ∀ message, f.body = some (.sendEnvelopes message) → .queued message ∈ v.log

theorem WrittenAhead.of_log {m : OlmMachine P.olm} (h : v.WrittenAhead m) (hl : v.log <:+ v'.log)
    (he : queuedEnvelopes v'.log = queuedEnvelopes v.log)
    (hm : v'.profile.machine = v.profile.machine) (hq : v'.queued ⊆ v.queued)
    (hs : ∀ f ∈ v'.sent, f ∈ v.sent ∨ ∀ message, f.body = some (.sendEnvelopes message) →
      .queued message ∈ v.log) : v'.WrittenAhead m where
  line := by
    rw [he, hm]
    exact h.line
  queued message hmessage := hl.subset (h.queued message (hq hmessage))
  sent f hf message hmessage := hl.subset <| (hs f hf).elim (fun hf => h.sent f hf message hmessage)
    fun hf => hf message hmessage

theorem WrittenAhead.quietStep {m : OlmMachine P.olm} (h : v.WrittenAhead m) (hs : QuietStep v v') :
    v'.WrittenAhead m := by
  have hlog := hs.log
  have hkept : ∀ f ∈ v.sent, f ∈ v.sent ∨ ∀ message, f.body = some (.sendEnvelopes message) →
      .queued message ∈ v.log := fun _ hf => .inl hf
  cases hs with
  | sent f allowed =>
    refine h.of_log hlog rfl rfl (List.Subset.refl _) fun f' hf' => ?_
    rcases List.mem_append.1 hf' with hf' | hf'
    · exact .inl hf'
    · -- Envelopes are sent from the outbox only.
      obtain rfl := List.mem_singleton.1 hf'
      refine .inr fun message hmessage => ?_
      rw [hmessage] at allowed
      exact allowed.elim (h.queued message) False.elim
  | aside known queued requests outbox => exact h.of_log hlog rfl rfl outbox hkept
  | upsert | imported | loaded | shown | opened | displayed | verified | flags | deleted | committed
    | message | raised | decrypted | encrypted | requested | started | joined | marked | compared
    | migrated | ended | certified | handled => exact h.of_log hlog rfl rfl (List.Subset.refl _) hkept

theorem WrittenAhead.step {m : OlmMachine P.olm} (h : v.WrittenAhead m) (hv : v.Synced)
    (hs : AnyStep v v') : v'.WrittenAhead m := by
  have hkept : ∀ f ∈ v.sent, f ∈ v.sent ∨ ∀ message, f.body = some (.sendEnvelopes message) →
      .queued message ∈ v.log := fun _ hf => .inl hf
  rcases hs with hs | ⟨stored, acknowledged, -, hs⟩ | selected | _
  · cases hs with
    | quiet hq => exact h.quietStep hq
    | machine m' received =>
      obtain ⟨ops, hderived, hnone⟩ := received
      refine ⟨?_, h.queued, h.sent⟩
      have hseals : List.Forall₂ Seals (ops.filter MachineOp.isEncryption) [] := by
        rw [hnone]
        exact .nil
      have hline := h.line.line hderived.line hseals
      rw [List.append_nil] at hline
      exact hline
    | outgoing m' ops message queued derived sealed outbox =>
      have hlog : v.log <:+ .queued message :: v.log := List.suffix_cons _ _
      refine ⟨?_, fun message' hmessage => ?_, fun f hf message' hmessage => ?_⟩
      · exact h.line.line derived.line (by rw [filter_of_seals sealed]; exact sealed)
      · rcases List.mem_cons.1 (outbox hmessage) with he | hold
        · cases he
          exact List.mem_cons_self
        · exact hlog.subset (h.queued message' hold)
      · exact hlog.subset (h.sent f hf message' hmessage)
    | profile p account master machine =>
      exact h.of_log List.suffix_rfl rfl machine (List.Subset.refl _) hkept
    | restarted =>
      exact h.of_log (List.suffix_cons _ _) rfl hv.symm (List.Subset.refl _) hkept
    | saved => exact h.of_log List.suffix_rfl rfl rfl (List.Subset.refl _) hkept
  · cases hs with
    | processed e envelope =>
      refine h.of_log (List.suffix_cons _ _) rfl rfl (List.Subset.refl _) fun f hf => ?_
      rcases List.mem_append.1 hf with hf | hf
      · exact .inl hf
      · refine .inr fun message hmessage => ?_
        cases acknowledged with
        | false => cases hf
        | true =>
          obtain rfl := List.mem_singleton.1 hf
          cases hmessage
  · exact h.of_log (List.suffix_cons _ _) rfl rfl (List.Subset.refl _) hkept
  · exact h.of_log List.suffix_rfl rfl rfl (List.Subset.refl _) nofun

end View

/-- The handlers that advance the ratchet. -/
inductive RatchetHandler
  | sendText (text : String)
  | sendReadReceipts (recipient : UserBundle) (relatedMessageIds : List String)
  | sendChatRequest (recipient : UserBundle)
  | sendChatDecision (recipient : UserBundle) (requestId : String) (accepted : Bool)
  | syncPendingConversationDeletions
  | handleSyncBatch (batch : SyncBatch)

def RatchetHandler.run (env : Environment) : RatchetHandler → ClientM P Unit
  | .sendText text => TuiChat.sendText env text
  | .sendReadReceipts recipient ids => TuiChat.sendReadReceipts env recipient ids
  | .sendChatRequest recipient => TuiChat.sendChatRequest env recipient
  | .sendChatDecision recipient requestId accepted =>
    TuiChat.sendChatDecision env recipient requestId accepted
  | .syncPendingConversationDeletions => TuiChat.syncPendingConversationDeletions env
  | .handleSyncBatch batch => TuiChat.handleSyncBatch env batch

theorem RatchetHandler.run_paths (handler : RatchetHandler) :
    Prog.Moves Paths (handler.run env : ClientM P Unit) := by
  cases handler with
  | sendText text => exact (sendText_runs text).paths
  | sendReadReceipts recipient ids => exact (sendReadReceipts_runs recipient ids).paths
  | sendChatRequest recipient => exact (sendChatRequest_runs recipient).paths
  | sendChatDecision recipient requestId accepted =>
    exact (sendChatDecision_runs recipient requestId accepted).paths
  | syncPendingConversationDeletions => exact syncPendingConversationDeletions_runs.paths
  | handleSyncBatch batch => exact handleSyncBatch_paths batch

/-- In every run: what was handed to the connection had been stored; the stored machine follows the
first one by operations that made the stored envelopes, one operation for each; the machine in memory
is the stored one. And each of the handlers, from any state, leaves the two machines equal if they
were, whether it fails or not. -/
theorem ratchet_write_ahead (hw : (clientSystem env profile).Reachable w) :
    (∀ f ∈ w.sent, ∀ message, f.body = some (.sendEnvelopes message) → .queued message ∈ w.log) ∧
    Succeeds profile.machine w.store.profile.machine (queuedEnvelopes w.log) ∧
    w.app.profile.machine = w.store.profile.machine ∧
    ∀ (w₁ : World P) (handler : RatchetHandler), w₁.app.profile.machine = w₁.store.profile.machine →
      ((handler.run env).exec w₁).2.app.profile.machine =
        ((handler.run env).exec w₁).2.store.profile.machine := by
  obtain ⟨hsynced, hahead⟩ := reachable_invariant
    (I := fun v => v.Synced ∧ v.WrittenAhead profile.machine) hw
    ⟨rfl, ⟨[], .refl, .nil⟩, nofun, nofun⟩ fun v v' h hs => ⟨h.1.step hs, h.2.step h.1 hs⟩
  refine ⟨hahead.sent, ?_, hsynced, fun w₁ handler h => ?_⟩
  · have hline := hahead.line
    rw [show w.view.profile.machine = w.store.profile.machine from hsynced] at hline
    exact hline
  · have hstart : w₁.view.Synced := h
    exact paths_invariant (fun v v' h hs => h.step hs) hstart (handler.run_paths w₁)

namespace Scenario.WrittenAhead

def lookups : Environment :=
  environment (fun _ => [bundle "alice" 1 [("a1", 2)], bundle "bob" 5 [("b1", 6)]]) []

/-- Bob is looked up and verified, and Alice writes to him. -/
def written : World primitives :=
  (World.ofProfile (firstDevice "alice" "a1" 1 2)).afterAll lookups
    [.openContact "bob", .selectIndex 0, .verifySelected, .sendText "hello"]

theorem ratchet_write_ahead_first_text :
    (∀ f ∈ written.sent, ∀ message, f.body = some (.sendEnvelopes message) →
      .queued message ∈ written.log) ∧
    Succeeds (firstDevice "alice" "a1" 1 2).machine written.store.profile.machine
      (queuedEnvelopes written.log) ∧
    written.app.profile.machine = written.store.profile.machine ∧
    ∀ (w₁ : World primitives) (handler : RatchetHandler),
      w₁.app.profile.machine = w₁.store.profile.machine →
      ((handler.run lookups).exec w₁).2.app.profile.machine =
        ((handler.run lookups).exec w₁).2.store.profile.machine := by
  have hw : (clientSystem lookups (firstDevice "alice" "a1" 1 2)).Reachable written :=
    reachable_ofProfile _ _ _
  exact ratchet_write_ahead hw

/-- Envelopes were queued in this run. -/
example : queuedEnvelopes written.log ≠ [] := by decide +kernel

end Scenario.WrittenAhead

end TuiChat
