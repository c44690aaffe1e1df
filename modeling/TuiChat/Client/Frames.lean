import TuiChat.Client.ActionSteps

/-!
# What a client hands to its connection

The outbox holds nothing but messages (`Queues`), so an envelope is acknowledged where it is processed
and nowhere else (`Walk.acknowledgements`).
-/

namespace TuiChat

open Lib
open Relation (ReflTransGen)

variable {P : Primitives} {env : Environment} {v v' : View P}

def Frame.asAck (f : Frame) : Option AckEnvelope :=
  match f.body with
  | some (.ackEnvelope m) => some m
  | _ => none

/-- The acknowledgements among frames, in order. -/
def acknowledgements (frames : List Frame) : List AckEnvelope := frames.filterMap Frame.asAck

/-- The acknowledgement of an envelope. -/
def StoredEnvelope.ack (stored : StoredEnvelope) : Option AckEnvelope :=
  stored.envelope.map fun e => { envelopeId := e.envelopeId, cursor := stored.cursor }

/-- The acknowledgements of the envelopes that are marked so. -/
def marked (es : List (StoredEnvelope × Bool)) : List AckEnvelope :=
  es.filterMap fun e => if e.2 then e.1.ack else none

namespace View

/-- Every frame of the outbox is a message. -/
def Queues (v : View P) : Prop := ∀ body ∈ v.queued, ∃ m, body = some (.sendEnvelopes m)

theorem Queues.quietStep (h : v.Queues) (hs : QuietStep v v') : v'.Queues := by
  cases hs with
  | aside known queued requests outbox => exact fun body hb => h body (outbox hb)
  | _ => exact h

theorem Queues.viewStep (h : v.Queues) (hs : ViewStep v v') : v'.Queues := by
  cases hs with
  | quiet hq => exact h.quietStep hq
  | outgoing m ops message queued derived sealed outbox =>
    intro body hb
    rcases List.mem_cons.1 (outbox hb) with rfl | hb
    · exact ⟨message, rfl⟩
    · exact h body hb
  | machine | profile | saved | restarted => exact h

theorem Queues.step (h : v.Queues) (hs : AnyStep v v') : v'.Queues := by
  rcases hs with hs | ⟨stored, acknowledged, -, hs⟩ | selected | _
  · exact h.viewStep hs
  · cases hs
    exact h
  · exact h
  · exact h

theorem Queues.runs (h : v.Queues) (hs : ReflTransGen ViewStep v v') : v'.Queues := by
  induction hs with
  | refl => exact h
  | tail _ hs ih => exact ih.viewStep hs

end View

theorem queues {profile : RuntimeProfile P} {w : World P} (hw : (clientSystem env profile).Reachable w) :
    w.view.Queues := reachable_invariant hw (fun _ h => nomatch h) fun _ _ h hs => h.step hs

/-- No acknowledgement is sent but where an envelope is processed. -/
theorem ViewStep.acknowledgements (h : v.Queues) (hs : ViewStep v v') :
    acknowledgements v'.sent = acknowledgements v.sent := by
  cases hs with
  | quiet hq =>
    cases hq with
    | sent f allowed =>
      have hnone : f.asAck = none := by
        unfold Frame.asAck
        split
        · next m hm =>
          rw [hm] at allowed
          rcases allowed with hqueued | hallows
          · obtain ⟨_, hm⟩ := h _ hqueued
            cases hm
          · exact hallows.elim
        · rfl
      simp [TuiChat.acknowledgements, hnone]
    | _ => rfl
  | machine | outgoing | profile | saved | restarted => rfl

theorem runs_acknowledgements (h : v.Queues) (hs : ReflTransGen ViewStep v v') :
    acknowledgements v'.sent = acknowledgements v.sent := by
  induction hs with
  | refl => rfl
  | tail hr hs ih => exact (hs.acknowledgements (h.runs hr)).trans ih

/-- The envelopes of a walk are acknowledged in their order. -/
theorem Walk.acknowledgements {es : List (StoredEnvelope × Bool)} (hw : Walk es v v') (h : v.Queues) :
    acknowledgements v'.sent = acknowledgements v.sent ++ marked es := by
  induction hw with
  | runs hr => simpa [marked] using runs_acknowledgements h hr
  | @processed v v₁ v₂ v' e es hr step rest ih =>
    have hqueues : v₁.Queues := h.runs hr
    cases step with
    | processed envelope henvelope =>
      rw [ih hqueues, ← runs_acknowledgements h hr]
      obtain ⟨stored, acknowledged⟩ := e
      cases acknowledged <;>
        simp [TuiChat.acknowledgements, marked, Frame.asAck, frame, StoredEnvelope.ack, show stored.envelope = _ from henvelope]

end TuiChat
