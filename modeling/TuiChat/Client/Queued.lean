import TuiChat.Client.Exec
import TuiChat.Client.Steps

/-!
# What is queued

`Queues K` says of two states of a client that the messages queued between them are such that `K`. Nothing is
queued but by the transactions that store a frame, and what these store was made envelope by envelope for a
list of targets (`Made`).
-/

namespace TuiChat

open Lib
open Lib.Prog (Moves wp)
open Relation (ReflTransGen)

variable {P : Primitives} {env : Environment} {K : SendEnvelopes → Prop} {w w' w'' : World P}

/-! ## Queueing -/

/-- Every message that was queued meanwhile is such that `K`, and the account is the same. -/
structure Queues (K : SendEnvelopes → Prop) (w w' : World P) : Prop where
  account : w'.app.profile.accountId = w.app.profile.accountId
  recorded : ∃ events, w'.log = events ++ w.log ∧ ∀ message, .queued message ∈ events → K message

theorem Queues.trans (h : Queues K w w') (h' : Queues K w' w'') : Queues K w w'' := by
  obtain ⟨events, hlog, hK⟩ := h.recorded
  obtain ⟨events', hlog', hK'⟩ := h'.recorded
  refine ⟨h'.account.trans h.account, events' ++ events, ?_, fun message hm => ?_⟩
  · rw [hlog', hlog, List.append_assoc]
  exact (List.mem_append.1 hm).elim (hK' message) (hK message)

theorem Queues.of_log (haccount : w'.app.profile.accountId = w.app.profile.accountId) (h : w'.log = w.log) :
    Queues K w w' := ⟨haccount, [], h, nofun⟩

instance : Std.Refl (Queues (P := P) K) := ⟨fun _ => .of_log rfl rfl⟩

instance : IsTrans (World P) (Queues K) := ⟨fun _ _ _ h h' => h.trans h'⟩

theorem Queues.mono {L : SendEnvelopes → Prop} (h : Queues K w w') (hKL : ∀ message, K message → L message) :
    Queues L w w' := by
  obtain ⟨events, hlog, hK⟩ := h.recorded
  exact ⟨h.account, events, hlog, fun message hm => hKL message (hK message hm)⟩

/-- A quiet step records events that are not of the outbox. -/
theorem QuietStep.records {v v' : View P} (h : QuietStep v v') :
    ∃ events, v'.log = events ++ v.log ∧ ∀ message, .queued message ∉ events := by
  cases h with
  | shown | flags | deleted | message | aside | sent | joined | marked | ended => exact ⟨[], rfl, nofun⟩
  | upsert old bundle => exact ⟨[v.keyWritten bundle], rfl, by simp [View.keyWritten]⟩
  | imported c s => exact ⟨[v.keyWritten c.bundle, .migrated s (.contact c.bundle)], rfl, by simp [View.keyWritten]⟩
  | _ => exact ⟨[_], rfl, by simp⟩

theorem Quiet.queues (h : Quiet w w') : Queues K w w' := by
  have hrun : ∀ {v v' : View P}, ReflTransGen QuietStep v v' →
      ∃ events, v'.log = events ++ v.log ∧ ∀ message, .queued message ∉ events := by
    intro v v' h
    induction h with
    | refl => exact ⟨[], rfl, nofun⟩
    | tail _ hs ih =>
      obtain ⟨events, hlog, hnone⟩ := ih
      obtain ⟨events', hlog', hnone'⟩ := hs.records
      refine ⟨events' ++ events, by rw [hlog', hlog, List.append_assoc], fun message hm => ?_⟩
      exact (List.mem_append.1 hm).elim (hnone' message) (hnone message)
  obtain ⟨events, hlog, hnone⟩ := hrun h
  exact ⟨congrArg RuntimeProfile.accountId h.same.1, events, hlog, fun message hm => absurd hm (hnone message)⟩

theorem Lib.Prog.Moves.queues {α : Type} {m : ClientM P α} (h : IsQuiet m) : Moves (Queues K) m :=
  h.mono fun _ _ => Quiet.queues

theorem modifyApp_queues {f : App P → App P} (h : ∀ app, (f app).profile = app.profile) :
    Moves (Queues K) (modifyApp f) := fun w => .of_log (congrArg RuntimeProfile.accountId (h w.app)) rfl

theorem dispatchBackground_queues (f : Frame) (operation : BackgroundRequest) :
    Moves (Queues K) (dispatchBackground env f operation : ClientM P Unit) := by
  refine .of_wp fun w => wp_dispatchBackground.mono (fun _ w' ⟨f', _, hw'⟩ => ?_) fun _ w' hw' => ?_ <;>
    exact .of_log (congrArg (fun v : View P => v.profile.accountId) hw') (congrArg View.log hw')

/-- What is queued from a state on is queued from an earlier one. -/
theorem Queues.wp_of {α : Type} {m : ClientM P α} (h : Queues K w w')
    (hm : wp m (fun _ => Queues K w') (fun _ => Queues K w') w') :
    wp m (fun _ => Queues K w) (fun _ => Queues K w) w' :=
  hm.mono (fun _ _ h' => h.trans h') fun _ _ h' => h.trans h'

/-! ## Targets -/

section

variable {t : Target} {bundle peer self : UserBundle} {deviceId : String} {profile : RuntimeProfile P}

theorem targetsOf_account (h : t ∈ targetsOf bundle) : t.accountId = bundle.accountId := by
  obtain ⟨d, -, rfl⟩ := List.mem_map.1 h
  rfl

theorem targetsBut_account (h : t ∈ targetsBut deviceId bundle) : t.accountId = bundle.accountId :=
  targetsOf_account (List.mem_of_mem_filter h)

/-- The own part of a text is for the account of the profile. -/
theorem textTargets_account (h : t ∈ textTargets profile peer self) :
    t ∈ targetsOf peer ∨ t.accountId = profile.accountId := by
  refine (List.mem_append.1 h).imp_right fun h => ?_
  obtain ⟨t', -, rfl⟩ := List.mem_map.1 h
  rfl

theorem targetsOf_eq_nil : targetsOf bundle = [] ↔ bundle.active = [] := List.map_eq_nil_iff

theorem targetsOf_length (bundle : UserBundle) : (targetsOf bundle).length = bundle.active.length := List.length_map _

theorem targetsBut_length (deviceId : String) (bundle : UserBundle) :
    (targetsBut deviceId bundle).length ≤ bundle.active.length :=
  (List.length_filter_le _ _).trans (targetsOf_length bundle).le

theorem textTargets_length (profile : RuntimeProfile P) (peer self : UserBundle) :
    (textTargets profile peer self).length ≤ peer.active.length + self.active.length := by
  have hself := targetsBut_length profile.identity.deviceId self
  have hpeer := targetsOf_length peer
  simp only [textTargets, List.length_append, List.length_map]
  omega

end

/-! ## Making envelopes -/

/-- A ciphertext that a machine makes is no shorter than its plaintext. -/
theorem MachineStep.length_le {O : Olm} {k : Nat} (holm : O.Overhead k) {m m' : OlmMachine O} {d : String}
    {p : Bytes} {e : EncryptedOlm} (h : MachineStep m (.encrypted d p e) m') : p.length ≤ e.ciphertext.length := by
  have hexisting : ∀ {m m' : OlmMachine O} {d : String} {n : Nat}, m.encryptExisting d p n = .ok (e, m') →
      p.length ≤ e.ciphertext.length := by
    intro m m' d n h
    obtain ⟨s, s', message, -, hencrypt, hciphertext, -⟩ := OlmMachine.encryptExisting_ok h
    rw [hciphertext]
    exact holm.le hencrypt
  cases h with
  | encryptExisting h => exact hexisting h
  | encrypt h =>
    rcases OlmMachine.encrypt_ok h with ⟨-, h⟩ | ⟨-, _, -, h⟩
    · exact hexisting h
    · exact hexisting h

/-- An envelope of a message, made for a target. -/
structure MadeFor (env : Environment) (o : Outgoing) (t : Target) (e : EncryptedEnvelope) : Prop where
  logicalMessageId : e.logicalMessageId = o.logicalId
  conversationId : e.conversationId = o.conversationId
  recipientAccountId : e.recipientAccountId = t.accountId
  recipientDeviceId : e.recipientDeviceId = t.device.deviceId
  drawn : ∃ n, e.envelopeId = env.uuid n
  ciphertext : e.ciphertext ≠ []

abbrev Made (env : Environment) (o : Outgoing) : List Target → List EncryptedEnvelope → Prop :=
  List.Forall₂ (MadeFor env o)

/-- Envelopes of the same message with two payloads. -/
theorem Made.append {o : Outgoing} {payload : Bytes} {targets targets' : List Target}
    {envelopes envelopes' : List EncryptedEnvelope} (h : Made env o targets envelopes)
    (h' : Made env { o with payload } targets' envelopes') :
    Made env o (targets ++ targets') (envelopes ++ envelopes') :=
  List.rel_append h (h'.imp fun _ _ h => ⟨h.1, h.2, h.3, h.4, h.5, h.6⟩)

theorem Made.accounts {o : Outgoing} {targets : List Target} {envelopes : List EncryptedEnvelope}
    (h : Made env o targets envelopes) :
    envelopes.map EncryptedEnvelope.recipientAccountId = targets.map Target.accountId := by
  induction h with
  | nil => rfl
  | cons hmade _ ih => rw [List.map_cons, List.map_cons, hmade.recipientAccountId, ih]

/-- The profile stays, and nothing is queued. -/
structure Unqueued (w w' : World P) : Prop where
  profile : w'.app.profile = w.app.profile
  queues : ∀ {K : SendEnvelopes → Prop}, Queues K w w'

theorem Unqueued.trans (h : Unqueued w w') (h' : Unqueued w' w'') : Unqueued w w'' :=
  ⟨h'.profile.trans h.profile, h.queues.trans h'.queues⟩

instance : Std.Refl (Unqueued (P := P)) := ⟨fun _ => ⟨rfl, .of_log rfl rfl⟩⟩

instance : IsTrans (World P) Unqueued := ⟨fun _ _ _ h h' => h.trans h'⟩

theorem Quiet.unqueued (h : Quiet w w') : Unqueued w w' := ⟨h.same.1, h.queues⟩

theorem Lib.Prog.Moves.unqueued {α : Type} {m : ClientM P α} (h : IsQuiet m) : Moves Unqueued m :=
  h.mono fun _ _ => Quiet.unqueued

theorem wp_encryptTargets_made {k : Nat} (holm : P.olm.Overhead k) {o : Outgoing} (ho : o.payload ≠ []) :
    ∀ (targets : List Target) (m : OlmMachine P.olm) (w : World P), wp (encryptTargets env o m targets)
      (fun r w' => Unqueued w w' ∧ Made env o targets r.1) (fun _ w' => Unqueued w w') w
  | [], _, w => ⟨refl_of Unqueued w, .nil⟩
  | t :: ts, m, w => by
    have hrefl : Unqueued w w := refl_of Unqueued w
    unfold encryptTargets encryptFor
    refine wp.ofExcept (fun _ => hrefl) fun _ _ => ?_
    rw [Prog.wp_bind, Prog.wp_bind]
    refine (encryptOlm_step m t.device t.accountId o.payload w).mono (fun r w₁ h₁ => ?_) fun _ _ h => h.1.unqueued
    obtain ⟨hsteady, hstep, -⟩ := h₁
    rw [wp_record_bind, Prog.wp_pure]
    have hw₁ : Unqueued w { w₁ with log := .encrypted t.device (r.2.newestKey t.device.deviceId) :: w₁.log } :=
      hsteady.1.unqueued.trans ⟨rfl, rfl, [_], rfl, by simp⟩
    rw [Prog.wp_bind]
    refine wp_newUuid_iff.2 ?_
    rw [Prog.wp_bind]
    refine (wp_encryptTargets_made holm ho ts r.2 _).mono (fun r' w₂ h₂ => ?_)
      fun _ _ h => (hw₁.trans (ticked_quiet _).unqueued).trans h
    obtain ⟨hw₂, hmade⟩ := h₂
    refine ⟨(hw₁.trans (ticked_quiet _).unqueued).trans hw₂, .cons ?_ hmade⟩
    have hlong := (List.length_pos_iff.2 ho).trans_le (hstep.length_le holm)
    exact ⟨rfl, rfl, rfl, rfl, ⟨_, rfl⟩, List.length_pos_iff.1 hlong⟩

theorem WirePayload.toVec_ne_nil (p : WirePayload) : p.toVec ≠ [] := by
  unfold WirePayload.toVec Json.object
  simp

/-- A transaction that queues a message. -/
theorem commitMachine_queues {m : OlmMachine P.olm} {f : RuntimeProfile P → World P → Option (Store P)}
    {message : SendEnvelopes} (h : K message) :
    Moves (Queues K) (commitMachine env m f fun _ => [.queued message]) := .of_wp fun w => by
  refine wp_commitMachine (fun _ => (ticked_quiet w).queues) fun store _ => ⟨rfl, [.queued message], rfl, ?_⟩
  intro message' hm
  cases List.mem_singleton.1 hm
  exact h

/-- The transaction of a control message queues it, and nothing else is queued. -/
theorem queueControl_queues {id : String} {envelopes : List EncryptedEnvelope} {m : OlmMachine P.olm}
    (h : K { envelopes }) : Moves (Queues K) (queueControl env id envelopes m : ClientM P Unit) :=
  .bind newUuid_quiet.queues fun _ => .bind nowMs_quiet.queues fun _ => .bind (commitMachine_queues h) fun _ =>
    dispatchBackground_queues _ _

end TuiChat
