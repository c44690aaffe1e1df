import TuiChat.Server.Envelopes
import TuiChat.Server.RequestSteps
import TuiChat.Verify.Replies
import TuiChat.Verify.ServerScenario
import Mathlib.Data.List.Dedup

/-!
# What `SendAccepted` promises

A client completes an outbox row when its batch is accepted. The server answers `SendAccepted` after its transaction: the
batch has one logical message, the message is in a database there was as coming from the session of the connection, and so
is every envelope for a device that was active there, of which there is one, and one of the peer unless the sender writes
to itself (`accepted_stored`).
-/

namespace TuiChat

open Lib
open Lib.Proc (All Once wp)

/-- The batch of the sender is in the database, as far as its recipients are active. -/
structure Db.BatchStored (db : Db) (senderAccount senderDevice logicalId : String) (es : List EncryptedEnvelope) :
    Prop where
  logical : ∀ e ∈ es, e.logicalMessageId = logicalId
  message : ∃ row, db.logicalMessages.find logicalId = some row ∧ row.senderAccountId = senderAccount ∧
    row.senderDeviceId = senderDevice
  stored : ∀ e ∈ es, db.recipientActive e = true →
    ∃ row, db.envelopes.find e.envelopeId = some row ∧ row.Carries senderAccount senderDevice e
  reached : ∃ e ∈ es, db.recipientActive e = true ∧
    ((∃ e' ∈ es, e'.recipientAccountId ≠ senderAccount) → e.recipientAccountId ≠ senderAccount)

namespace Db

variable {sha256 : Bytes → Bytes} {sa sd : String} {db db' : Db} {es : List EncryptedEnvelope} {now : Int}
  {limits : StorageLimits} {free : Nat} {h : BatchHeader}

/-- The header of a batch: its logical message, and its peer, if it has one. -/
theorem checkBatch_header (hcheck : checkBatch sha256 sa es = .ok h) :
    (es.head?.map EncryptedEnvelope.logicalMessageId).getD "" = h.logicalId ∧
      (∀ e ∈ es, e.logicalMessageId = h.logicalId) ∧ ((∃ e ∈ es, e.recipientAccountId ≠ sa) → h.peer ≠ sa) := by
  cases es with
  | nil => cases hcheck
  | cons first rest =>
    have hpeer : (∃ e ∈ first :: rest, e.recipientAccountId ≠ sa) →
        ((((first :: rest).map EncryptedEnvelope.recipientAccountId).filter
          fun account => account ≠ sa).dedup).headD sa ≠ sa := by
      rintro ⟨e, he, hne⟩
      generalize hpeers : (((first :: rest).map EncryptedEnvelope.recipientAccountId).filter
        fun account => account ≠ sa).dedup = peers
      have hmem : e.recipientAccountId ∈ peers := by
        rw [← hpeers, List.mem_dedup, List.mem_filter]
        exact ⟨List.mem_map_of_mem he, by simpa using hne⟩
      cases peers with
      | nil => cases hmem
      | cons peer peers =>
        have hfirst : peer ∈ (((first :: rest).map EncryptedEnvelope.recipientAccountId).filter
            fun account => account ≠ sa).dedup := hpeers ▸ List.mem_cons_self
        rw [List.mem_dedup, List.mem_filter] at hfirst
        simpa using hfirst.2
    unfold checkBatch at hcheck
    dsimp only at hcheck
    split at hcheck
    · cases hcheck
    split at hcheck
    · cases hcheck
    · next hmixed =>
      split at hcheck
      · cases hcheck
      split at hcheck
      · cases hcheck
      · cases hcheck
        refine ⟨rfl, fun e he => ?_, hpeer⟩
        by_contra hne
        exact hmixed (.inr (List.any_eq_true.2 ⟨e, he, by simpa using hne⟩))

theorem recipientActive_congr {e : EncryptedEnvelope} (hdevices : db'.devices = db.devices)
    (haccounts : db'.accounts = db.accounts) : db'.recipientActive e = db.recipientActive e := by
  unfold recipientActive Db.device
  rw [hdevices, haccounts]

/-- An accepted batch is stored. -/
theorem storeEnvelopes_batchStored {r : List (String × Nat) × Db}
    (hstore : db.storeEnvelopes sha256 sa sd es now limits free = .ok r) :
    r.2.BatchStored sa sd ((es.head?.map EncryptedEnvelope.logicalMessageId).getD "") es := by
  obtain ⟨header, db₁, additional, accepted, hinserts⟩ := storeEnvelopes_eq_ok.1 hstore
  obtain ⟨hlogical, hsame, hpeer⟩ := checkBatch_header accepted.header
  obtain ⟨envelopes, usage, cursor, haside⟩ := hinserts.aside
  have hactive : ∀ e, r.2.recipientActive e = db₁.recipientActive e := fun e =>
    recipientActive_congr (by rw [haside]) (by rw [haside])
  refine ⟨fun e he => (hsame e he).trans hlogical.symm, ?_, fun e he hrecipient => ?_, ?_⟩
  · rw [hlogical, show r.2.logicalMessages = db₁.logicalMessages by rw [haside]]
    rcases insertLogicalMessage_eq_ok.1 accepted.message with ⟨row, hrow, heads, rfl⟩ | ⟨hnone, -, -, -, rfl⟩
    · exact ⟨row, hrow, heads.account, heads.device⟩
    · refine ⟨messageRow sa sd header now, Table.find_eq_some.2 ⟨?_, rfl⟩, rfl, rfl⟩
      exact Table.mem_insertOrIgnore.2 (.inr ⟨rfl, Table.find_eq_none.1 hnone⟩)
  · exact hinserts.found e (List.mem_filter.2 ⟨he, (hactive e).symm.trans hrecipient⟩)
  · by_cases hself : header.peer = sa
    · obtain ⟨e, he⟩ := List.exists_mem_of_ne_nil _ accepted.available
      rw [List.mem_filter] at he
      exact ⟨e, he.1, (hactive e).trans he.2, fun hother => absurd hself (hpeer hother)⟩
    · obtain ⟨e, he, hrecipient, haccount⟩ := accepted.peer hself
      exact ⟨e, he, (hactive e).trans hrecipient, fun _ => haccount ▸ hself⟩

end Db

variable {env : ServerEnvironment} {P : Primitives} {i : Nat} {s s' : AppState} {c c' : Connection} {α β : Type}

/-! ## One connection -/

/-- A frame that accepts a message answers a request of the connection, whose batch was stored. -/
structure Frame.Truthful (s : AppState) (c : Connection) (f : Frame) (a : SendAccepted) : Prop where
  request : ∃ g ∈ c.requests, f.id = g.id ∧ ∃ m, g.body = some (.sendEnvelopes m) ∧
    ∃ session, c.session = some session ∧ session.pending = false ∧ ∃ db, s.Had db ∧
      db.BatchStored session.account.id session.deviceId a.logicalMessageId m.envelopes

/-- Every frame that the connection was handed and that accepts a message does so truthfully. -/
def Accepts (i : Nat) (s : AppState) (c : Connection) : Prop :=
  ∀ f a, (i, f) ∈ s.out → f.body = some (.sendAccepted a) → f.Truthful s c a

/-- The session stays that of the device and the account. -/
theorem ServerStep.session_eq {w w' : ServerWorld} (h : ServerStep env P i w w') {session : Session}
    (hsession : w.2.session = some session) (hactive : session.pending = false) :
    ∃ session', w'.2.session = some session' ∧ session'.pending = false ∧
      session'.account.id = session.account.id ∧ session'.deviceId = session.deviceId := by
  cases h with
  | authenticated | passwordAccepted => simp_all
  | bootstrapped old m id rest current pending => simp_all
  | passwordChanged old phc current active =>
    cases hsession.symm.trans current
    exact ⟨_, rfl, active, rfl, rfl⟩
  | _ => exact ⟨session, hsession, hactive, rfl, rfl⟩

theorem AppState.Had.step {w w' : ServerWorld} {db : Db} (h : w.1.Had db) (hs : ServerStep env P i w w') :
    w'.1.Had db := h.evolves hs.evolves

theorem ServerStep.requests_subset {w w' : ServerWorld} (h : ServerStep env P i w w') :
    w.2.requests ⊆ w'.2.requests := by
  have hlog : ∀ {c c' : Connection}, c.log <:+ c'.log → c.requests ⊆ c'.requests := fun hsuffix =>
    (hsuffix.filterMap _).subset
  cases h with
  | wrote => exact hlog (List.suffix_append _ _)
  | readAccount | readDevice | readClock | received | challenged | taken | passwordAccepted =>
    exact hlog (List.suffix_cons _ _)
  | _ => exact List.Subset.refl _

theorem Frame.Truthful.step {w w' : ServerWorld} {f : Frame} {a : SendAccepted} (h : f.Truthful w.1 w.2 a)
    (hs : ServerStep env P i w w') : f.Truthful w'.1 w'.2 a := by
  obtain ⟨g, hg, hid, m, hbody, session, hsession, hactive, db, had, hstored⟩ := h.request
  obtain ⟨session', hsession', hactive', haccount, hdevice⟩ := hs.session_eq hsession hactive
  refine ⟨g, hs.requests_subset hg, hid, m, hbody, session', hsession', hactive', db, had.step hs, ?_⟩
  rw [haccount, hdevice]
  exact hstored

/-- What others do. -/
theorem Frame.Truthful.evolves {f : Frame} {a : SendAccepted} (h : f.Truthful s c a) (hs : Evolves env P s s') :
    f.Truthful s' c a := by
  obtain ⟨g, hg, hid, m, hbody, session, hsession, hactive, db, had, hstored⟩ := h.request
  exact ⟨g, hg, hid, m, hbody, session, hsession, hactive, db, had.evolves hs, hstored⟩

namespace Ws

/-- What is handed over anew accepts a message truthfully, to the connection itself. -/
def Accepting (i : Nat) (w w' : ServerWorld) : Prop :=
  ∀ e ∈ w'.1.out, e ∈ w.1.out ∨ ∀ a, e.2.body = some (.sendAccepted a) → e.1 = i ∧ e.2.Truthful w'.1 w'.2 a

/-- No message is accepted. -/
def Withholds (e : Nat × Frame) : Prop := ∀ a, e.2.body ≠ some (.sendAccepted a)

theorem Hands.accepting {w w' : ServerWorld} (h : Hands Withholds w w') : Accepting i w w' := by
  intro e he
  rcases h.out with hout | ⟨e', he', hout⟩
  · exact .inl (hout ▸ he)
  · rw [hout, List.mem_append, List.mem_singleton] at he
    rcases he with he | rfl
    · exact .inl he
    · exact .inr fun a ha => absurd ha (he' a)

theorem Unasked.withholds {id : String} {e : Nat × Frame} (h : Unasked i id e) : Withholds e := by
  intro a ha
  cases h with
  | @push t body push =>
    cases ha
    cases push
  | pong | notice | refusal => cases ha

theorem Hands.mono {K K' : Nat × Frame → Prop} {w w' : ServerWorld} (h : Hands K w w') (hK : ∀ e, K e → K' e) :
    Hands K' w w' := ⟨h.out.imp_right fun ⟨e, he, hout⟩ => ⟨e, hK e he, hout⟩, h.requests⟩

theorem hands_withholds {id : String} {m : ServerM α} (h : All (Hands (Unasked i id)) m) : All (Hands Withholds) m :=
  h.mono fun _ _ h => h.mono fun _ => Unasked.withholds

/-- Requests to send envelopes apart, nothing is accepted. -/
theorem withholds_handleBody {id : String} {request : Body} (h : ∀ m, request ≠ .sendEnvelopes m) :
    All (Hands Withholds) (handleBody env P i id request) := by
  refine ((@once_handleBody env P i id request).mono
    (fun _ _ h => h.mono fun _ => Unasked.withholds) fun _ _ h => h).all fun _ _ hact => hact.mono ?_
  rintro e ⟨answers⟩ a ha
  cases ha
  cases request <;> first | exact answers.elim | exact h _ rfl

/-! ## The handler -/

theorem wp_quiet {m : ServerM α} {w : ServerWorld} (h : All (Hands Withholds) m) :
    wp (Pool.Interferes (Evolves env P)) (Accepting i) m (fun _ _ => True) (fun _ _ => True) w :=
  h.wp (I := fun _ => True) (fun _ _ _ _ => trivial) (fun _ _ _ h => ⟨h.accepting, trivial⟩) trivial

/-- A program that accepts nothing, before another. -/
theorem wp_accepting_bind {m : ServerM β} {f : β → ServerM α} {p : β → AppState → Prop} (hm : Keeps env P i m c s p)
    (hquiet : All (Hands Withholds) m)
    (hf : ∀ b s', Evolves env P s s' → p b s' →
      wp (Pool.Interferes (Evolves env P)) (Accepting i) (f b) (fun _ _ => True) (fun _ _ => True) (s', c)) :
    wp (Pool.Interferes (Evolves env P)) (Accepting i) (m >>= f) (fun _ _ => True) (fun _ _ => True) (s, c) := by
  rw [Proc.wp_bind]
  refine (wp.and hm (wp_quiet hquiet)).mono (fun _ _ h => h.2) ?_ fun _ _ _ => trivial
  rintro b ⟨s', _⟩ ⟨⟨hs, rfl, hp⟩, -⟩
  exact hf b s' hs hp

/-- What a send does, if it works, and if not. -/
theorem wp_send_or_not {R G : ServerWorld → ServerWorld → Prop} {t : Nat} {f : Frame} {w : ServerWorld}
    (h : ∀ w', R w w' → G w' ({ w'.1 with tick := w'.1.tick + 1, out := w'.1.out ++ [(t, f)] }, w'.2) ∧
      G w' ({ w'.1 with tick := w'.1.tick + 1 }, w'.2)) :
    wp R G (send env t f) (fun _ _ => True) (fun _ _ => True) w := by
  unfold send learn
  rw [Proc.wp_atomically]
  intro w' hw
  refine ⟨?_, fun _ _ => trivial, fun _ _ => trivial⟩
  dsimp only
  split
  · exact (h w' hw).1
  · exact (h w' hw).2

theorem handling_of_requests {incoming : Frame} (h : c.requests.head? = some incoming) : c.handling = incoming.body := by
  unfold Connection.requests at h
  rw [List.head?_filterMap, List.findSome?_eq_some_iff] at h
  obtain ⟨l₁, event, l₂, hlog, hevent, hbefore⟩ := h
  show (c.log.findSome? _).join = (some incoming.body).join
  refine congrArg Option.join (List.findSome?_eq_some_iff.2 ⟨l₁, event, l₂, hlog, ?_, fun x hx => ?_⟩)
  · cases event <;> simp_all
  · have hx := hbefore x hx
    cases x <;> simp_all

theorem wp_handleSendEnvelopes {incoming : Frame} {m : SendEnvelopes} (hincoming : c.requests.head? = some incoming)
    (hbody : incoming.body = some (.sendEnvelopes m)) :
    wp (Pool.Interferes (Evolves env P)) (Accepting i) (handleSendEnvelopes env P i incoming.id m)
      (fun _ _ => True) (fun _ _ => True) (s, c) := by
  have hhandling : c.handling = some (.sendEnvelopes m) := (handling_of_requests hincoming).trans hbody
  refine wp_accepting_bind keeps_usableSession hands_activeSession fun session _ _ ⟨current, active⟩ => ?_
  refine wp_accepting_bind keeps_ensure (hands_ensure _ _) fun _ _ _ _ => ?_
  refine wp_accepting_bind (keeps_each (p := fun _ => True) (fun _ _ _ h => h) (fun _ _ _ _ => keeps_checkEnvelope)
    trivial) (hands_each hands_checkEnvelope) fun _ _ _ _ => ?_
  refine wp_accepting_bind keeps_nowMs hands_nowMs fun now s₁ _ _ => ?_
  refine wp_accepting_bind (p := fun _ s' => ∃ db, s'.Had db ∧ db.BatchStored session.account.id session.deviceId
    ((m.envelopes.head?.map EncryptedEnvelope.logicalMessageId).getD "") m.envelopes) ?_
    (hands_executeRecording fun _ _ => by simp) fun destinations s₂ _ hstored => ?_
  · refine wp_executeRecording (fun _ _ h => ⟨h, rfl⟩) fun s₂ hs₂ r hr => ?_
    have hstep : ServerStep env P i (s₂, c) ({ s₂ with
        db := r.2
        past := s₂.db :: s₂.past
        tick := s₂.tick + 1
        log := (addedRows s₂.db r.2).map ServerEvent.stored ++ s₂.log }, c) := by
      refine .wrote _ [] (.stored session m now _ current active hr hhandling) (fun row hrow => ?_)
        (fun row hrow => ?_) (.inl rfl)
      · obtain ⟨_, hmem, heq⟩ := List.mem_map.1 hrow
        cases heq
        exact mem_addedRows hmem
      · obtain ⟨_, _, heq⟩ := List.mem_map.1 hrow
        cases heq
    exact ⟨hstep, .trans hs₂ hstep.evolves, rfl, r.2, .inl rfl, Db.storeEnvelopes_batchStored hr⟩
  refine wp_accepting_bind (keeps_each (p := fun _ => True) (fun _ _ _ h => h) (fun _ _ _ _ => keeps_pushStored)
    trivial) (@hands_withholds i _ "" _ (hands_each (hands_pushStored _))) fun _ s₃ hs₃ _ => ?_
  obtain ⟨db, had, hstored⟩ := hstored
  refine wp_send_or_not fun w hw => ⟨fun e he => ?_, fun e he => .inl he⟩
  rcases List.mem_append.1 he with he | he
  · exact .inl he
  · obtain rfl := List.mem_singleton.1 he
    refine .inr fun a ha => ⟨rfl, ?_⟩
    cases ha
    obtain ⟨hs₄, hlocal⟩ := hw
    have had₄ : w.1.Had db := (had.evolves hs₃).evolves hs₄
    refine ⟨incoming, ?_, rfl, m, hbody, session, ?_, active, db, had₄, hstored⟩
    · rw [hlocal]
      exact List.mem_of_mem_head? hincoming
    · rw [hlocal]
      exact current

/-! ## The loop -/

theorem wp_handleReporting {incoming : Frame} (hincoming : c.requests.head? = some incoming) :
    wp (Pool.Interferes (Evolves env P)) (Accepting i) (handleReporting env P i incoming)
      (fun _ _ => True) (fun _ _ => True) (s, c) := by
  unfold handleReporting
  rw [Proc.wp_bind, Proc.wp_caught]
  refine wp.mono (Q := fun _ _ => True) (E := fun _ _ => True) ?_ (fun _ _ h => h) (fun _ _ _ => ?_) fun _ _ _ => ?_
  · unfold handleFrame
    cases hbody : incoming.body with
    | none => exact (Proc.wp_fail _).2 trivial
    | some request =>
      show wp _ _ (handleBody env P i incoming.id request) _ _ _
      by_cases hrequest : ∃ m, request = .sendEnvelopes m
      · obtain ⟨m, rfl⟩ := hrequest
        exact wp_handleSendEnvelopes hincoming hbody
      · exact wp_quiet (withholds_handleBody fun m hm => hrequest ⟨m, hm⟩)
  · exact (Proc.wp_pure _).2 trivial
  · exact wp_quiet (hands_withholds (hands_sendError _ _ _))

/-- What is done between the frame and its handler. -/
theorem wp_received {incoming : Frame} {m : ServerM α} {w : ServerWorld} (h : All (Hands Withholds) m)
    (hincoming : w.2.requests.head? = some incoming) :
    wp (Pool.Interferes (Evolves env P)) (Accepting i) m (fun _ w => w.2.requests.head? = some incoming)
      (fun _ _ => True) w :=
  (h.wp (I := fun w => w.2.requests.head? = some incoming) (fun _ _ h hw => hw.2 ▸ h)
    (fun _ _ h hact => ⟨hact.accepting, hact.requests ▸ h⟩) hincoming).mono (fun _ _ h => h) (fun _ _ h => h)
    fun _ _ _ => trivial

theorem wp_serveFrame_accepting (incoming : Frame) {w : ServerWorld} :
    wp (Pool.Interferes (Evolves env P)) (Accepting i) (serveFrame env P i incoming)
      (fun _ _ => True) (fun _ _ => True) w := by
  have hrefuse : ∀ {id code message : String} {retryable : Bool} {w : ServerWorld},
      wp (Pool.Interferes (Evolves env P)) (Accepting i) (do sendError env i id code message retryable; close i)
        (fun _ _ => True) (fun _ _ => True) w := fun {id _ _ _ _} =>
    wp_quiet (hands_bind (@hands_withholds i _ id _ (hands_sendError _ _ _)) fun _ => hands_close)
  unfold serveFrame record modifyConnection
  rw [Proc.wp_bind, Proc.wp_atomically]
  rintro w' -
  refine ⟨fun e he => .inl he, fun _ _ => ?_, fun _ _ => trivial⟩
  refine (Proc.wp_ite ..).2 ⟨fun _ => hrefuse, fun _ => ?_⟩
  refine wp.bind (wp_received hands_takeRequest rfl) fun admitted w₁ h₁ => ?_
  refine (Proc.wp_ite ..).2 ⟨fun _ => hrefuse, fun _ => ?_⟩
  refine wp.bind (wp_received hands_recheckAccess h₁) fun allowed w₂ h₂ => ?_
  exact (Proc.wp_ite ..).2 ⟨fun _ => hrefuse, fun _ => wp_handleReporting h₂⟩

theorem wp_serve_accepting (m : Incoming) {w : ServerWorld} :
    wp (Pool.Interferes (Evolves env P)) (Accepting i) (serve env P i m) (fun _ _ => True) (fun _ _ => True) w := by
  rcases @hands_serve env P i m with ⟨incoming, -, heq⟩ | hquiet
  · rw [heq]
    exact wp_serveFrame_accepting incoming
  · exact wp_quiet (hands_withholds hquiet)

end Ws

/-! ## Runs -/

namespace Cluster

/-- What every program guarantees. -/
def Promises (env : ServerEnvironment) (P : Primitives) (i : Nat) (w w' : ServerWorld) : Prop :=
  ServerStep env P i w w' ∧ Ws.Accepting i w w'

structure Promising (env : ServerEnvironment) (P : Primitives) (p : Cluster) : Prop where
  guaranteed : p.Guaranteed (Evolves env P) (Promises env P)
  serving : p.Serving env P
  accepts : ∀ i, Accepts i p.shared (p.locals i)

variable {p p' : Cluster}

theorem Promising.start {m : ServerM Unit} (h : p.Promising env P) (hserving : Serving env P (p.start i m))
    (hserves : Serves env P i m (p.locals i) p.shared)
    (haccepting : wp (Pool.Interferes (Evolves env P)) (Ws.Accepting i) m (fun _ _ => True) (fun _ _ => True)
      (p.world i)) : Promising env P (p.start i m) :=
  ⟨h.guaranteed.start ((wp.and hserves haccepting).mono (fun _ _ h => h) (fun _ _ _ => trivial) fun _ _ _ => trivial),
    hserving, h.accepts⟩

theorem Promising.advance (h : p.Promising env P) (i : Nat) : Promising env P (p.advance i) := by
  obtain ⟨hguaranteed, hmoved⟩ := h.guaranteed.advance (fun _ _ _ h => h.1.evolves) i
  refine ⟨hguaranteed, (h.serving.advance i).1, fun j f a hout hbody => ?_⟩
  rcases hmoved with ⟨hshared, hlocals⟩ | ⟨⟨hstep, haccepting⟩, hothers⟩
  · rw [hshared] at hout ⊢
    rw [hlocals]
    exact h.accepts j f a hout hbody
  · by_cases hj : j = i
    · subst hj
      rcases haccepting _ hout with hold | hnew
      · exact (h.accepts j f a hold hbody).step hstep
      · exact (hnew a hbody).2
    · rw [hothers, Function.update_of_ne hj]
      rcases haccepting _ hout with hold | hnew
      · exact (h.accepts j f a hold hbody).evolves hstep.evolves
      · exact absurd (hnew a hbody).1 hj

theorem Promising.step (h : p.Promising env P) {l : Label} (hs : Cluster.step env P p l = some p') :
    p'.Promising env P := by
  have hserving := (h.serving.step hs).1
  cases l with
  | incoming i m =>
    obtain ⟨-, hp'⟩ := Option.ite_none_right_eq_some.1 hs
    cases hp'
    exact h.start hserving (Ws.serve_serves (h.serving.took i) m) (Ws.wp_serve_accepting m)
  | command i c =>
    obtain ⟨-, hp'⟩ := Option.ite_none_right_eq_some.1 hs
    cases hp'
    exact h.start hserving (Admin.keeps_runCommand c).serves (Ws.wp_quiet (Admin.hands_runCommand c))
  | advance i =>
    obtain ⟨-, hp'⟩ := Option.ite_none_right_eq_some.1 hs
    cases hp'
    exact h.advance i
  | crash =>
    cases hs
    exact ⟨fun _ _ hm => (nomatch hm), hserving, fun i f a hout hbody => ⟨(h.accepts i f a hout hbody).request⟩⟩

end Cluster

/-- In every run, a connection that was told that its message is accepted had asked for it, and the message was stored. -/
theorem accepted_stored {p : Cluster} (h : (serverSystem env P).Reachable p) {f : Frame} {a : SendAccepted}
    (hout : (i, f) ∈ p.shared.out) (hbody : f.body = some (.sendAccepted a)) :
    ∃ g ∈ (p.locals i).requests, f.id = g.id ∧ ∃ m, g.body = some (.sendEnvelopes m) ∧
      ∃ session, (p.locals i).session = some session ∧ ∃ db, p.shared.Had db ∧
        db.BatchStored session.account.id session.deviceId a.logicalMessageId m.envelopes := by
  have hall : p.Promising env P := h.invariant
    (fun _ hp => by
      subst hp
      exact ⟨fun _ _ hm => (nomatch hm), Cluster.serving (.init rfl), fun _ _ _ hout => (nomatch hout)⟩)
    fun _ _ _ hp _ hs => hp.step hs
  obtain ⟨g, hg, hid, m, hm, session, hsession, -, db, had, hstored⟩ := (hall.accepts i f a hout hbody).request
  exact ⟨g, hg, hid, m, hm, session, hsession, db, had, hstored⟩

namespace Scenario.Accepted

/-- Carol writes to Alice, and is told that the message is accepted. -/
def written : Cluster := clusterAfter (correspondents ++
  [.frame 1 (.sendEnvelopes { envelopes := [letterOf (uuid '1') '1' '1' (uuid '1') (uuid 'a')] })])

def isAcceptance (e : Nat × Frame) : Bool :=
  match e.2.body with
  | some (.sendAccepted _) => e.1 = 1
  | _ => false

theorem written_accepted : ∃ f a, (1, f) ∈ written.shared.out ∧ f.body = some (.sendAccepted a) ∧
    ∃ g ∈ (written.locals 1).requests, f.id = g.id ∧ ∃ m, g.body = some (.sendEnvelopes m) ∧
      ∃ session, (written.locals 1).session = some session ∧ ∃ db, written.shared.Had db ∧
        db.BatchStored session.account.id session.deviceId a.logicalMessageId m.envelopes := by
  have hany : written.shared.out.any isAcceptance = true := by decide +kernel
  obtain ⟨⟨t, f⟩, hout, haccepts⟩ := List.any_eq_true.1 hany
  unfold isAcceptance at haccepts
  split at haccepts
  · next a hbody =>
    obtain rfl := of_decide_eq_true haccepts
    exact ⟨f, a, hout, hbody, accepted_stored (clusterAfter_reachable _) hout hbody⟩
  · cases haccepts

end Scenario.Accepted

end TuiChat
