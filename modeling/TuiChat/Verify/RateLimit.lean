import TuiChat.Client.Frames
import TuiChat.Verify.ServerScenario
import TuiChat.Verify.TokenBuckets
import Mathlib.Tactic.Linarith
import Mathlib.Tactic.Positivity

/-!
# The request bucket and the bursts of an honest client

A bucket admits a number of frames whatever the time between them exactly if it holds a token for
each of them now (`TokenBucket.admitsAnySpacing_iff`): nothing is refilled between frames that come
at once. An approver hands over four frames and one for every four messages of the history, and a
batch is answered with one acknowledgement for each envelope that is processed.
-/

namespace TuiChat

open Lib
open Lib.Prog (wp)

/-! ## The bucket -/

namespace TokenBucket

variable {b : TokenBucket} {perMinute burst now : Nat}

/-- The bucket admits all frames that arrive at the instants. -/
def admits (b : TokenBucket) (perMinute burst : Nat) : List Nat → Bool
  | [] => true
  | now :: arrivals =>
    let r := b.take perMinute burst now
    r.1 && r.2.admits perMinute burst arrivals

/-- The bucket admits the frames, whatever instants they arrive at from now on. -/
def AdmitsAnySpacing (b : TokenBucket) (perMinute burst : Nat) {α : Type} (frames : List α) : Prop :=
  ∀ arrivals : List Nat, arrivals.length = frames.length → (b.updated :: arrivals).Pairwise (· ≤ ·) →
    b.admits perMinute burst arrivals = true

/-- The tokens that a frame finds. -/
def found (b : TokenBucket) (perMinute burst now : Nat) : ℚ :=
  min (b.tokens + (now - b.updated : Nat) / 10 ^ 9 * (perMinute / 60)) burst

theorem take_eq : b.take perMinute burst now =
    if b.found perMinute burst now < 1 then (false, { tokens := b.found perMinute burst now, updated := now })
    else (true, { tokens := b.found perMinute burst now - 1, updated := now }) := rfl

theorem perSecond_nonneg (perMinute : Nat) : (0 : ℚ) ≤ perMinute / 60 := by positivity

theorem Valid.le_found (h : b.Valid burst) (perMinute now : Nat) : b.tokens ≤ b.found perMinute burst now :=
  h.le_level (perSecond_nonneg perMinute) now

theorem Valid.take (h : b.Valid burst) (perMinute now : Nat) : (b.take perMinute burst now).2.Valid burst :=
  h.takeRate (perSecond_nonneg perMinute) now

/-- A bucket with a token to spare admits a frame, and has the others still. -/
theorem Valid.take_admitted (h : b.Valid burst) (perMinute now : Nat) {k : Nat} (hk : (k + 1 : ℚ) ≤ b.tokens) :
    (b.take perMinute burst now).1 = true ∧ (k : ℚ) ≤ (b.take perMinute burst now).2.tokens := by
  have hfound := h.le_found perMinute now
  have hpos : (0 : ℚ) ≤ k := Nat.cast_nonneg k
  rw [take_eq, if_neg (by linarith)]
  exact ⟨rfl, by dsimp only; linarith⟩

theorem admits_of_le : ∀ (arrivals : List Nat) {b : TokenBucket}, b.Valid burst →
    (arrivals.length : ℚ) ≤ b.tokens → b.admits perMinute burst arrivals = true
  | [], _, _, _ => rfl
  | now :: arrivals, b, h, hle => by
    have hle' : (arrivals.length + 1 : ℚ) ≤ b.tokens := by
      simpa using hle
    obtain ⟨hadmitted, hrest⟩ := h.take_admitted perMinute now hle'
    show (_ && _) = true
    rw [hadmitted, Bool.true_and]
    exact admits_of_le arrivals (h.take perMinute now) hrest

/-- Nothing is refilled at one instant. -/
theorem Valid.take_at_once (h : b.Valid burst) (hadmitted : (b.take perMinute burst b.updated).1 = true) :
    1 ≤ b.tokens ∧ (b.take perMinute burst b.updated).2 = { b with tokens := b.tokens - 1 } := by
  have hfound : b.found perMinute burst b.updated = b.tokens := by
    simp [found, h.le]
  rw [take_eq, hfound] at hadmitted ⊢
  split at hadmitted
  · cases hadmitted
  · next hlt =>
    rw [if_neg hlt]
    exact ⟨not_lt.1 hlt, rfl⟩

theorem le_of_admits_at_once : ∀ (k : Nat) {b : TokenBucket}, b.Valid burst →
    b.admits perMinute burst (List.replicate k b.updated) = true → (k : ℚ) ≤ b.tokens
  | 0, _, h, _ => by simpa using h.nonneg
  | k + 1, b, h, hadmits => by
    have hboth := Bool.and_eq_true_iff.1 (show (_ && _) = true from hadmits)
    obtain ⟨hone, hnext⟩ := h.take_at_once hboth.1
    have hrest := hboth.2
    have hvalid := h.take perMinute b.updated
    rw [hnext] at hrest hvalid
    have hk := le_of_admits_at_once k hvalid hrest
    push_cast
    linarith

/-- Frames are admitted whatever their spacing exactly if there is a token for each of them now. -/
theorem admitsAnySpacing_iff {α : Type} {frames : List α} (h : b.Valid burst) :
    b.AdmitsAnySpacing perMinute burst frames ↔ (frames.length : ℚ) ≤ b.tokens := by
  constructor
  · intro hadmits
    refine le_of_admits_at_once _ h (hadmits _ List.length_replicate ?_)
    rw [← List.replicate_succ]
    exact List.pairwise_replicate.2 (.inr le_rfl)
  · intro hle arrivals hlength _
    exact admits_of_le arrivals h (by rwa [hlength])

end TokenBucket

/-- The bucket of a connection never holds more than a burst. -/
theorem bucket_valid {env : ServerEnvironment} {P : Primitives} {p : Cluster}
    (h : (serverSystem env P).Reachable p) (t : Nat) : (p.locals t).bucket.Valid env.requestBurst := by
  refine Cluster.invariant_connection (I := fun c => c.bucket.Valid env.requestBurst) h
    ⟨Nat.cast_nonneg _, le_rfl⟩ (fun i s c s' c' hI hs => ?_) (fun _ hI => hI) t
  cases hs with
  | bucket => exact hI.take _ _
  | _ => exact hI

/-! ## The frames of an approver -/

section Client

variable {P : Primitives} {env : Environment} {w : World P}

/-- A number of frames was handed to the connection, and no message row was touched. -/
structure Emits (n : Nat) (w w' : World P) : Prop where
  messages : w'.store.messages = w.store.messages
  sent : ∃ frames, w'.sent = w.sent ++ frames ∧ frames.length = n

theorem Emits.trans {n m : Nat} {w w' w'' : World P} (h : Emits n w w') (h' : Emits m w' w'') :
    Emits (n + m) w w'' := by
  obtain ⟨frames, hsent, rfl⟩ := h.sent
  obtain ⟨frames', hsent', rfl⟩ := h'.sent
  refine ⟨h'.messages.trans h.messages, frames ++ frames', ?_, List.length_append⟩
  rw [hsent', hsent, List.append_assoc]

theorem Emits.of_eq {w w' : World P} (hmessages : w'.store.messages = w.store.messages)
    (hsent : w'.sent = w.sent) : Emits 0 w w' := ⟨hmessages, [], by simp [hsent], rfl⟩

/-- Every run that returns has handed over so many frames. -/
abbrev EmitsOnReturn {α : Type} (m : ClientM P α) (n : Nat) : Prop :=
  ∀ w, wp m (fun _ => Emits n w) (fun _ _ => True) w

variable {α β : Type} {n k : Nat} {m : ClientM P α}

theorem EmitsOnReturn.bind {f : α → ClientM P β} (hm : EmitsOnReturn m n)
    (hf : ∀ a, EmitsOnReturn (f a) k) : EmitsOnReturn (m >>= f) (n + k) := fun w =>
  (hm w).bind fun a w' h => (hf a w').mono (fun _ _ h' => h.trans h') fun _ _ h => h

/-- Before what emits frames, what emits none. -/
theorem EmitsOnReturn.then {f : α → ClientM P β} (hm : EmitsOnReturn m 0)
    (hf : ∀ a, EmitsOnReturn (f a) k) : EmitsOnReturn (m >>= f) k := by
  have h := hm.bind hf
  rwa [Nat.zero_add] at h

/-- After what emits frames, what emits none. -/
theorem EmitsOnReturn.rest {f : α → ClientM P β} (hm : EmitsOnReturn m n)
    (hf : ∀ a, EmitsOnReturn (f a) 0) : EmitsOnReturn (m >>= f) n := hm.bind hf

theorem emits_pure (a : α) : EmitsOnReturn (pure a : ClientM P α) 0 := fun _ => .of_eq rfl rfl

theorem emits_gets (f : World P → α) : EmitsOnReturn (Prog.gets f : ClientM P α) 0 := fun _ =>
  .of_eq rfl rfl

theorem emits_modify {f : World P → World P} (hmessages : ∀ w, (f w).store.messages = w.store.messages)
    (hsent : ∀ w, (f w).sent = w.sent) : EmitsOnReturn (Prog.modify f : ClientM P Unit) 0 := fun w =>
  .of_eq (hmessages w) (hsent w)

theorem emits_ensure (c : Prop) [Decidable c] (e : Error) :
    EmitsOnReturn (Prog.ensure c e : ClientM P Unit) 0 := fun _ =>
  (Prog.wp_ensure c e).2 ⟨fun _ => .of_eq rfl rfl, fun _ => trivial⟩

theorem emits_orFail (o : Option α) (e : Error) : EmitsOnReturn (Prog.orFail o e : ClientM P α) 0 :=
  fun _ => (Prog.wp_orFail o e).2 ⟨fun _ _ => .of_eq rfl rfl, fun _ => trivial⟩

theorem emits_ofExcept (r : Except Error α) : EmitsOnReturn (Prog.ofExcept r : ClientM P α) 0 := fun _ =>
  (Prog.wp_ofExcept r).2 ⟨fun _ _ => .of_eq rfl rfl, fun _ _ => trivial⟩

theorem emits_fail (e : Error) : EmitsOnReturn (Prog.fail e : ClientM P α) n := fun _ => trivial

theorem emits_draw : EmitsOnReturn (draw : ClientM P Nat) 0 :=
  .then (emits_gets _) fun _ => .then (emits_modify (fun _ => rfl) fun _ => rfl) fun _ => emits_pure _

theorem emits_nowMs : EmitsOnReturn (nowMs env : ClientM P Int) 0 := .then emits_draw fun _ => emits_pure _

theorem emits_instantNow : EmitsOnReturn (instantNow env : ClientM P Nat) 0 :=
  .then emits_draw fun _ => emits_pure _

theorem emits_attempt (e : Error) : EmitsOnReturn (attempt env e : ClientM P Unit) 0 :=
  .then emits_draw fun _ => emits_ensure _ _

theorem emits_query (f : Store P → α) : EmitsOnReturn (query env f) 0 :=
  .then (emits_attempt _) fun _ => emits_gets _

theorem emits_getApp (f : App P → α) : EmitsOnReturn (getApp f) 0 := emits_gets _

theorem emits_modifyApp (f : App P → App P) : EmitsOnReturn (modifyApp f) 0 :=
  emits_modify (fun _ => rfl) fun _ => rfl

theorem emits_sendFrame (f : Frame) : EmitsOnReturn (sendFrame env f : ClientM P Unit) 1 := fun _ =>
  wp_sendFrame ⟨rfl, [f], rfl, rfl⟩ fun _ => trivial

theorem emits_request (body : Body) : EmitsOnReturn (request env body : ClientM P (Option Body)) 1 := by
  refine .then (.then emits_draw fun _ => emits_pure _) fun id => .rest (emits_sendFrame _) fun _ => ?_
  refine .then emits_draw fun n => ?_
  split
  · exact emits_fail _
  · exact emits_fail _
  · exact emits_pure _

theorem emits_lookupBundleFresh (username : String) :
    EmitsOnReturn (lookupBundleFresh env username : ClientM P UserBundle) 1 := by
  refine .rest (emits_request _) fun response => .then (emits_orFail _ _) fun bundle => ?_
  exact .then (.then emits_instantNow fun _ => emits_modifyApp _) fun _ => emits_pure _

theorem emits_completeNotification (id : String) :
    EmitsOnReturn (markNotificationState env id .completed true : ClientM P Unit) 0 := by
  have hexecute : ∀ now, EmitsOnReturn
      (execute env fun s : Store P => some (s.updateNotificationState id .completed true now)) 0 :=
    fun _ _ => wp_executeRecording (fun _ => trivial) fun store hs => by
      cases hs
      exact .of_eq rfl rfl
  have hrefresh : EmitsOnReturn (refreshNotifications env : ClientM P Unit) 0 :=
    .then (emits_getApp _) fun _ => .then (emits_query _) fun _ => emits_modifyApp _
  exact .then emits_nowMs fun now => .then (hexecute now) fun _ => hrefresh

theorem emits_sendPairingPayload (pairing : PairingSession) (eventType : String) (plaintext : Bytes) :
    EmitsOnReturn (sendPairingPayload env pairing eventType plaintext : ClientM P Unit) 1 :=
  .then emits_draw fun _ => emits_sendFrame _

theorem emits_each {f : α → ClientM P Unit} (hf : ∀ a, EmitsOnReturn (f a) 1) :
    ∀ as : List α, EmitsOnReturn (Prog.each f as) as.length
  | [] => emits_pure ()
  | a :: as => by
    rw [List.length_cons, Nat.add_comm]
    exact (hf a).bind fun _ => emits_each hf as

/-- The master secret, the history in pieces of four, and the end mark. -/
theorem emits_sendTransfers (pairing : PairingSession) (master : Bytes) (w : World P) :
    wp (sendTransfers env pairing master)
      (fun _ => Emits ((w.store.exportMessages.length + 3) / 4 + 2) w) (fun _ _ => True) w := by
  unfold sendTransfers
  refine (emits_query _ w).bind fun contacts w₁ hw₁ => ?_
  refine (emits_sendPairingPayload pairing _ _ w₁).bind fun _ w₂ hw₂ => ?_
  have hw : Emits 1 w w₂ := by simpa using hw₁.trans hw₂
  have hhistory : w₂.store.exportMessages = w.store.exportMessages := by
    simp [Store.exportMessages, hw.messages]
  rw [Prog.wp_bind]
  refine wp_query ?_ fun _ => trivial
  rw [hhistory]
  have htick : Emits 1 w w₂.ticked := ⟨hw.messages, hw.sent⟩
  refine (emits_each (fun _ => emits_sendPairingPayload pairing _ _) _ w₂.ticked).bind fun _ w₃ hw₃ => ?_
  refine (emits_sendPairingPayload pairing _ _ w₃).mono (fun _ w₄ hw₄ => ?_) fun _ _ h => h
  have hall := (htick.trans hw₃).trans hw₄
  rw [length_chunks _ (by decide)] at hall
  rwa [show 1 + (w.store.exportMessages.length + 4 - 1) / 4 + 1 =
    (w.store.exportMessages.length + 3) / 4 + 2 by omega] at hall

/-- The bootstrap and the transfers, one lookup, and the activation. -/
theorem emits_finishPairingAsApprover (w : World P) :
    wp (finishPairingAsApprover env) (fun _ => Emits ((w.store.exportMessages.length + 3) / 4 + 4) w)
      (fun _ _ => True) w := by
  unfold finishPairingAsApprover
  rw [wp_getApp_bind, Prog.wp_bind]
  show wp _ _ _ { w with app := { w.app with pairing := none } }
  refine wp.orFail trivial fun pairing hpairing => ?_
  split
  · trivial
  rw [wp_getApp_bind]
  refine wp.ofExcept (fun _ => trivial) fun device hdevice => ?_
  rw [wp_record_bind]
  refine wp.orFail trivial fun master _ => ?_
  refine (emits_sendTransfers pairing master _).bind fun _ w₁ hw₁ => ?_
  have hrest : ∀ m : ClientM P Unit, EmitsOnReturn m 2 →
      wp m (fun _ => Emits ((w.store.exportMessages.length + 3) / 4 + 4) w) (fun _ _ => True) w₁ := fun m hm =>
    (hm w₁).mono (fun _ w₂ hw₂ => ⟨(hw₁.trans hw₂).messages, (hw₁.trans hw₂).sent⟩) fun _ _ h => h
  refine hrest _ (.then (emits_getApp _) fun username => ?_)
  refine EmitsOnReturn.bind (k := 1) (emits_lookupBundleFresh _) fun bundle => ?_
  refine .then (emits_ofExcept _) fun signature => .rest (emits_request _) fun _ => ?_
  refine .then (emits_query _) fun notification => ?_
  cases notification with
  | none => exact emits_modifyApp _
  | some n => exact .then (emits_completeNotification _) fun _ => emits_modifyApp _

/-! ## The acknowledgements of a batch -/

/-- Whatever is processed is an envelope. -/
theorem Walk.length_marked {es : List StoredEnvelope} {v v' : View P}
    (h : Walk (acknowledgedAll es) v v') : (marked (acknowledgedAll es)).length = es.length := by
  induction es generalizing v with
  | nil => rfl
  | cons e es ih =>
    cases h with
    | processed hr step rest =>
      cases step with
      | processed envelope henvelope =>
        have hack : e.ack = some { envelopeId := envelope.envelopeId, cursor := e.cursor } := by
          rw [StoredEnvelope.ack, henvelope]
          rfl
        simpa [marked, acknowledgedAll, hack] using ih rest

/-! ## The bursts -/

/-- On every connection of the server, whatever time passes between them, all frames of an approval
are admitted exactly if the bucket holds a token for every four messages of the history and four more;
and all acknowledgements of a batch, exactly if it holds one for each envelope above the cursor. -/
theorem burst_admitted_iff {server : ServerEnvironment} {p : Cluster} {profile : RuntimeProfile P}
    (hp : (serverSystem server P).Reachable p) (hw : (clientSystem env profile).Reachable w) (t : Nat) :
    (∀ w', (finishPairingAsApprover env).exec w = (.ok (), w') →
      ∃ frames, w'.sent = w.sent ++ frames ∧
        ((p.locals t).bucket.AdmitsAnySpacing server.requestsPerMinute server.requestBurst frames ↔
          (((w.store.exportMessages.length + 3) / 4 + 4 : Nat) : ℚ) ≤ (p.locals t).bucket.tokens)) ∧
      ∀ batch w', (handleSyncBatch env batch).exec w = (.ok (), w') →
        ∃ acks, acknowledgements w'.sent = acknowledgements w.sent ++ acks ∧
          ((p.locals t).bucket.AdmitsAnySpacing server.requestsPerMinute server.requestBurst acks ↔
            ((advancing batch.envelopes w.store.envelopeCursor).length : ℚ) ≤
              (p.locals t).bucket.tokens) := by
  have hvalid := bucket_valid hp t
  constructor
  · intro w' hrun
    obtain ⟨frames, hsent, hlength⟩ := ((emits_finishPairingAsApprover w).ok hrun).sent
    exact ⟨frames, hsent, by rw [TokenBucket.admitsAnySpacing_iff hvalid, hlength]⟩
  · intro batch w' hrun
    have hwalk := (handleSyncBatch_walks batch).ok hrun
    refine ⟨_, hwalk.acknowledgements (queues hw), ?_⟩
    rw [TokenBucket.admitsAnySpacing_iff hvalid, hwalk.length_marked]

end Client

namespace Scenario.FullMailbox

/-- Texts of Bob, whom Alice does not know yet, with ids of two digits. -/
def texts (n : Nat) : List WirePayload :=
  (List.range n).map fun i => payload "text" (toString (10 + i)) "bob" "alice" "hello" []

/-- The number of a text, of the digits of its id in the JSON. -/
def number (b : Bytes) : Nat := ((b.getD 41 0).toNat - 49) * 10 + ((b.getD 42 0).toNat - 48)

/-- Bob's bundle is looked up once. -/
def lookups : Environment :=
  { environment (fun _ => [bundle "bob" 5 [("b1", 6)]]) [] with
    instant := fun _ => 0
    payloadFromSlice := fun b => (texts 90)[number b]? }

def alice : World primitives := .ofProfile (firstDevice "alice" "a1" 1 2)

/-- Bob's first texts, as one page of the mailbox. -/
def page (n : Nat) : SyncBatch :=
  { envelopes := (texts n).mapIdx fun i text =>
      envelope (i + 1) "b1" (conversationId primitives.sha256 "bob" "alice") 6 "a1" text
    nextCursor := n
    hasMore := false
    deliveryUpdates := []
    nextStatusCursor := 0 }

/-- The end of the handling of a page. -/
def handled (n : Nat) : Except Error Unit × World primitives :=
  (handleSyncBatch lookups (page n)).exec alice

theorem alice_reachable : (clientSystem lookups (firstDevice "alice" "a1" 1 2)).Reachable alice :=
  reachable_ofProfile _ _ []

theorem initial_reachable : (serverSystem server primitives).Reachable (.initial server) := .init rfl

theorem burst_admitted_iff_two :
    ∃ acks, acknowledgements (handled 2).2.sent = acknowledgements alice.sent ++ acks ∧
      (((Cluster.initial server).locals 0).bucket.AdmitsAnySpacing 120 30 acks ↔
        ((advancing (page 2).envelopes alice.store.envelopeCursor).length : ℚ) ≤ 30) := by
  have hok : (handled 2).1 = .ok () := by decide +kernel
  have hrun : (handleSyncBatch lookups (page 2)).exec alice = (.ok (), (handled 2).2) :=
    Prod.ext hok (by rw [handled])
  have hburst := (burst_admitted_iff (t := 0) initial_reachable alice_reachable).2 (page 2) _ hrun
  exact hburst

/-- A page of 31 envelopes is acknowledged to its end, and a connection that has had no frame yet
does not admit the acknowledgements where they arrive at once. -/
theorem full_page_refused :
    (handled 31).1 = .ok () ∧ (acknowledgements (handled 31).2.sent).length = 31 ∧
      ¬ ((Cluster.initial server).locals 0).bucket.AdmitsAnySpacing 120 30
        (acknowledgements (handled 31).2.sent) := by
  have hlength : (acknowledgements (handled 31).2.sent).length = 31 := by decide +kernel
  refine ⟨by decide +kernel, hlength, fun hadmits => ?_⟩
  have hle := (TokenBucket.admitsAnySpacing_iff (bucket_valid initial_reachable 0)).1 hadmits
  rw [hlength] at hle
  exact absurd hle (by decide +kernel)

end Scenario.FullMailbox

end TuiChat
