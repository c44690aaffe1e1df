import TuiChat.Verify.Quarantine

/-!
# Which conversation a text is in

`send_text` computes the conversation of a message from the two accounts; what a batch brings is put
into the conversation that its envelope names, which only the deletion of a conversation compares
with the payload. A text is in the conversation with its peer exactly where the envelopes it was taken
from name that conversation (`bound_iff_envelopes_bound`), and then it is shown nowhere else.
-/

namespace TuiChat

open Lib

variable {P : Primitives} {env : Environment} {profile : RuntimeProfile P} {v v' : View P} {w : World P}

/-- The message is in the conversation of an account with the message's peer. -/
def ChatMessage.Bound (P : Primitives) (own : String) (m : ChatMessage) : Prop :=
  m.conversationId = TuiChat.conversationId P.sha256 own m.peerAccountId

/-- The envelope of a commit names the conversation of an account with the payload's peer. -/
def Commit.Bound (P : Primitives) (own : String) (c : Commit) : Prop :=
  c.conversationId = TuiChat.conversationId P.sha256 own c.peer

/-- The commit of a message. -/
structure Commit.Brought (c : Commit) (m : ChatMessage) : Prop where
  messageId : c.messageId = m.id
  peer : c.peer = m.peerAccountId
  conversation : c.conversationId = m.conversationId

theorem Commit.Brought.bound_iff {c : Commit} {m : ChatMessage} (h : c.Brought m) (own : String) :
    c.Bound P own ↔ m.Bound P own := by
  unfold Commit.Bound ChatMessage.Bound
  rw [h.conversation, h.peer]

/-- A pairing channel brought the message. -/
def MigratedMessage (log : List Event) (m : ChatMessage) : Prop :=
  ∃ s, Event.migrated s (.message m.id) ∈ log

/-- Another conversation of the account has the id of the one with `peer`. -/
def Collides (P : Primitives) (own peer account : String) : Prop :=
  account ≠ peer ∧ conversationId P.sha256 own account = conversationId P.sha256 own peer

/-- Where a message that is stored comes from. -/
inductive Source (P : Primitives) (own : String) (log : List Event) (m : ChatMessage) : Prop
  | here (bound : m.Bound P own)
  | migrated (h : MigratedMessage log m)
  | brought (c : Commit) (logged : .committed c ∈ log) (brought : c.Brought m)

namespace Source

variable {own : String} {log log' : List Event} {m : ChatMessage}

theorem of_suffix (h : Source P own log m) (hl : log <:+ log') : Source P own log' m := by
  cases h with
  | here bound => exact .here bound
  | migrated h => exact .migrated (h.imp fun _ h => hl.subset h)
  | brought c logged brought => exact .brought c (hl.subset logged) brought

/-- A status is no part of where a message comes from. -/
theorem withStatus (h : Source P own log m) (status : MessageStatus) :
    Source P own log { m with status } := by
  cases h with
  | here bound => exact .here bound
  | migrated h => exact .migrated h
  | brought c logged brought =>
    exact .brought c logged ⟨brought.messageId, brought.peer, brought.conversation⟩

theorem of_storable (h : v.Storable m) (hb : v.Belongs profile) :
    Source P profile.accountId v.log m := by
  cases h with
  | own inbound conversation =>
    refine .here ?_
    rw [hb.current.account] at conversation
    exact conversation
  | migrated s pending logged => exact .migrated ⟨s, logged⟩
  | received c logged sourced messageId peer conversation =>
    exact .brought c logged ⟨messageId, peer, conversation⟩

end Source

namespace View

/-- Every stored message has a source. -/
def Supplied (v : View P) (own : String) : Prop := ∀ m ∈ v.messages, Source P own v.log m

theorem Supplied.of_suffix {own : String} (h : v.Supplied own) (hl : v.log <:+ v'.log)
    (hm : ∀ m ∈ v'.messages, ∃ m' ∈ v.messages, m = { m' with status := m.status }) :
    v'.Supplied own := by
  intro m hmem
  obtain ⟨m', hm', he⟩ := hm m hmem
  rw [he]
  exact ((h m' hm').withStatus m.status).of_suffix hl

theorem Supplied.quietStep (h : v.Supplied profile.accountId) (hb : v.Belongs profile)
    (hs : QuietStep v v') : v'.Supplied profile.accountId := by
  have hkept : ∀ m ∈ v.messages, ∃ m' ∈ v.messages, m = { m' with status := m.status } :=
    fun m hm => ⟨m, hm, rfl⟩
  have hlog := hs.log
  cases hs with
  | message m storable =>
    intro m' hm'
    rcases Table.mem_insertOrIgnore.1 hm' with hm' | ⟨rfl, -⟩
    · exact h m' hm'
    · exact Source.of_storable (v := v) storable hb
  | raised id cause messages rows =>
    exact h.of_suffix hlog fun m hm => (rows m hm).imp fun _ h => ⟨h.1, h.2.1⟩
  | deleted peer conversation own =>
    exact h.of_suffix hlog fun m hm => hkept m (Table.mem_delete.1 hm).1
  | upsert | imported | loaded | shown | opened | displayed | verified | flags | committed | decrypted
    | encrypted | aside | requested | sent | started | joined | marked | compared | migrated | ended
    | certified | handled => exact h.of_suffix hlog hkept

theorem Supplied.step (h : v.Supplied profile.accountId) (hb : v.Belongs profile)
    (hs : AnyStep v v') : v'.Supplied profile.accountId := by
  have hkept : ∀ m ∈ v.messages, ∃ m' ∈ v.messages, m = { m' with status := m.status } :=
    fun m hm => ⟨m, hm, rfl⟩
  rcases hs with hs | ⟨stored, acknowledged, -, hs⟩ | selected | _
  · cases hs with
    | quiet hq => exact h.quietStep hb hq
    | outgoing | restarted => exact h.of_suffix (List.suffix_cons _ _) hkept
    | machine | profile | saved => exact h.of_suffix List.suffix_rfl hkept
  · cases hs
    exact h.of_suffix (List.suffix_cons _ _) hkept
  · exact h.of_suffix (List.suffix_cons _ _) hkept
  · exact h.of_suffix List.suffix_rfl hkept

end View

/-- In every reachable state, a stored message that no pairing channel brought is in the conversation
with its peer if and only if every envelope it was taken from names that conversation; and then it is
shown in no other, unless two conversations have one id. -/
theorem bound_iff_envelopes_bound (hw : (clientSystem env profile).Reachable w) {m : ChatMessage}
    (hm : m ∈ w.store.messages) (hn : ¬ MigratedMessage w.log m) :
    (m.Bound P profile.accountId ↔
      ∀ c, .committed c ∈ w.log → c.Brought m → c.Bound P profile.accountId) ∧
    (m.Bound P profile.accountId → ∀ account, w.Shows account m →
      account = m.peerAccountId ∨ Collides P profile.accountId m.peerAccountId account) := by
  obtain ⟨hb, hsupplied⟩ := reachable_invariant
    (I := fun v => v.Belongs profile ∧ v.Supplied profile.accountId) hw
    ⟨.ofProfile profile, fun _ hm => (nomatch hm)⟩ fun v v' h hs => ⟨h.1.step hs, h.2.step h.1 hs⟩
  refine ⟨⟨fun hbound c _ hc => (hc.bound_iff _).2 hbound, fun hc => ?_⟩,
    fun hbound account hshows => ?_⟩
  · cases hsupplied m hm with
    | here bound => exact bound
    | migrated h => exact absurd h hn
    | brought c logged brought => exact (brought.bound_iff _).1 (hc c logged brought)
  · obtain ⟨-, hconv⟩ := hshows.mem
    by_cases ha : account = m.peerAccountId
    · exact .inl ha
    · refine .inr ⟨ha, ?_⟩
      have haccount : w.app.profile.accountId = profile.accountId := hb.current.account
      unfold World.conversationWith at hconv
      rw [haccount] at hconv
      exact hconv.symm.trans hbound

namespace Scenario.ForeignConversation

/-- Bob's text, in an envelope that names Alice's conversation with an account. -/
def text : WirePayload := payload "text" "1" "bob" "alice" "hello" []

def conversation (account : String) : String := conversationId primitives.sha256 "alice" account

def lookups : Environment :=
  environment (fun _ => [bundle "alice" 1 [("a1", 2)], bundle "bob" 5 [("b1", 6)]]) [text]

def received (account : String) : World primitives :=
  (World.ofProfile (firstDevice "alice" "a1" 1 2)).afterAll lookups
    [.serverEvent (batch [envelope 1 "b1" (conversation account) 6 "a1" text])]

def message (account : String) : ChatMessage :=
  { id := "1"
    conversationId := conversation account
    peerAccountId := "bob"
    senderAccountId := "bob"
    body := "hello"
    sentAtMs := 0
    status := .delivered
    inbound := true
    provenance := some
      { bundleAccountId := "bob", masterKey := bytes32 5, device := device "bob" "b1" 5 6 } }

theorem received_reachable (account : String) :
    (clientSystem lookups (firstDevice "alice" "a1" 1 2)).Reachable (received account) :=
  reachable_ofProfile _ _ _

theorem bound_iff_envelopes_bound_bob :
    ((message "bob").Bound primitives "alice" ↔
      ∀ c, .committed c ∈ (received "bob").log → c.Brought (message "bob") →
        c.Bound primitives "alice") ∧
    ((message "bob").Bound primitives "alice" → ∀ account, (received "bob").Shows account (message "bob") →
      account = "bob" ∨ Collides primitives "alice" "bob" account) := by
  have hm : message "bob" ∈ (received "bob").store.messages.rows := by decide +kernel
  have hn : ¬ MigratedMessage (received "bob").log (message "bob") := by
    have hlog : (received "bob").log.all fun e => match e with
      | .migrated .. => false
      | _ => true := by decide +kernel
    rintro ⟨s, hs⟩
    cases List.all_eq_true.1 hlog _ hs
  exact bound_iff_envelopes_bound (received_reachable "bob") hm hn

/-- Bob's text is stored in Alice's conversation with Carol and shown there, if the envelope names
it. -/
theorem bobs_text_shown_with_carol :
    (clientSystem lookups (firstDevice "alice" "a1" 1 2)).Reachable (received "carol") ∧
      message "carol" ∈ (received "carol").store.messages ∧
      ¬ (message "carol").Bound primitives "alice" ∧
      (received "carol").Shows "carol" (message "carol") ∧ (message "carol").peerAccountId = "bob" :=
  ⟨received_reachable "carol",
    (by decide +kernel : message "carol" ∈ (received "carol").store.messages.rows),
    by unfold ChatMessage.Bound; decide +kernel, .inl (by decide +kernel), rfl⟩

end Scenario.ForeignConversation

end TuiChat
