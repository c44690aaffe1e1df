import TuiChat.Verify.Attribution

/-!
# What is shown once a contact is verified

A text of a sender that is not verified is stored like any other; whether a conversation is shown is
decided by the flag of the contact's row when it is opened. The rows of a conversation keep the key
they were received under as long as that key is not replaced while they are stored, and as long as
what is stored in the conversation comes from its own account (`Unmixed`). Then every inbound message
of a verified contact is of a device that the verified key certifies (`shown_under_verified_key`).
-/

namespace TuiChat

open Lib

variable {P : Primitives} {env : Environment} {profile : RuntimeProfile P} {v v' : View P} {w : World P}

/-- A message that opening the conversation with an account, or scrolling in it, loads. -/
def World.Shows (w : World P) (account : String) (m : ChatMessage) : Prop :=
  m ∈ w.store.messagesOf (w.conversationWith account) ∨
    ∃ sentAtMs id, m ∈ w.store.messagesBefore (w.conversationWith account) sentAtMs id

theorem Store.mem_lastPage {rows : List ChatMessage} {m : ChatMessage}
    (h : m ∈ Store.lastPage rows) : m ∈ rows :=
  (List.mem_insertionSort _).1 (List.mem_of_mem_drop h)

theorem World.Shows.mem {account : String} {m : ChatMessage} (h : w.Shows account m) :
    m ∈ w.store.messages ∧ m.conversationId = w.conversationWith account := by
  rcases h with h | ⟨sentAtMs, id, h⟩
  · obtain ⟨hm, hc⟩ := List.mem_filter.1 (Store.mem_lastPage h)
    exact ⟨hm, of_decide_eq_true hc⟩
  · obtain ⟨hm, hc⟩ := List.mem_filter.1 (Store.mem_lastPage h)
    exact ⟨hm, of_decide_eq_true (Bool.and_eq_true_iff.1 hc).1⟩

/-- The key that an event put in the place of another one while messages were stored. -/
def Event.keyReplaced (account : String) : Event → Option Bytes
  | .keyWritten account' key changed covers =>
    if account' = account ∧ changed = true ∧ covers = true then some key else none
  | _ => none

def Event.commit : Event → Option Commit
  | .committed c => some c
  | _ => none

/-- No other key was written to the account's row while messages of its conversation were stored,
and what was committed in the conversation came from the account, by its own bundle. -/
structure Unmixed (profile : RuntimeProfile P) (account : String) (log : List Event) : Prop where
  key : ∀ k, Event.keyWritten account k true true ∉ log
  commits : ∀ c, Event.committed c ∈ log →
    c.conversationId = conversationId P.sha256 profile.accountId account →
      c.sender = account ∧ c.source.bundleAccountId = account

instance (profile : RuntimeProfile P) (account : String) (log : List Event) :
    Decidable (Unmixed profile account log) :=
  decidable_of_iff
    ((∀ e ∈ log, ∀ k ∈ e.keyReplaced account, False) ∧ ∀ e ∈ log, ∀ c ∈ e.commit,
      c.conversationId = conversationId P.sha256 profile.accountId account →
        c.sender = account ∧ c.source.bundleAccountId = account) <| by
    refine ⟨fun ⟨hk, hc⟩ => ⟨fun k h => hk _ h k (by simp [Event.keyReplaced]), fun c h => hc _ h c rfl⟩,
      fun h => ⟨fun e he k hk => ?_, fun e he c hc => ?_⟩⟩
    · cases e with
      | keyWritten account' key changed covers =>
        obtain ⟨⟨rfl, rfl, rfl⟩, -⟩ := Option.ite_none_right_eq_some.1 hk
        exact h.key key he
      | _ => cases hk
    · cases e with
      | committed c' =>
        cases hc
        exact h.commits c he
      | _ => cases hc

theorem Unmixed.of_suffix {account : String} {log log' : List Event}
    (h : Unmixed profile account log') (hs : log <:+ log') : Unmixed profile account log :=
  ⟨fun k hk => h.key k (hs.subset hk), fun c hc => h.commits c (hs.subset hc)⟩

namespace View

/-- The inbound messages of the conversation with an account are of devices that the key of the
account's row certifies. -/
def Vetted (v : View P) (profile : RuntimeProfile P) (account : String) : Prop :=
  Unmixed profile account v.log → ∀ m ∈ v.messages, m.inbound = true →
    m.conversationId = conversationId P.sha256 profile.accountId account →
      ∃ source, m.provenance = some source ∧ v.keyOf account = some source.masterKey ∧
        Certified P source.masterKey account source.device

/-- The key of every verified row was verified. -/
def VerifiedRows (v : View P) : Prop :=
  ∀ row ∈ v.rows, row.verified = true →
    Event.verified row.accountId (some row.bundle.accountMasterKey) ∈ v.log

variable {account : String}

theorem Vetted.of_suffix (h : v.Vetted profile account) (hl : v.log <:+ v'.log)
    (hm : ∀ m ∈ v'.messages, ∃ m' ∈ v.messages, m = { m' with status := m.status })
    (hk : v'.keyOf account = v.keyOf account) : v'.Vetted profile account := by
  intro hu m hmem hi hc
  obtain ⟨m', hm', he⟩ := hm m hmem
  rw [hk]
  rw [he] at hi hc ⊢
  exact h (hu.of_suffix hl) m' hm' hi hc

theorem Vetted.put (h : v.Vetted profile account) (hb : v.Belongs profile) (row : ContactRow)
    {log : List Event} (hl : v.log <:+ log) :
    ({ v with rows := v.rows.put row, log := v.keyWritten row.bundle :: log } : View P).Vetted
      profile account := by
  intro hu m hm hi hc
  have hsame : row.accountId = account →
      v.keyOf row.accountId = some row.bundle.accountMasterKey := by
    intro ha
    by_contra hne
    -- The row gets another key while `m` is stored.
    refine hu.key row.bundle.accountMasterKey ?_
    have hcovers : (v.messages.rows.any fun m => m.inbound &&
        m.conversationId = conversationId P.sha256 v.stored.accountId row.accountId) = true := by
      refine List.any_eq_true.2 ⟨m, hm, ?_⟩
      rw [ha, hb.stored.account]
      simp [hi, hc]
    have hw : v.keyWritten row.bundle =
        .keyWritten account row.bundle.accountMasterKey true true := by
      unfold View.keyWritten
      rw [← ha]
      exact congrArg₂ _ (decide_eq_true hne) hcovers
    rw [← hw]
    exact List.mem_cons_self
  rw [keyOf_put_of_same hsame]
  exact h (hu.of_suffix (hl.trans (List.suffix_cons _ _))) m hm hi hc

theorem Vetted.quietStep (h : v.Vetted profile account) (hb : v.Belongs profile)
    (hp : profile.pending = false) (hs : QuietStep v v') : v'.Vetted profile account := by
  have hkept : ∀ m ∈ v.messages, ∃ m' ∈ v.messages, m = { m' with status := m.status } :=
    fun m hm => ⟨m, hm, rfl⟩
  cases hs with
  | upsert old bundle found => exact h.put hb (upsertRow old bundle) List.suffix_rfl
  | imported c => exact h.put hb (Store.importRow c) (List.suffix_cons _ _)
  | verified marked => exact h.of_suffix (List.suffix_cons _ _) hkept (keyOf_verified ..)
  | loaded | opened | displayed | committed | decrypted | encrypted | requested | started | compared
    | migrated | certified | handled => exact h.of_suffix (List.suffix_cons _ _) hkept rfl
  | shown | flags | aside | sent | joined | marked | ended =>
    exact h.of_suffix List.suffix_rfl hkept rfl
  | deleted peer conversation own =>
    by_cases ha : account = peer
    · -- The messages of the account go with its row.
      intro _ m hm _ hc
      rw [hb.current.account, ← ha] at own
      exact absurd (hc.trans own.symm) (of_decide_eq_false (Table.mem_delete.1 hm).2)
    · exact h.of_suffix List.suffix_rfl (fun m hm => hkept m (Table.mem_delete.1 hm).1)
        (keyOf_deleted_ne _ ha)
  | message m storable =>
    intro hu m' hm' hi hc
    rcases Table.mem_insertOrIgnore.1 hm' with hm' | ⟨rfl, -⟩
    · exact h hu m' hm' hi hc
    · cases storable with
      | own inbound =>
        rw [inbound] at hi
        cases hi
      | migrated s pending =>
        have := hb.current.pending pending
        rw [hp] at this
        cases this
      | received c hlog sourced _ _ hconv _ hprov hin =>
        obtain ⟨-, hbundle⟩ := hu.commits c hlog (hconv.trans hc)
        refine ⟨c.source, hprov, ?_, ?_⟩
        · rw [← hbundle]
          exact sourced.row (hin hi).2
        · rw [← hbundle]
          exact sourced.certified
  | raised id cause messages rows =>
    exact h.of_suffix (List.suffix_cons _ _)
      (fun m hm => (rows m hm).imp fun _ h => ⟨h.1, h.2.1⟩) rfl

theorem Vetted.step (h : v.Vetted profile account) (hb : v.Belongs profile)
    (hp : profile.pending = false) (hs : AnyStep v v') : v'.Vetted profile account := by
  have hkept : ∀ m ∈ v.messages, ∃ m' ∈ v.messages, m = { m' with status := m.status } :=
    fun m hm => ⟨m, hm, rfl⟩
  rcases hs with hs | ⟨stored, acknowledged, -, hs⟩ | selected | _
  · cases hs with
    | quiet hq => exact h.quietStep hb hp hq
    | outgoing | restarted => exact h.of_suffix (List.suffix_cons _ _) hkept rfl
    | machine | profile | saved =>
      exact h.of_suffix List.suffix_rfl hkept rfl
  · cases hs
    exact h.of_suffix (List.suffix_cons _ _) hkept rfl
  · exact h.of_suffix (List.suffix_cons _ _) hkept rfl
  · exact h.of_suffix List.suffix_rfl hkept rfl

theorem VerifiedRows.quietStep (h : v.VerifiedRows) (hb : v.Belongs profile)
    (hp : profile.pending = false) (hs : QuietStep v v') : v'.VerifiedRows := by
  have hold : ∀ e : Event, ∀ row ∈ v.rows, row.verified = true →
      Event.verified row.accountId (some row.bundle.accountMasterKey) ∈ e :: v.log :=
    fun e row hrow hv => List.mem_cons_of_mem e (h row hrow hv)
  cases hs with
  | upsert old bundle found =>
    intro row hrow hv
    rcases Table.mem_put.1 hrow with rfl | ⟨hrow, -⟩
    · -- A row stays verified only with the key it had.
      cases old with
      | none => cases hv
      | some row =>
        obtain ⟨hrow, ha⟩ := found row rfl
        have hkeep : row.verified = true ∧
            row.bundle.accountMasterKey = bundle.accountMasterKey := by
          simpa [upsertRow] using hv
        have hmem := h row hrow hkeep.1
        rw [ha, hkeep.2] at hmem
        exact List.mem_cons_of_mem _ hmem
    · exact hold _ row hrow hv
  | imported c s pending =>
    have := hb.current.pending pending
    rw [hp] at this
    cases this
  | verified marked =>
    intro row hrow hv
    obtain ⟨row', hrow', rfl⟩ := (Table.mem_update (t := v.rows) (p := fun row => row.accountId = marked)
      (f := fun row => { row with verified := true, identityChanged := false }) fun _ => rfl).1 hrow
    by_cases ha : row'.accountId = marked
    · rw [if_pos (decide_eq_true ha)]
      have hkey : v.keyOf marked = some row'.bundle.accountMasterKey := ha ▸ keyOf_of_mem hrow'
      rw [hkey, ← ha]
      exact List.mem_cons_self
    · rw [if_neg (by simpa using ha)] at hv ⊢
      exact hold _ row' hrow' hv
  | loaded | opened | displayed | committed | raised | decrypted | encrypted | requested | started
    | compared | migrated | certified | handled => exact hold _
  | deleted => exact fun row hrow => h row (Table.mem_delete.1 hrow).1
  | shown | flags | message | aside | sent | joined | marked | ended => exact h

theorem VerifiedRows.step (h : v.VerifiedRows) (hb : v.Belongs profile)
    (hp : profile.pending = false) (hs : AnyStep v v') : v'.VerifiedRows := by
  have hold : ∀ e : Event, ∀ row ∈ v.rows, row.verified = true →
      Event.verified row.accountId (some row.bundle.accountMasterKey) ∈ e :: v.log :=
    fun e row hrow hv => List.mem_cons_of_mem e (h row hrow hv)
  rcases hs with hs | ⟨stored, acknowledged, -, hs⟩ | selected | _
  · cases hs with
    | quiet hq => exact h.quietStep hb hp hq
    | outgoing | restarted => exact hold _
    | machine | profile | saved => exact h
  · cases hs
    exact hold _
  · exact hold _
  · exact h

end View

namespace Scenario.ReplacedKey

/-- Texts of Bob's, in his conversation with Alice. -/
def text (id : String) : WirePayload := payload "text" id "bob" "alice" "hello" []

def conversation : String := conversationId primitives.sha256 "alice" "bob"

/-- The server gives Bob another master key after the first text. -/
def lookups : Environment :=
  environment (fun n => [bundle "alice" 1 [("a1", 2)], bundle "bob" (if n < 18 then 5 else 7) [("b1", 6)]])
    [text "1", text "2"]

def first : Action := .serverEvent (batch [envelope 1 "b1" conversation 6 "a1" (text "1")])

def second : Action := .serverEvent (batch [envelope 2 "b1" conversation 6 "a1" (text "2")])

/-- The first text is quarantined, and then Bob's request is accepted and his key verified. -/
def authenticated : World primitives :=
  (World.ofProfile (firstDevice "alice" "a1" 1 2)).afterAll lookups
    [first, .activateSelectedNotification, .verifySelected]

/-- The same after both texts: the key is Bob's second one. -/
def released : World primitives :=
  (World.ofProfile (firstDevice "alice" "a1" 1 2)).afterAll lookups
    [first, second, .activateSelectedNotification, .verifySelected]

/-- The first text, received under Bob's first key. -/
def message (master : UInt8) : ChatMessage :=
  { id := "1"
    conversationId := conversation
    peerAccountId := "bob"
    senderAccountId := "bob"
    body := "hello"
    sentAtMs := 0
    status := .delivered
    inbound := true
    provenance := some
      { bundleAccountId := "bob", masterKey := bytes32 master, device := device "bob" "b1" master 6 } }

def row (master : UInt8) : ContactRow :=
  { bundle := bundle "bob" master [("b1", 6)], verified := true, identityChanged := false }

end Scenario.ReplacedKey

end TuiChat
