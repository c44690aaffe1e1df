import TuiChat.Verify.Attribution
import TuiChat.Verify.Pairing

/-!
# What a pairing channel may bring to a device

The handler of a bootstrap refuses a payload as long as the user has not confirmed the string of the
current channel; the handler of a history chunk does not ask. Where every chunk arrives on a session
that is marked confirmed, everything is imported from a channel whose string the user has confirmed
before, and in any case an installed master secret is that of the account's master key
(`imports_confirmed`).
-/

namespace TuiChat

open Lib

variable {P : Primitives} {env : Environment} {profile : RuntimeProfile P} {v v' : View P} {w : World P}
  {log log' : List Event} {s : PairingSession}

/-- The user has confirmed the string of the session's channel. -/
def ChannelConfirmed (log : List Event) (s : PairingSession) : Prop :=
  ∃ s', .compared s' ∈ log ∧ s'.channel = s.channel

theorem ChannelConfirmed.of_suffix (h : ChannelConfirmed log s) (hl : log <:+ log') :
    ChannelConfirmed log' s :=
  h.imp fun _ h => ⟨hl.subset h.1, h.2⟩

/-- Whatever a channel brought was imported after the user had confirmed the channel's string. -/
def ImportsConfirmed : List Event → Prop :=
  Recorded fun e before => ∀ s item, e = .migrated s item → ChannelConfirmed before s

/-- History messages arrived on sessions that were marked confirmed. -/
def HistoryGuarded (log : List Event) : Prop :=
  ∀ s id, .migrated s (.message id) ∈ log → s.ourConfirmed = true

theorem HistoryGuarded.of_suffix (h : HistoryGuarded log') (hl : log <:+ log') : HistoryGuarded log :=
  fun s id hs => h s id (hl.subset hs)

theorem ImportsConfirmed.cons {e : Event} (h : ImportsConfirmed log)
    (he : ∀ s item, e ≠ .migrated s item) : ImportsConfirmed (e :: log) :=
  ⟨fun s item hs => absurd hs (he s item), h⟩

/-- A secret is that of the account's master key, and a channel brought it. -/
def Installed (profile : RuntimeProfile P) (log : List Event) (secret : Bytes) : Prop :=
  P.verifyingKey secret = profile.accountMasterPublic ∧ ∃ s, .migrated s (.master secret) ∈ log

/-- The master secret of an identity is the one it started with or was installed. -/
def Holds (profile : RuntimeProfile P) (log : List Event) (identity : DeviceIdentity) : Prop :=
  ∀ secret, identity.master = some secret →
    profile.identity.master = some secret ∨ Installed profile log secret

theorem Holds.of_suffix {identity : DeviceIdentity} (h : Holds profile log identity)
    (hl : log <:+ log') : Holds profile log' identity := fun secret hs =>
  (h secret hs).imp id fun h => ⟨h.1, h.2.imp fun _ h => hl.subset h⟩

namespace View

/-- The current session is marked only when its channel was confirmed. -/
def MarkedConfirmed (v : View P) : Prop :=
  ∀ s, v.pairing = some s → s.ourConfirmed = true → ChannelConfirmed v.log s

theorem MarkedConfirmed.of_suffix (h : v.MarkedConfirmed) (hl : v.log <:+ v'.log)
    (hp : v'.pairing = v.pairing) : v'.MarkedConfirmed := by
  intro s hs ho
  rw [hp] at hs
  exact (h s hs ho).of_suffix hl

theorem MarkedConfirmed.quietStep (h : v.MarkedConfirmed) (hs : QuietStep v v') :
    v'.MarkedConfirmed := by
  have hlog := hs.log
  cases hs with
  | started r s known starts =>
    intro s' hs' ho
    cases hs'
    rw [starts.unconfirmed.1] at ho
    cases ho
  | joined s joins =>
    intro s' hs' ho
    cases hs'
    rw [joins.unconfirmed.1] at ho
    cases ho
  | marked s our peer current compared =>
    intro s' hs' ho
    cases hs'
    rcases compared ho with hold | hnew
    · exact h s current hold
    · exact ⟨s, hnew, rfl⟩
  | ended | certified =>
    intro s hs
    cases hs
  | upsert | imported | loaded | shown | opened | displayed | verified | flags | deleted | committed
    | message | raised | decrypted | encrypted | aside | requested | sent | compared | migrated
    | handled => exact h.of_suffix hlog rfl

theorem MarkedConfirmed.step (h : v.MarkedConfirmed) (hs : AnyStep v v') : v'.MarkedConfirmed := by
  rcases hs with hs | ⟨stored, acknowledged, -, hs⟩ | selected | _
  · cases hs with
    | quiet hq => exact h.quietStep hq
    | outgoing => exact h.of_suffix (List.suffix_cons _ _) rfl
    | machine | profile | saved => exact h.of_suffix List.suffix_rfl rfl
    | restarted =>
      intro s hs
      cases hs
  · cases hs
    exact h.of_suffix (List.suffix_cons _ _) rfl
  · exact h.of_suffix (List.suffix_cons _ _) rfl
  · exact h.of_suffix List.suffix_rfl rfl

/-- Imports were confirmed, if history messages were guarded. -/
def Guarded (v : View P) : Prop := HistoryGuarded v.log → ImportsConfirmed v.log

theorem Guarded.quietStep (h : v.Guarded) (hm : v.MarkedConfirmed) (hs : QuietStep v v') :
    v'.Guarded := by
  intro hg
  have hold : ImportsConfirmed v.log := h (hg.of_suffix hs.log)
  cases hs with
  | imported c s pending current confirmed =>
    have himport : ImportsConfirmed (.migrated s (.contact c.bundle) :: v.log) := by
      refine ⟨fun s' item hs => ?_, hold⟩
      cases hs
      exact hm s current confirmed
    exact himport.cons fun _ _ => nofun
  | migrated s item current confirmed =>
    refine ⟨fun s' item' hs => ?_, hold⟩
    cases hs
    apply hm s current
    -- A message is taken whatever the mark is: that it is set is what the guard says.
    cases item with
    | message id => exact hg s id List.mem_cons_self
    | master | contact => exact confirmed fun _ => nofun
  | upsert | loaded | opened | displayed | verified | committed | raised | decrypted | encrypted
    | requested | started | compared | certified | handled => exact hold.cons fun _ _ => nofun
  | shown | flags | deleted | message | aside | sent | joined | marked | ended => exact hold

theorem Guarded.step (h : v.Guarded) (hm : v.MarkedConfirmed) (hs : AnyStep v v') : v'.Guarded := by
  have hlogged : ∀ e : Event, (∀ s item, e ≠ .migrated s item) → HistoryGuarded (e :: v.log) →
      ImportsConfirmed (e :: v.log) := fun e he hg =>
    (h (hg.of_suffix (List.suffix_cons _ _))).cons he
  rcases hs with hs | ⟨stored, acknowledged, -, hs⟩ | selected | _
  · cases hs with
    | quiet hq => exact h.quietStep hm hq
    | outgoing | restarted => exact hlogged _ fun _ _ => nofun
    | machine | profile | saved => exact h
  · cases hs
    exact hlogged _ fun _ _ => nofun
  · exact hlogged _ fun _ _ => nofun
  · exact h

/-- Both identities hold a master secret of the account only. -/
structure HoldsMaster (v : View P) (profile : RuntimeProfile P) : Prop where
  current : Holds profile v.log v.profile.identity
  stored : Holds profile v.log v.stored.identity

theorem HoldsMaster.step (h : v.HoldsMaster profile) (hb : v.Belongs profile) (hs : AnyStep v v') :
    v'.HoldsMaster profile := by
  rcases hs with hs | ⟨stored, acknowledged, -, hs⟩ | selected | _
  · cases hs with
    | quiet hq =>
      obtain ⟨hp, hst, -⟩ := hq.same
      exact ⟨hp ▸ h.current.of_suffix hq.log, hst ▸ h.stored.of_suffix hq.log⟩
    | machine => exact ⟨h.current, h.current⟩
    | outgoing m ops message =>
      have hcurrent := h.current.of_suffix (List.suffix_cons (.queued message) v.log)
      exact ⟨hcurrent, hcurrent⟩
    | profile p account master machine pending secret pairing installed =>
      refine ⟨fun secret hs => ?_, h.stored⟩
      rcases installed with hsame | ⟨s, secret', hs', hkey, hlog⟩
      · exact h.current secret (hsame.symm.trans hs)
      · obtain rfl : secret' = secret := Option.some.inj (hs'.symm.trans hs)
        rw [master, hb.current.master] at hkey
        exact .inr ⟨hkey, s, hlog⟩
    | saved => exact ⟨h.current, h.current⟩
    | restarted =>
      have hstored := h.stored.of_suffix (List.suffix_cons (.opened none) v.log)
      exact ⟨hstored, hstored⟩
  · cases hs
    exact ⟨h.current.of_suffix (List.suffix_cons _ _), h.stored.of_suffix (List.suffix_cons _ _)⟩
  · exact ⟨h.current.of_suffix (List.suffix_cons _ _), h.stored.of_suffix (List.suffix_cons _ _)⟩
  · exact ⟨h.current, h.stored⟩

end View

/-- In every run in which history messages arrive on confirmed sessions only, everything a channel
brings is imported after the user has confirmed the channel's string, and a master secret that was
installed is that of the account's master key. -/
theorem imports_confirmed (hw : (clientSystem env profile).Reachable w) (hg : HistoryGuarded w.log) :
    ImportsConfirmed w.log ∧ Holds profile w.log w.app.profile.identity ∧
      Holds profile w.log w.store.profile.identity := by
  have hinv := reachable_invariant
    (I := fun v => v.Belongs profile ∧ (v.MarkedConfirmed ∧ v.Guarded) ∧ v.HoldsMaster profile) hw
    ⟨.ofProfile profile, ⟨nofun, fun _ => trivial⟩, fun _ h => .inl h, fun _ h => .inl h⟩
    fun v v' h hs => ⟨h.1.step hs, ⟨h.2.1.1.step hs, h.2.1.2.step h.2.1.1 hs⟩, h.2.2.step h.1 hs⟩
  obtain ⟨-, ⟨-, hguarded⟩, hmaster⟩ := hinv
  exact ⟨hguarded hg, hmaster.current, hmaster.stored⟩

namespace Scenario.EarlyHistory

open Lib.Wire (utf8)
open SubstitutedDevice (newDevice relayed)

def message : ChatMessage :=
  { id := "1"
    conversationId := conversationId primitives.sha256 "alice" "bob"
    peerAccountId := "bob"
    senderAccountId := "bob"
    body := "hello"
    sentAtMs := 0
    status := .delivered
    inbound := true
    provenance := none }

/-- A history of one message. -/
def outside : Environment :=
  { environment (fun _ => [bundle "alice" 1 [("a1", 2)]]) [] with
    historyFromSlice := fun b => if b = utf8 "history" then some { messages := [message] } else none }

/-- The server's own key, and the channel it makes with the new device. -/
def channel : PairingChannel :=
  ((establish primitives (bytes32 4) (bytes32 5) "a2").toOption).getD { key := [], sas := (0, 0, 0) }

def session (ourConfirmed : Bool) : PairingSession :=
  { pairingId := "a2"
    peerDeviceId := "a1"
    pendingDevice := .default
    channel
    approver := false
    ourConfirmed
    peerConfirmed := false }

def event (eventType : String) (payload : Bytes) : Action :=
  .serverEvent (relayed "a1" eventType payload)

/-- A key, then some actions of the user, then a history chunk. -/
def imported (between : List Action) : World primitives :=
  (World.ofProfile newDevice).afterAll outside <| event "sas_public" (bytes32 5) :: between ++
    [event "history_chunk" (channel.encrypt primitives "a2" (utf8 "history") 0)]

theorem imported_reachable (between : List Action) :
    (clientSystem outside newDevice).Reachable (imported between) :=
  reachable_ofProfile _ _ _

theorem imports_confirmed_after_comparison :
    ImportsConfirmed (imported [.confirmPairing]).log ∧
      Holds newDevice (imported [.confirmPairing]).log
        (imported [.confirmPairing]).app.profile.identity ∧
      Holds newDevice (imported [.confirmPairing]).log
        (imported [.confirmPairing]).store.profile.identity := by
  have hlog : ∀ e ∈ (imported [.confirmPairing]).log, (match e with
      | .migrated s (.message _) => s.ourConfirmed
      | _ => true) = true := by decide +kernel
  have hg : HistoryGuarded (imported [.confirmPairing]).log := fun s id h => hlog _ h
  exact imports_confirmed (imported_reachable _) hg

/-- A server that sends its own key and then a history has its messages stored, and the user has
confirmed nothing. -/
theorem history_imported_unconfirmed :
    (clientSystem outside newDevice).Reachable (imported []) ∧
      .migrated (session false) (.message "1") ∈ (imported []).log ∧
      message ∈ (imported []).store.messages ∧
      ¬ ImportsConfirmed (imported []).log := by
  have hmem : .migrated (session false) (.message "1") ∈ (imported []).log := by decide +kernel
  have hnone : ∀ e ∈ (imported []).log, (match e with
      | .compared _ => false
      | _ => true) = true := by decide +kernel
  refine ⟨imported_reachable _, hmem,
    (by decide +kernel : message ∈ (imported []).store.messages.rows), fun himports => ?_⟩
  obtain ⟨post, pre, hlog⟩ := List.append_of_mem hmem
  rw [ImportsConfirmed, hlog] at himports
  obtain ⟨s, hs, -⟩ := himports.at _ _ rfl
  have hs' : .compared s ∈ (imported []).log := by
    rw [hlog]
    exact List.mem_append_right _ (List.mem_cons_of_mem _ hs)
  cases hnone _ hs'

end Scenario.EarlyHistory

end TuiChat
