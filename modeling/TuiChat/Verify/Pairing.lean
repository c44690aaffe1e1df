import TuiChat.Client.ActionSteps
import TuiChat.Verify.Scenario

/-!
# Which device an approver certifies

The bundle that an approver certifies is the one of the pairing request that the server relayed; the
short authentication string is derived from the request's ephemeral key and pairing id, and from
nothing else of it. So a comparison of the strings, confirmed on both sides, authenticates the
certified keys exactly when the request carried the keys of the device that showed the string
(`certified_iff_requested`).
-/

namespace TuiChat

open Lib

variable {P : Primitives} {env env' : Environment} {profile profile' : RuntimeProfile P}
  {v v' : View P} {w w' : World P} {r : PairingRequest} {s : PairingSession} {d d' : DeviceBundle}

/-- The id and the three keys of a device. -/
structure DeviceBundle.SameKeys (d d' : DeviceBundle) : Prop where
  deviceId : d.deviceId = d'.deviceId
  auth : d.authSigningKey = d'.authSigningKey
  ed : d.olmEd25519Key = d'.olmEd25519Key
  curve : d.olmCurve25519Key = d'.olmCurve25519Key

instance (d d' : DeviceBundle) : Decidable (d.SameKeys d') :=
  decidable_of_iff (d.deviceId = d'.deviceId ∧ d.authSigningKey = d'.authSigningKey ∧
    d.olmEd25519Key = d'.olmEd25519Key ∧ d.olmCurve25519Key = d'.olmCurve25519Key)
    ⟨fun h => ⟨h.1, h.2.1, h.2.2.1, h.2.2.2⟩, fun h => ⟨h.deviceId, h.auth, h.ed, h.curve⟩⟩

/-- A certificate is all that certification changes. -/
theorem certifyBundle_eq {identity : DeviceIdentity} (h : identity.certifyBundle P d = .ok d') :
    d' = { d with certificateSignature := d'.certificateSignature } := by
  unfold DeviceIdentity.certifyBundle at h
  split at h
  · cases h
  · cases h; rfl

/-! ## Sessions and the requests they were started for -/

/-- The approver's session was started for a request that the server sent. -/
def Origin (P : Primitives) (log : List Event) (s : PairingSession) : Prop :=
  ∃ r, .requested r ∈ log ∧ .started r (s.marked false false) ∈ log ∧
    r.Starts P (s.marked false false)

/-- A certificate was made when both users had confirmed, for the device of the session. -/
structure Vouched (P : Primitives) (log : List Event) (s : PairingSession) (d : DeviceBundle) :
    Prop where
  origin : Origin P log s
  confirmed : s.ourConfirmed = true ∧ s.peerConfirmed = true
  device : d = { s.pendingDevice with certificateSignature := d.certificateSignature }

theorem Origin.of_suffix {log log' : List Event} (h : Origin P log s) (hl : log <:+ log') :
    Origin P log' s :=
  h.imp fun _ h => ⟨hl.subset h.1, hl.subset h.2.1, h.2.2⟩

theorem Vouched.of_suffix {log log' : List Event} (h : Vouched P log s d) (hl : log <:+ log') :
    Vouched P log' s d :=
  ⟨h.origin.of_suffix hl, h.confirmed, h.device⟩

/-- Requests come from the server, approvers' sessions from requests, certificates from sessions. -/
structure View.Traced (v : View P) : Prop where
  requests : ∀ r ∈ v.known, .requested r ∈ v.log
  session : ∀ s, v.pairing = some s → s.approver = true → Origin P v.log s
  certificates : ∀ s d, .certified s d ∈ v.log → Vouched P v.log s d

namespace View

namespace Traced

/-- Events other than certificates change nothing, if neither do the requests and the session. -/
theorem of_log (h : v.Traced) (hl : v.log <:+ v'.log)
    (hr : ∀ r ∈ v'.known, r ∈ v.known ∨ .requested r ∈ v.log)
    (hs : ∀ s, v'.pairing = some s → s.approver = true → v.pairing = some s)
    (hc : ∀ s d, .certified s d ∈ v'.log → .certified s d ∈ v.log) : v'.Traced where
  requests r h' := hl.subset ((hr r h').elim (h.requests r) id)
  session s h' ha := (h.session s (hs s h' ha) ha).of_suffix hl
  certificates s d h' := (h.certificates s d (hc s d h')).of_suffix hl

theorem quietStep (h : v.Traced) (hs : QuietStep v v') : v'.Traced := by
  cases hs with
  | started r s known starts =>
    have hlog : v.log <:+ .started r s :: v.log := List.suffix_cons _ _
    have hs : s.marked false false = s := by
      cases s
      cases starts.unconfirmed.1
      cases starts.unconfirmed.2
      rfl
    refine ⟨fun r h' => hlog.subset (h.requests r h'), fun s' h' _ => ?_, fun s' d h' => ?_⟩
    · cases h'
      exact ⟨r, hlog.subset (h.requests r known), hs ▸ List.mem_cons_self, hs ▸ starts⟩
    · exact (h.certificates s' d (by simpa using h')).of_suffix hlog
  | marked s our peer current =>
    refine ⟨h.requests, fun s' h' ha => ?_, h.certificates⟩
    cases h'
    exact h.session s current ha
  | certified s d current approver confirmed certificate =>
    have hlog : v.log <:+ .certified s d :: v.log := List.suffix_cons _ _
    refine ⟨fun r h' => hlog.subset (h.requests r h'), nofun, fun s' d' h' => ?_⟩
    rcases List.mem_cons.1 h' with h' | h'
    · cases h'
      exact ⟨(h.session s current approver).of_suffix hlog, confirmed, certifyBundle_eq certificate⟩
    · exact (h.certificates s' d' h').of_suffix hlog
  | joined s joins =>
    refine ⟨h.requests, fun s' h' ha => ?_, h.certificates⟩
    cases h'
    cases joins.pending.symm.trans ha
  | ended => exact ⟨h.requests, nofun, h.certificates⟩
  | aside known queued requests =>
    exact h.of_log List.suffix_rfl requests (fun _ h _ => h) fun _ _ h => h
  | imported =>
    refine h.of_log ((List.suffix_cons _ _).trans (List.suffix_cons _ _)) (fun _ h => .inl h)
      (fun _ h _ => h) fun _ _ h => ?_
    simpa [keyWritten] using h
  | upsert | loaded | opened | displayed | verified | committed | raised | decrypted | encrypted
    | requested | compared | migrated | handled =>
    exact h.of_log (List.suffix_cons _ _) (fun _ h => .inl h) (fun _ h _ => h) fun _ _ h => by
      simpa [keyWritten] using h
  | shown | flags | deleted | message | sent => exact ⟨h.requests, h.session, h.certificates⟩

theorem step (h : v.Traced) (hs : AnyStep v v') : v'.Traced := by
  have logged : ∀ {e : Event} {v' : View P}, v'.log = e :: v.log → v'.known = v.known →
      v'.pairing = v.pairing → (∀ s d, e ≠ .certified s d) → v'.Traced := by
    intro e v' hl hk hp he
    refine h.of_log (hl ▸ List.suffix_cons _ _) (fun _ h => .inl (hk ▸ h)) (fun _ h _ => hp ▸ h)
      fun s d h => ?_
    rw [hl] at h
    exact (List.mem_cons.1 h).resolve_left fun h => he s d h.symm
  rcases hs with hs | ⟨stored, acknowledged, -, hs⟩ | selected | _
  · cases hs with
    | quiet hq => exact h.quietStep hq
    | outgoing => exact logged rfl rfl rfl fun _ _ => nofun
    | machine | profile | saved => exact ⟨h.requests, h.session, h.certificates⟩
    | restarted =>
      refine h.of_log (List.suffix_cons _ _) (fun _ h => .inl h) nofun fun s d h => ?_
      exact (List.mem_cons.1 h).resolve_left nofun
  · cases hs
    exact logged rfl rfl rfl fun _ _ => nofun
  · exact logged rfl rfl rfl fun _ _ => nofun
  · exact ⟨h.requests, h.session, h.certificates⟩

end Traced

end View

theorem reachable_traced (hw : (clientSystem env profile).Reachable w) : w.view.Traced :=
  reachable_invariant hw ⟨nofun, nofun, nofun⟩ fun _ _ h hs => h.step hs

/-! ## The comparison -/

/-- The bundle that the device of a profile publishes of itself. -/
def RuntimeProfile.generated (profile : RuntimeProfile P) : DeviceBundle :=
  profile.identity.publicDevice P profile.machine.account

/-- In a run of the pending device its user has confirmed a string equal to that of `s`. -/
structure Compared (env : Environment) (profile : RuntimeProfile P) (w : World P)
    (s : PairingSession) : Prop where
  reachable : (clientSystem env profile).Reachable w
  session : ∃ s', w.app.pairing = some s' ∧ s'.approver = false ∧ s'.ourConfirmed = true ∧
    s'.channel.sas = s.channel.sas

/-- In every run of an approver, against any server, what it certifies was confirmed by both sides,
and comes from a request of the server; the comparison with a pending device authenticates the keys
of the certified bundle if and only if it was the pending device's bundle that the request carried. -/
theorem certified_iff_requested (hw : (clientSystem env profile).Reachable w)
    (hc : .certified s d ∈ w.log) :
    s.ourConfirmed = true ∧ s.peerConfirmed = true ∧
      ∃ r device, .requested r ∈ w.log ∧ .started r (s.marked false false) ∈ w.log ∧
        r.pendingDevice = some device ∧
        ((Compared env' profile' w' s → d.SameKeys profile'.generated) ↔
          (Compared env' profile' w' s → device.SameKeys profile'.generated)) := by
  have hv := (reachable_traced hw).certificates s d hc
  obtain ⟨r, hr, hstarted, hstarts⟩ := hv.origin
  have hkeys : d.SameKeys profile'.generated ↔
      s.pendingDevice.SameKeys profile'.generated := by
    rw [hv.device]
    exact ⟨fun h => ⟨h.1, h.2, h.3, h.4⟩, fun h => ⟨h.1, h.2, h.3, h.4⟩⟩
  exact ⟨hv.confirmed.1, hv.confirmed.2, r, s.pendingDevice, hr, hstarted, hstarts.device,
    imp_congr_right fun _ => hkeys⟩

namespace Scenario.SubstitutedDevice

def lookups : Environment := environment (fun _ => [bundle "alice" 1 [("a1", 2)]]) []

/-- Alice's new device `a2`, before an approver has certified it. -/
def newDevice : RuntimeProfile primitives :=
  { firstDevice "alice" "a2" 1 3 with
    identity :=
      { accountId := "alice"
        deviceId := "a2"
        deviceName := "a2"
        master := none
        auth := bytes32 3 }
    pending := true
    pairingSecret := some (bytes32 4) }

/-- The announcement of `a2`, with its ephemeral key and with the device of other keys. -/
def request (key : UInt8) : PairingRequest :=
  { pairingId := "a2"
    pendingDeviceId := "a2"
    pendingDeviceName := "a2"
    sasPublicKey := primitives.x25519Public (bytes32 4)
    pendingDevice := some { device "alice" "a2" 1 key with certificateSignature := [] } }

/-- A pairing event as the server relays it. -/
def relayed (sender eventType : String) (payload : Bytes) : Frame :=
  frame "" (.pairingEvent
    { pairingId := "a2"
      targetDeviceId := ""
      eventType
      payload
      senderDeviceId := sender
      serverEventId := 0
      senderDeviceName := sender })

/-- The approver has sent its key. -/
def started (key : UInt8) : World primitives :=
  (World.ofProfile (firstDevice "alice" "a1" 1 2)).afterAll lookups
    [.serverEvent (frame "" (.pairingRequest (request key))), .startPairing none]

/-- The payload of the last event of a type. -/
def payloadOf (eventType : String) (w : World primitives) : Bytes :=
  (w.sent.findSome? fun f => match f.body with
    | some (.pairingEvent e) => if e.eventType = eventType then some e.payload else none
    | _ => none).getD []

/-- The user of the new device has confirmed the string. -/
def confirmed (key : UInt8) : World primitives :=
  (World.ofProfile newDevice).afterAll lookups
    [.serverEvent (relayed "a1" "sas_public" (payloadOf "sas_public" (started key))), .confirmPairing]

/-- So has the user of the approver, which certifies the device. -/
def approved (key : UInt8) : World primitives :=
  (started key).afterAll lookups
    [ .confirmPairing
    , .serverEvent (relayed "a2" "sas_confirmed" (payloadOf "sas_confirmed" (confirmed key))) ]

/-- The approver's session, with both confirmations. -/
def session (key : UInt8) : PairingSession :=
  { pairingId := "a2"
    peerDeviceId := "a2"
    pendingDevice := { device "alice" "a2" 1 key with certificateSignature := [] }
    channel := ((started key).app.pairing.map PairingSession.channel).getD { key := [], sas := (0, 0, 0) }
    approver := true
    ourConfirmed := true
    peerConfirmed := true }

theorem approved_reachable (key : UInt8) :
    (clientSystem lookups (firstDevice "alice" "a1" 1 2)).Reachable (approved key) :=
  reachable_afterAll _ (reachable_ofProfile _ _ _)

theorem certified_iff_requested_a2 :
    (session 3).ourConfirmed = true ∧ (session 3).peerConfirmed = true ∧
      ∃ r pending, .requested r ∈ (approved 3).log ∧
        .started r ((session 3).marked false false) ∈ (approved 3).log ∧
        r.pendingDevice = some pending ∧
        ((Compared lookups newDevice (confirmed 3) (session 3) →
            (device "alice" "a2" 1 3).SameKeys newDevice.generated) ↔
          (Compared lookups newDevice (confirmed 3) (session 3) →
            pending.SameKeys newDevice.generated)) := by
  have hc : .certified (session 3) (device "alice" "a2" 1 3) ∈ (approved 3).log := by decide +kernel
  exact certified_iff_requested (approved_reachable 3) hc

/-- A server that puts other keys into the request, and leaves the ephemeral key, has them certified
after both users have compared equal strings. -/
theorem substituted_keys_certified :
    (clientSystem lookups (firstDevice "alice" "a1" 1 2)).Reachable (approved 9) ∧
      .certified (session 9) (device "alice" "a2" 1 9) ∈ (approved 9).log ∧
      Compared lookups newDevice (confirmed 9) (session 9) ∧
      ¬ (device "alice" "a2" 1 9).SameKeys newDevice.generated := by
  have hs : (confirmed 9).app.pairing = some { session 9 with
      peerDeviceId := "a1"
      pendingDevice := .default
      approver := false
      peerConfirmed := false } := by decide +kernel
  exact ⟨approved_reachable 9, by decide +kernel,
    ⟨reachable_ofProfile _ _ _, _, hs, rfl, rfl, rfl⟩, by decide +kernel⟩

end Scenario.SubstitutedDevice

end TuiChat
