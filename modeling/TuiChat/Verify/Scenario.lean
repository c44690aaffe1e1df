import TuiChat.Client.Events

/-!
# Concrete clients and servers

What counterexamples and witnesses are run on: cryptography that behaves as the real one does towards
parties that only use what they hold, users with their devices and bundles, and an environment that
answers lookups from a list of bundles. Keys are 32 equal bytes; a public key is its secret; a
signature is the key and a checksum of the message; a ciphertext carries the identity key of the
session it was made with.
-/

namespace TuiChat.Scenario

open Lib

def bytes32 (b : UInt8) : Bytes := List.replicate 32 b

/-! ## Cryptography -/

def checksum (b : Bytes) : UInt8 := UInt8.ofNat (b.foldl (fun n byte => (n * 31 + byte.toNat) % 251) 7)

/-- Sessions are pairs of identity keys, own and remote. -/
def olm : Olm where
  Account := Bytes
  Session := Bytes × Bytes
  Message := Nat × Bytes
  curve25519Key account := account
  ed25519Key account := account
  createOutboundSession account identityKey _ _ := some (account, identityKey)
  createInboundSession account identityKey message :=
    if message.2.take 32 = identityKey then
      some ((account, identityKey), message.2.drop 32, account) else none
  encrypt session plaintext _ := some ((1, session.1.take 32 ++ plaintext), session)
  decrypt session message :=
    if message.2.take 32 = session.2 then some (message.2.drop 32, session) else none
  sessionId session := hexString (session.2.take 1)
  fromParts messageType ciphertext := some (messageType, ciphertext)
  toParts message := message
  isPreKey message := message.1 = 0
  remoteIdentityKey session := session.2

theorem olm_bound : olm.Bound where
  outbound h := by cases h; rfl
  inbound {a i m s p a'} h := by
    change (if m.2.take 32 = i then _ else none) = _ at h
    split at h
    · cases h; rfl
    · cases h
  encrypt h := by cases h; rfl
  decrypt {s m p s'} h := by
    change (if m.2.take 32 = s.2 then _ else none) = _ at h
    split at h
    · cases h; rfl
    · cases h

def primitives : Primitives where
  olm := olm
  verifyStrict key message signature := signature = key ++ bytes32 (checksum message)
  sign secret message := secret ++ bytes32 (checksum message)
  verifyingKey secret := secret
  sha256 message := bytes32 (checksum message)
  x25519Secret draw := bytes32 (UInt8.ofNat draw)
  x25519Public secret := secret
  diffieHellman secret peer := List.zipWith (· + ·) secret peer
  wasContributory shared := shared.any (· ≠ 0)
  hkdfExpand shared info := shared ++ List.replicate 5 (checksum (shared ++ info))
  aeadEncrypt key _ _ plaintext := plaintext ++ key.take 16
  aeadDecrypt key _ _ ciphertext :=
    if ciphertext.drop (ciphertext.length - 16) = key.take 16 then
      some (ciphertext.take (ciphertext.length - 16)) else none
  nonce draw := List.replicate 24 (UInt8.ofNat draw)

/-! ## Users -/

/-- A device whose keys are made of one byte, certified by a master key. -/
def device (account id : String) (master key : UInt8) : DeviceBundle :=
  { deviceId := id
    deviceName := id
    authSigningKey := bytes32 key
    olmEd25519Key := bytes32 key
    olmCurve25519Key := bytes32 key
    certificateSignature := DeviceIdentity.certificate primitives account id (bytes32 master)
      (bytes32 key) (bytes32 key) (bytes32 key)
    revoked := false }

def bundle (account : String) (master : UInt8) (devices : List (String × UInt8)) : UserBundle :=
  { accountId := account
    username := account
    accountMasterKey := bytes32 master
    rosterRevision := 1
    devices := devices.map fun d => device account d.1 master d.2 }

/-- The profile of the first device of an account. -/
def firstDevice (account id : String) (master key : UInt8) : RuntimeProfile primitives :=
  { username := account
    accountId := account
    identity :=
      { accountId := account
        deviceId := id
        deviceName := id
        master := some (bytes32 master)
        auth := bytes32 key }
    machine := .ofAccount (bytes32 key)
    pending := false
    pairingSecret := none
    accountMasterPublic := bytes32 master
    serverCapabilities := clientCapabilities }

/-! ## Messages -/

def payload (kind id sender peer text : String) (related : List String) : WirePayload :=
  { version := 2
    kind
    messageId := id
    senderUsername := sender
    senderAccountId := sender
    peerAccountId := peer
    peerUsername := peer
    sentAtMs := 0
    text
    relatedMessageId := none
    relatedMessageIds := related }

/-- The payload in a pre-key message of the device with the key. -/
def envelope (cursor : Nat) (deviceId conversation : String) (key : UInt8) (recipient : String)
    (p : WirePayload) : StoredEnvelope :=
  { cursor
    senderAccountId := p.senderAccountId
    senderDeviceId := deviceId
    envelope := some
      { envelopeId := p.messageId
        logicalMessageId := p.messageId
        conversationId := conversation
        recipientAccountId := recipient
        recipientDeviceId := recipient
        ciphertext := bytes32 key ++ p.toVec
        olmMessageType := 0
        clientSentAtMs := p.sentAtMs }
    acceptedAtMs := 0
    senderUsername := p.senderUsername }

/-- A batch outside any request. -/
def batch (envelopes : List StoredEnvelope) : Frame :=
  frame "" (.syncBatch
    { envelopes
      nextCursor := (envelopes.map StoredEnvelope.cursor).getLastD 0
      hasMore := false
      deliveryUpdates := []
      nextStatusCursor := 0 })

/-! ## Environments -/

/-- One-time keys are the key of their device, signed by it. -/
def oneTimeKey (d : DeviceBundle) : OneTimeKey :=
  { keyId := d.deviceId
    curve25519Key := d.olmCurve25519Key
    signature := primitives.sign d.authSigningKey (prekeyPayload d.deviceId d.olmCurve25519Key) }

/-- An environment in which everything works, the cache is always stale, and lookups are answered
from the bundles of the moment. -/
def environment (bundles : Nat → List UserBundle) (payloads : List WirePayload) : Environment where
  answer n body := .ok <| match body with
    | .lookupUser m => ((bundles n).find? fun b => b.username = m.exactUsername).map .userBundle
    | .claimPreKey m => ((bundles n).find? fun b => b.accountId = m.accountId).bind fun b =>
        (activeDevice b m.deviceId).map fun d =>
          .preKeyBundle { device := some d, oneTimeKey := some (oneTimeKey d) }
    | _ => some .operationOk
  works _ := true
  nowMs n := n
  instant n := n * 60000
  uuid n := toString n
  payloadFromSlice b := payloads.find? fun p => p.toVec = b
  bootstrapFromSlice _ := none
  historyFromSlice _ := none

end TuiChat.Scenario
