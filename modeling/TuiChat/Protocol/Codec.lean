import TuiChat.Protocol.Messages

/-!
# Frames on the wire

`crates/protocol/src/lib.rs`: the limits, the encoding of a frame (field by field, as prost writes
it) and the size test that a receiver makes before it decodes. The strings that are hashed or signed
are here too: conversation ids and device certificates.
-/

namespace TuiChat

open Lib (Bytes)
open Lib.Wire

def protocolVersion : Nat := 2

def maxFrameBytes : Nat := 256 * 1024

def maxTextBytes : Nat := 16 * 1024

def capabilityOwnDevices : String := "own_devices_v1"

def capabilityStableErrors : String := "stable_errors_v1"

def clientCapabilities : List String := [capabilityOwnDevices, capabilityStableErrors]

/-! ## Encoding -/

def ClientHello.encode (m : ClientHello) : Bytes :=
  stringField 1 m.username ++ stringField 2 m.deviceId ++ repeatedField 3 utf8 m.capabilities

def AuthChallenge.encode (m : AuthChallenge) : Bytes :=
  bytesField 1 m.nonce ++ intField 2 m.expiresAtMs

def DeviceAuth.encode (m : DeviceAuth) : Bytes :=
  stringField 1 m.username ++ stringField 2 m.deviceId ++ bytesField 3 m.signature

def PasswordAuth.encode (m : PasswordAuth) : Bytes :=
  stringField 1 m.username ++ stringField 2 m.password ++ stringField 3 m.deviceId

def Authenticated.encode (m : Authenticated) : Bytes :=
  stringField 1 m.accountId ++ stringField 2 m.username ++ stringField 3 m.deviceId ++
    boolField 4 m.passwordChangeRequired ++ boolField 5 m.pendingDevice ++
    bytesField 6 m.accountMasterKey ++ uintField 7 m.rosterRevision ++
    uintField 8 m.bootstrapMode.toNat ++ repeatedField 9 utf8 m.capabilities

def OneTimeKey.encode (m : OneTimeKey) : Bytes :=
  stringField 1 m.keyId ++ bytesField 2 m.curve25519Key ++ bytesField 3 m.signature

def BootstrapDevice.encode (m : BootstrapDevice) : Bytes :=
  stringField 1 m.deviceId ++ stringField 2 m.deviceName ++ bytesField 3 m.accountMasterKey ++
    bytesField 4 m.authSigningKey ++ bytesField 5 m.olmEd25519Key ++
    bytesField 6 m.olmCurve25519Key ++ bytesField 7 m.certificateSignature ++
    repeatedField 8 OneTimeKey.encode m.oneTimeKeys ++ bytesField 9 m.sasPublicKey

def ChangePassword.encode (m : ChangePassword) : Bytes :=
  stringField 1 m.currentPassword ++ stringField 2 m.newPassword

def DeviceBundle.encode (m : DeviceBundle) : Bytes :=
  stringField 1 m.deviceId ++ stringField 2 m.deviceName ++ bytesField 3 m.authSigningKey ++
    bytesField 4 m.olmEd25519Key ++ bytesField 5 m.olmCurve25519Key ++
    bytesField 6 m.certificateSignature ++ boolField 7 m.revoked

def UserBundle.encode (m : UserBundle) : Bytes :=
  stringField 1 m.accountId ++ stringField 2 m.username ++ bytesField 3 m.accountMasterKey ++
    uintField 4 m.rosterRevision ++ repeatedField 5 DeviceBundle.encode m.devices

def PreKeyBundle.encode (m : PreKeyBundle) : Bytes :=
  optionField 1 DeviceBundle.encode m.device ++ optionField 2 OneTimeKey.encode m.oneTimeKey

def EncryptedEnvelope.encode (m : EncryptedEnvelope) : Bytes :=
  stringField 1 m.envelopeId ++ stringField 2 m.logicalMessageId ++
    stringField 3 m.conversationId ++ stringField 4 m.recipientAccountId ++
    stringField 5 m.recipientDeviceId ++ bytesField 6 m.ciphertext ++
    uintField 7 m.olmMessageType ++ intField 8 m.clientSentAtMs

def StoredEnvelope.encode (m : StoredEnvelope) : Bytes :=
  uintField 1 m.cursor ++ stringField 2 m.senderAccountId ++ stringField 3 m.senderDeviceId ++
    optionField 4 EncryptedEnvelope.encode m.envelope ++ intField 5 m.acceptedAtMs ++
    stringField 6 m.senderUsername

def DeliveryUpdate.encode (m : DeliveryUpdate) : Bytes :=
  stringField 1 m.logicalMessageId ++ intField 2 m.deliveredAtMs

def StoredDeliveryUpdate.encode (m : StoredDeliveryUpdate) : Bytes :=
  uintField 1 m.cursor ++ optionField 2 DeliveryUpdate.encode m.update

def SyncBatch.encode (m : SyncBatch) : Bytes :=
  repeatedField 1 StoredEnvelope.encode m.envelopes ++ uintField 2 m.nextCursor ++
    boolField 3 m.hasMore ++ repeatedField 4 StoredDeliveryUpdate.encode m.deliveryUpdates ++
    uintField 5 m.nextStatusCursor

def PairingRequest.encode (m : PairingRequest) : Bytes :=
  stringField 1 m.pairingId ++ stringField 2 m.pendingDeviceId ++
    stringField 3 m.pendingDeviceName ++ bytesField 4 m.sasPublicKey ++
    optionField 5 DeviceBundle.encode m.pendingDevice

def PairingEvent.encode (m : PairingEvent) : Bytes :=
  stringField 1 m.pairingId ++ stringField 2 m.targetDeviceId ++ stringField 3 m.eventType ++
    bytesField 4 m.payload ++ stringField 5 m.senderDeviceId ++ uintField 6 m.serverEventId ++
    stringField 7 m.senderDeviceName

def ActivateDevice.encode (m : ActivateDevice) : Bytes :=
  stringField 1 m.pairingId ++ optionField 2 DeviceBundle.encode m.device ++
    uintField 3 m.rosterRevision ++ bytesField 4 m.rosterSignature

def OwnDeviceInfo.encode (m : OwnDeviceInfo) : Bytes :=
  stringField 1 m.deviceId ++ stringField 2 m.deviceName ++ boolField 3 m.pending ++
    boolField 4 m.revoked ++ boolField 5 m.current ++ boolField 6 m.online ++
    intField 7 m.createdAtMs ++ intField 8 m.lastAuthenticatedAtMs

def ErrorFrame.encode (m : ErrorFrame) : Bytes :=
  stringField 1 m.code ++ stringField 2 m.message ++ boolField 3 m.retryable

/-- The number of a body's field in `Frame`, and the body's encoding. -/
def Body.encode : Body → Bytes
  | .clientHello m => messageField 10 m.encode
  | .authChallenge m => messageField 11 m.encode
  | .deviceAuth m => messageField 12 m.encode
  | .passwordAuth m => messageField 13 m.encode
  | .authenticated m => messageField 14 m.encode
  | .bootstrapDevice m => messageField 15 m.encode
  | .changePassword m => messageField 16 m.encode
  | .lookupUser m => messageField 20 (stringField 1 m.exactUsername)
  | .userBundle m => messageField 21 m.encode
  | .publishPreKeys m => messageField 22 (repeatedField 1 OneTimeKey.encode m.keys)
  | .claimPreKey m => messageField 23 (stringField 1 m.accountId ++ stringField 2 m.deviceId)
  | .preKeyBundle m => messageField 24 m.encode
  | .sendEnvelopes m => messageField 30 (repeatedField 1 EncryptedEnvelope.encode m.envelopes)
  | .sendAccepted m => messageField 31 (stringField 1 m.logicalMessageId ++ intField 2 m.acceptedAtMs)
  | .syncRequest m =>
    messageField 32 (uintField 1 m.afterCursor ++ uintField 2 m.limit ++ uintField 3 m.afterStatusCursor)
  | .syncBatch m => messageField 33 m.encode
  | .ackEnvelope m => messageField 34 (stringField 1 m.envelopeId ++ uintField 2 m.cursor)
  | .deliveryUpdate m => messageField 35 m.encode
  | .pairingRequest m => messageField 40 m.encode
  | .pairingEvent m => messageField 41 m.encode
  | .activateDevice m => messageField 42 m.encode
  | .ackPairingEvent m => messageField 43 (uintField 1 m.serverEventId)
  | .listOwnDevices => messageField 50 []
  | .ownDeviceList m => messageField 51 (repeatedField 1 OwnDeviceInfo.encode m.devices)
  | .revokeOwnDevice m => messageField 52 (stringField 1 m.deviceId)
  | .error m => messageField 90 m.encode
  | .ping m => messageField 91 (intField 1 m.sentAtMs)
  | .pong m => messageField 92 (intField 1 m.sentAtMs)
  | .operationOk => messageField 93 []

def encodeFrame (frame : Frame) : Bytes :=
  uintField 1 frame.protocolVersion ++ stringField 2 frame.id ++
    (frame.body.map Body.encode).getD []

/-- The test of `decode_frame` on what it is given: more bytes than this are `TooLarge`. -/
def frameFits (data : Bytes) : Bool := data.length ≤ maxFrameBytes

def frame (id : String) (body : Body) : Frame :=
  { protocolVersion, id, body := some body }

/-! ## Hashed and signed strings -/

def hexDigit (n : Nat) : Char := "0123456789abcdef".toList.getD n '0'

def hexString (bytes : Bytes) : String :=
  String.ofList (bytes.flatMap fun byte => [hexDigit (byte.toNat / 16), hexDigit (byte.toNat % 16)])

/-- What `conversation_id` hashes: the two account ids in order, each after a terminator. -/
def conversationInput (accountA accountB : String) : Bytes :=
  let (first, second) := if accountA ≤ accountB then (accountA, accountB) else (accountB, accountA)
  utf8 "tui-chat-conversation-v1" ++ [0] ++ utf8 first ++ [0] ++ utf8 second

def conversationId (sha256 : Bytes → Bytes) (accountA accountB : String) : String :=
  hexString (sha256 (conversationInput accountA accountB))

/-- Big-endian bytes of a `u32`. -/
def be32 (n : Nat) : Bytes :=
  [UInt8.ofNat (n / 2 ^ 24), UInt8.ofNat (n / 2 ^ 16), UInt8.ofNat (n / 2 ^ 8), UInt8.ofNat n]

/-- Fields behind their lengths: the framing of every signed payload. -/
def lengthPrefixed (fields : List Bytes) : Bytes :=
  fields.flatMap fun field => be32 field.length ++ field

def deviceCertificatePayload (accountId deviceId : String) (authKey olmEd25519 olmCurve25519 : Bytes) :
    Bytes :=
  utf8 "tui-chat-device-certificate-v1" ++ [0] ++
    lengthPrefixed [utf8 accountId, utf8 deviceId, authKey, olmEd25519, olmCurve25519]

end TuiChat
