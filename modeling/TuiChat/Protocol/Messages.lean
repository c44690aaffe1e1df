import TuiChat.Lib.Wire

/-!
# The messages of protocol v2

`crates/protocol/proto/chat.proto`, field for field and in field order. `uint32` and `uint64` are
naturals, `int64` is an integer, `bytes` a byte list.
-/

namespace TuiChat

open Lib (Bytes)

structure ClientHello where
  username : String
  deviceId : String
  capabilities : List String
deriving DecidableEq, Repr

structure AuthChallenge where
  nonce : Bytes
  expiresAtMs : Int
deriving DecidableEq, Repr

structure DeviceAuth where
  username : String
  deviceId : String
  signature : Bytes
deriving DecidableEq, Repr

structure PasswordAuth where
  username : String
  password : String
  deviceId : String
deriving DecidableEq, Repr

inductive BootstrapMode
  | none
  | firstDevice
  | pendingDevice
deriving DecidableEq, Repr

def BootstrapMode.toNat : BootstrapMode → Nat
  | .none => 0
  | .firstDevice => 1
  | .pendingDevice => 2

structure Authenticated where
  accountId : String
  username : String
  deviceId : String
  passwordChangeRequired : Bool
  pendingDevice : Bool
  accountMasterKey : Bytes
  rosterRevision : Nat
  bootstrapMode : BootstrapMode
  capabilities : List String
deriving DecidableEq, Repr

structure OneTimeKey where
  keyId : String
  curve25519Key : Bytes
  signature : Bytes
deriving DecidableEq, Repr

structure BootstrapDevice where
  deviceId : String
  deviceName : String
  accountMasterKey : Bytes
  authSigningKey : Bytes
  olmEd25519Key : Bytes
  olmCurve25519Key : Bytes
  certificateSignature : Bytes
  oneTimeKeys : List OneTimeKey
  sasPublicKey : Bytes
deriving DecidableEq, Repr

structure ChangePassword where
  currentPassword : String
  newPassword : String
deriving DecidableEq, Repr

structure LookupUser where
  exactUsername : String
deriving DecidableEq, Repr

structure DeviceBundle where
  deviceId : String
  deviceName : String
  authSigningKey : Bytes
  olmEd25519Key : Bytes
  olmCurve25519Key : Bytes
  certificateSignature : Bytes
  revoked : Bool
deriving DecidableEq, Repr

structure UserBundle where
  accountId : String
  username : String
  accountMasterKey : Bytes
  rosterRevision : Nat
  devices : List DeviceBundle
deriving DecidableEq, Repr

structure PublishPreKeys where
  keys : List OneTimeKey
deriving DecidableEq, Repr

structure ClaimPreKey where
  accountId : String
  deviceId : String
deriving DecidableEq, Repr

structure PreKeyBundle where
  device : Option DeviceBundle
  oneTimeKey : Option OneTimeKey
deriving DecidableEq, Repr

structure EncryptedEnvelope where
  envelopeId : String
  logicalMessageId : String
  conversationId : String
  recipientAccountId : String
  recipientDeviceId : String
  ciphertext : Bytes
  olmMessageType : Nat
  clientSentAtMs : Int
deriving DecidableEq, Repr

structure SendEnvelopes where
  envelopes : List EncryptedEnvelope
deriving DecidableEq, Repr

structure SendAccepted where
  logicalMessageId : String
  acceptedAtMs : Int
deriving DecidableEq, Repr

structure SyncRequest where
  afterCursor : Nat
  limit : Nat
  afterStatusCursor : Nat
deriving DecidableEq, Repr

structure StoredEnvelope where
  cursor : Nat
  senderAccountId : String
  senderDeviceId : String
  envelope : Option EncryptedEnvelope
  acceptedAtMs : Int
  senderUsername : String
deriving DecidableEq, Repr

structure DeliveryUpdate where
  logicalMessageId : String
  deliveredAtMs : Int
deriving DecidableEq, Repr

structure StoredDeliveryUpdate where
  cursor : Nat
  update : Option DeliveryUpdate
deriving DecidableEq, Repr

structure SyncBatch where
  envelopes : List StoredEnvelope
  nextCursor : Nat
  hasMore : Bool
  deliveryUpdates : List StoredDeliveryUpdate
  nextStatusCursor : Nat
deriving DecidableEq, Repr

structure AckEnvelope where
  envelopeId : String
  cursor : Nat
deriving DecidableEq, Repr

structure PairingRequest where
  pairingId : String
  pendingDeviceId : String
  pendingDeviceName : String
  sasPublicKey : Bytes
  pendingDevice : Option DeviceBundle
deriving DecidableEq, Repr

structure PairingEvent where
  pairingId : String
  targetDeviceId : String
  eventType : String
  payload : Bytes
  senderDeviceId : String
  serverEventId : Nat
  senderDeviceName : String
deriving DecidableEq, Repr

structure AckPairingEvent where
  serverEventId : Nat
deriving DecidableEq, Repr

structure ActivateDevice where
  pairingId : String
  device : Option DeviceBundle
  rosterRevision : Nat
  rosterSignature : Bytes
deriving DecidableEq, Repr

structure OwnDeviceInfo where
  deviceId : String
  deviceName : String
  pending : Bool
  revoked : Bool
  current : Bool
  online : Bool
  createdAtMs : Int
  lastAuthenticatedAtMs : Int
deriving DecidableEq, Repr

structure OwnDeviceList where
  devices : List OwnDeviceInfo
deriving DecidableEq, Repr

structure RevokeOwnDevice where
  deviceId : String
deriving DecidableEq, Repr

structure ErrorFrame where
  code : String
  message : String
  retryable : Bool
deriving DecidableEq, Repr

structure Ping where
  sentAtMs : Int
deriving DecidableEq, Repr

structure Pong where
  sentAtMs : Int
deriving DecidableEq, Repr

/-- The body of a frame: the `oneof` of `Frame`. -/
inductive Body
  | clientHello (m : ClientHello)
  | authChallenge (m : AuthChallenge)
  | deviceAuth (m : DeviceAuth)
  | passwordAuth (m : PasswordAuth)
  | authenticated (m : Authenticated)
  | bootstrapDevice (m : BootstrapDevice)
  | changePassword (m : ChangePassword)
  | lookupUser (m : LookupUser)
  | userBundle (m : UserBundle)
  | publishPreKeys (m : PublishPreKeys)
  | claimPreKey (m : ClaimPreKey)
  | preKeyBundle (m : PreKeyBundle)
  | sendEnvelopes (m : SendEnvelopes)
  | sendAccepted (m : SendAccepted)
  | syncRequest (m : SyncRequest)
  | syncBatch (m : SyncBatch)
  | ackEnvelope (m : AckEnvelope)
  | deliveryUpdate (m : DeliveryUpdate)
  | pairingRequest (m : PairingRequest)
  | pairingEvent (m : PairingEvent)
  | activateDevice (m : ActivateDevice)
  | ackPairingEvent (m : AckPairingEvent)
  | listOwnDevices
  | ownDeviceList (m : OwnDeviceList)
  | revokeOwnDevice (m : RevokeOwnDevice)
  | error (m : ErrorFrame)
  | ping (m : Ping)
  | pong (m : Pong)
  | operationOk
deriving DecidableEq, Repr

namespace Body

def asUserBundle : Body → Option UserBundle
  | userBundle m => some m
  | _ => none

def asPreKeyBundle : Body → Option PreKeyBundle
  | preKeyBundle m => some m
  | _ => none

end Body

structure Frame where
  protocolVersion : Nat
  id : String
  body : Option Body
deriving DecidableEq, Repr

end TuiChat
