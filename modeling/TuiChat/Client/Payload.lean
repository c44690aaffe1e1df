import TuiChat.Lib.Json
import TuiChat.Protocol.Codec

/-!
# End-to-end payloads

What the clients of two devices say to each other under the encryption (`app.rs`, `local.rs`):
`WirePayload` inside an Olm message, `BootstrapTransfer` and `HistoryTransfer` inside the pairing
channel, all of them JSON.
-/

namespace TuiChat

open Lib

structure WirePayload where
  version : Nat
  kind : String
  messageId : String
  senderUsername : String
  senderAccountId : String
  peerAccountId : String
  peerUsername : String
  sentAtMs : Int
  text : String
  relatedMessageId : Option String
  relatedMessageIds : List String
deriving DecidableEq, Repr

/-- `serde_json::to_vec(&payload)`. -/
def WirePayload.toVec (p : WirePayload) : Bytes :=
  Json.object
    [ Json.field "version" (Json.int p.version)
    , Json.field "kind" (Json.string p.kind)
    , Json.field "message_id" (Json.string p.messageId)
    , Json.field "sender_username" (Json.string p.senderUsername)
    , Json.field "sender_account_id" (Json.string p.senderAccountId)
    , Json.field "peer_account_id" (Json.string p.peerAccountId)
    , Json.field "peer_username" (Json.string p.peerUsername)
    , Json.field "sent_at_ms" (Json.int p.sentAtMs)
    , Json.field "text" (Json.string p.text)
    , Json.field "related_message_id" (Json.option Json.string p.relatedMessageId)
    , Json.field "related_message_ids" (Json.array (p.relatedMessageIds.map Json.string)) ]

def readKinds : List String := ["read", "read_batch"]

def controlKinds : List String := ["read", "read_batch", "chat_request", "chat_response"]

/-- `abs_diff`. -/
def absDiff (a b : Int) : Nat := (a - b).natAbs

def wireMetadataMatches (payload : WirePayload) (storedSenderAccountId storedSenderUsername
    envelopeLogicalId : String) (envelopeSentAtMs : Int) : Bool :=
  let timestampMatches := payload.sentAtMs = envelopeSentAtMs ||
    (readKinds.contains payload.kind && absDiff payload.sentAtMs envelopeSentAtMs ≤ 60000)
  (1 ≤ payload.version && payload.version ≤ 3) &&
    payload.messageId = envelopeLogicalId &&
    payload.senderAccountId = storedSenderAccountId &&
    payload.senderUsername = storedSenderUsername &&
    timestampMatches

inductive MessageStatus
  | sending
  | sent
  | delivered
  | read
deriving DecidableEq, Repr

def MessageStatus.rank : MessageStatus → Nat
  | .sending => 0
  | .sent => 1
  | .delivered => 2
  | .read => 3

def MessageStatus.asStr : MessageStatus → String
  | .sending => "sending"
  | .sent => "sent"
  | .delivered => "delivered"
  | .read => "read"

/-- Where a message came from: the device its ciphertext was decrypted for, and the bundle that
vouched for the device. A record of the model; the program keeps nothing like it. -/
structure Provenance where
  bundleAccountId : String
  masterKey : Bytes
  device : DeviceBundle
deriving DecidableEq, Repr

structure ChatMessage where
  id : String
  conversationId : String
  peerAccountId : String
  senderAccountId : String
  body : String
  sentAtMs : Int
  status : MessageStatus
  inbound : Bool
  /-- Only in the model. -/
  provenance : Option Provenance
deriving DecidableEq, Repr

/-- A contact on its way to a paired device; the bundle is a column of protobuf bytes. -/
structure TransferContact where
  bundle : UserBundle
  verified : Bool
deriving DecidableEq, Repr

structure BootstrapTransfer where
  masterSecret : Bytes
  contacts : List TransferContact
deriving DecidableEq, Repr

structure HistoryTransfer where
  messages : List ChatMessage
deriving DecidableEq, Repr

/-- A byte vector is an array of numbers. -/
def jsonBytes (b : Bytes) : Bytes := Json.array (b.map fun byte => Json.int byte.toNat)

def TransferContact.toVec (c : TransferContact) : Bytes :=
  Json.object
    [ Json.field "bundle" (jsonBytes c.bundle.encode)
    , Json.field "verified" (Json.bool c.verified) ]

def BootstrapTransfer.toVec (t : BootstrapTransfer) : Bytes :=
  Json.object
    [ Json.field "master_secret" (jsonBytes t.masterSecret)
    , Json.field "contacts" (Json.array (t.contacts.map TransferContact.toVec)) ]

def ChatMessage.toVec (m : ChatMessage) : Bytes :=
  Json.object
    [ Json.field "id" (Json.string m.id)
    , Json.field "conversation_id" (Json.string m.conversationId)
    , Json.field "peer_account_id" (Json.string m.peerAccountId)
    , Json.field "sender_account_id" (Json.string m.senderAccountId)
    , Json.field "body" (Json.string m.body)
    , Json.field "sent_at_ms" (Json.int m.sentAtMs)
    , Json.field "status" (Json.string m.status.asStr)
    , Json.field "inbound" (Json.bool m.inbound) ]

def HistoryTransfer.toVec (t : HistoryTransfer) : Bytes :=
  Json.object [Json.field "messages" (Json.array (t.messages.map ChatMessage.toVec))]

end TuiChat
