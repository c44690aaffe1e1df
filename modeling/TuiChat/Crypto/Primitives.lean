import TuiChat.Lib.Wire

/-!
# The cryptography the program is built on

The functions of `ed25519_dalek`, `x25519_dalek`, `hkdf`, `chacha20poly1305`, `sha2` and `vodozemac`
that the program calls. Their code is not part of the repository: they are parameters, and what is
assumed of them is stated as a property of its own, where a result needs it.

A call that draws randomness is given the draw as a number.
-/

namespace TuiChat

open Lib (Bytes)

/-- `vodozemac::olm`: accounts, sessions and messages, by the calls the program makes. A failing
call leaves the session or account it was made on as it was. -/
structure Olm where
  Account : Type
  Session : Type
  Message : Type
  curve25519Key : Account → Bytes
  ed25519Key : Account → Bytes
  createOutboundSession : Account → (identityKey oneTimeKey : Bytes) → (draw : Nat) → Option Session
  createInboundSession : Account → (identityKey : Bytes) → Message → Option (Session × Bytes × Account)
  encrypt : Session → (plaintext : Bytes) → (draw : Nat) → Option (Message × Session)
  decrypt : Session → Message → Option (Bytes × Session)
  sessionId : Session → String
  fromParts : Nat → Bytes → Option Message
  toParts : Message → Nat × Bytes
  isPreKey : Message → Bool
  /-- The Curve25519 identity key of the other end. The program never reads it. -/
  remoteIdentityKey : Session → Bytes

namespace Olm

/-- A session stays bound to the identity key it was created with. -/
structure Bound (O : Olm) : Prop where
  outbound : ∀ {a i k n s}, O.createOutboundSession a i k n = some s → O.remoteIdentityKey s = i
  inbound : ∀ {a i m s p a'}, O.createInboundSession a i m = some (s, p, a') →
    O.remoteIdentityKey s = i
  encrypt : ∀ {s p n m s'}, O.encrypt s p n = some (m, s') →
    O.remoteIdentityKey s' = O.remoteIdentityKey s
  decrypt : ∀ {s m p s'}, O.decrypt s m = some (p, s') →
    O.remoteIdentityKey s' = O.remoteIdentityKey s

/-- A ciphertext is at least as long as its plaintext and at most `k` bytes longer. -/
structure Overhead (O : Olm) (k : Nat) : Prop where
  le : ∀ {s p n m s'}, O.encrypt s p n = some (m, s') → p.length ≤ (O.toParts m).2.length
  ge : ∀ {s p n m s'}, O.encrypt s p n = some (m, s') → (O.toParts m).2.length ≤ p.length + k

end Olm

/-- The functions of the cryptographic crates. -/
structure Primitives where
  olm : Olm
  /-- `VerifyingKey::from_bytes(key)?.verify_strict(message, signature)`. -/
  verifyStrict : (key message signature : Bytes) → Bool
  sign : (secret message : Bytes) → Bytes
  verifyingKey : (secret : Bytes) → Bytes
  sha256 : Bytes → Bytes
  /-- `StaticSecret::random_from_rng`. -/
  x25519Secret : (draw : Nat) → Bytes
  x25519Public : (secret : Bytes) → Bytes
  diffieHellman : (secret peer : Bytes) → Bytes
  wasContributory : (shared : Bytes) → Bool
  hkdfExpand : (shared info : Bytes) → Bytes
  aeadEncrypt : (key nonce aad plaintext : Bytes) → Bytes
  aeadDecrypt : (key nonce aad ciphertext : Bytes) → Option Bytes
  /-- `OsRng.fill_bytes` for a nonce of 24 bytes. -/
  nonce : (draw : Nat) → Bytes

end TuiChat
