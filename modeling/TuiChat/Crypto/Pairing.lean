import TuiChat.Crypto.Identity

/-!
# The pairing channel

`crates/crypto/src/pairing.rs`: two ephemeral X25519 keys give a shared secret, and HKDF over the
secret, the pairing id and the two public keys gives the key of the channel and the short
authentication string. Nothing else goes into the derivation (`pairingInfo`).
-/

namespace TuiChat

open Lib (Bytes)
open Lib.Wire (utf8)

structure PairingChannel where
  key : Bytes
  sas : Nat × Nat × Nat
deriving DecidableEq, Repr

/-- Byte strings in lexicographic order. -/
def bytesLe : Bytes → Bytes → Bool
  | [], _ => true
  | _ :: _, [] => false
  | a :: as, b :: bs => a.toNat < b.toNat || (a = b && bytesLe as bs)

/-- The context of the derivation: the pairing id and both public keys, the smaller one first. -/
def pairingInfo (pairingId : String) (publicA publicB : Bytes) : Bytes :=
  let (first, second) := if bytesLe publicA publicB then (publicA, publicB) else (publicB, publicA)
  utf8 "tui-chat-pairing-v1" ++ [0] ++ utf8 pairingId ++ [0] ++ first ++ second

/-- Three numbers of 13 bits from the last six bytes of the output. -/
def sasOfOutput (output : Bytes) : Nat × Nat × Nat :=
  let byte i := (output.getD i 0).toNat
  ((byte 32 * 32 + byte 33 / 8) + 1000,
    (byte 33 % 8 * 1024 + byte 34 * 4 + byte 35 / 64) + 1000,
    (byte 35 % 64 * 128 + byte 36 / 2) + 1000)

section

variable (P : Primitives)

/-- `PairingState::from_secret(secret).establish(peer, pairing_id)`. -/
def establish (secret peer : Bytes) (pairingId : String) : Except Error PairingChannel :=
  let shared := P.diffieHellman secret peer
  if !P.wasContributory shared then .error "invalid pairing public key"
  else
    let output := P.hkdfExpand shared (pairingInfo pairingId (P.x25519Public secret) peer)
    .ok { key := output.take 32, sas := sasOfOutput output }

namespace PairingChannel

def encrypt (channel : PairingChannel) (pairingId : String) (plaintext : Bytes) (draw : Nat) : Bytes :=
  P.nonce draw ++ P.aeadEncrypt channel.key (P.nonce draw) (utf8 pairingId) plaintext

def decrypt (channel : PairingChannel) (pairingId : String) (payload : Bytes) : Except Error Bytes :=
  if payload.length < 24 then .error "truncated pairing payload"
  else match P.aeadDecrypt channel.key (payload.take 24) (utf8 pairingId) (payload.drop 24) with
    | some plaintext => .ok plaintext
    | none => .error "pairing payload authentication failed"

end PairingChannel

end

theorem bytesLe_total : ∀ a b : Bytes, bytesLe a b = true ∨ bytesLe b a = true
  | [], _ => .inl rfl
  | _ :: _, [] => .inr rfl
  | a :: as, b :: bs => by
    simp only [bytesLe, Bool.or_eq_true, decide_eq_true_eq, Bool.and_eq_true, ← UInt8.toNat_inj]
    rcases bytesLe_total as bs with h | h <;> simp only [h, and_true] <;> omega

theorem bytesLe_antisymm : ∀ {a b : Bytes}, bytesLe a b = true → bytesLe b a = true → a = b
  | [], [], _, _ => rfl
  | [], _ :: _, _, h => by simp [bytesLe] at h
  | _ :: _, [], h, _ => by simp [bytesLe] at h
  | a :: as, b :: bs, h, h' => by
    simp only [bytesLe, Bool.or_eq_true, decide_eq_true_eq, Bool.and_eq_true, ← UInt8.toNat_inj]
      at h h'
    have hab : a = b := UInt8.toNat_inj.1 (by omega)
    subst hab
    rw [bytesLe_antisymm (h.resolve_left (Nat.lt_irrefl _)).2 (h'.resolve_left (Nat.lt_irrefl _)).2]

/-- Both ends derive from one context. -/
theorem pairingInfo_comm (pairingId : String) (a b : Bytes) :
    pairingInfo pairingId a b = pairingInfo pairingId b a := by
  unfold pairingInfo
  by_cases hab : bytesLe a b = true <;> by_cases hba : bytesLe b a = true
  · rw [bytesLe_antisymm hab hba]
  · rw [if_pos hab, if_neg hba]
  · rw [if_neg hab, if_pos hba]
  · exact absurd ((bytesLe_total a b).resolve_left hab) hba

end TuiChat
