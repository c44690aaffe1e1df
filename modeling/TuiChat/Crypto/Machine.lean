import TuiChat.Crypto.Primitives
import TuiChat.Lib.Table
import TuiChat.Crypto.Identity

/-!
# The Olm machine of a device

`crates/crypto/src/machine.rs`: one account and, for each peer device id, at most five sessions with
the newest last. `encrypt` uses the newest session of the device id; `decrypt` tries all of them
from the newest on and makes a session of a pre-key message that none of them reads.

`BoundTo d k` says that every session of the device id `d` is with the identity key `k`. The table
knows sessions by device id alone, so an operation on `d` keeps this when the identity key it is
given is `k` (`BoundTo.decrypt`, `BoundTo.encrypt`).
-/

namespace TuiChat

open Lib (Bytes Table)

structure PreKeyMaterial where
  deviceId : String
  identityKey : Bytes
  oneTimeKey : Bytes
deriving DecidableEq, Repr

structure EncryptedOlm where
  messageType : Nat
  ciphertext : Bytes
deriving DecidableEq, Repr

structure OlmMachine (O : Olm) where
  account : O.Account
  sessions : Table (Prod.fst : String × List O.Session → String)

namespace OlmMachine

variable {O : Olm}

/-- A machine without sessions. -/
def ofAccount (account : O.Account) : OlmMachine O := { account, sessions := ∅ }

def sessionsOf (m : OlmMachine O) (deviceId : String) : List O.Session :=
  ((m.sessions.find deviceId).map Prod.snd).getD []

def setSessions (m : OlmMachine O) (deviceId : String) (sessions : List O.Session) : OlmMachine O :=
  { m with sessions := m.sessions.put (deviceId, sessions) }

def hasSession (m : OlmMachine O) (deviceId : String) : Bool := !(m.sessionsOf deviceId).isEmpty

def encryptExisting (m : OlmMachine O) (deviceId : String) (plaintext : Bytes) (draw : Nat) :
    Except Error (EncryptedOlm × OlmMachine O) :=
  match (m.sessionsOf deviceId).getLast? with
  | none => .error "no Olm session for device"
  | some session =>
    match O.encrypt session plaintext draw with
    | none => .error "olm encryption failed"
    | some (message, session') =>
      let (messageType, ciphertext) := O.toParts message
      .ok ({ messageType, ciphertext },
        m.setSessions deviceId ((m.sessionsOf deviceId).dropLast ++ [session']))

def encrypt (m : OlmMachine O) (recipient : PreKeyMaterial) (plaintext : Bytes) (draw : Nat) :
    Except Error (EncryptedOlm × OlmMachine O) :=
  if m.hasSession recipient.deviceId then m.encryptExisting recipient.deviceId plaintext draw
  else
    match O.createOutboundSession m.account recipient.identityKey recipient.oneTimeKey draw with
    | none => .error "olm session creation failed"
    | some session =>
      (m.setSessions recipient.deviceId
        (m.sessionsOf recipient.deviceId ++ [session])).encryptExisting recipient.deviceId plaintext draw

/-- The first of the sessions, from the newest on, that reads the message, advanced. -/
def decryptWith : List O.Session → O.Message → Option (Bytes × List O.Session)
  | [], _ => none
  | session :: newer, message =>
    match decryptWith newer message with
    | some (plaintext, newer') => some (plaintext, session :: newer')
    | none => (O.decrypt session message).map fun (plaintext, session') => (plaintext, session' :: newer)

/-- At most five sessions: the oldest goes. -/
def evict (sessions : List O.Session) : List O.Session :=
  if sessions.length > 5 then sessions.tail else sessions

def decrypt (m : OlmMachine O) (senderDevice : String) (senderIdentityKey : Bytes)
    (encrypted : EncryptedOlm) : Except Error (Bytes × OlmMachine O) :=
  match O.fromParts encrypted.messageType encrypted.ciphertext with
  | none => .error "invalid Olm message"
  | some message =>
    match decryptWith (m.sessionsOf senderDevice) message with
    | some (plaintext, sessions) => .ok (plaintext, m.setSessions senderDevice sessions)
    | none =>
      if O.isPreKey message then
        match O.createInboundSession m.account senderIdentityKey message with
        | none => .error "olm session creation failed"
        | some (session, plaintext, account) =>
          let sessions := m.sessionsOf senderDevice
          let m' := { m with account }
          if sessions.any fun known => O.sessionId known = O.sessionId session then .ok (plaintext, m')
          else .ok (plaintext, m'.setSessions senderDevice (evict (sessions ++ [session])))
      else .error "no matching Olm session"

/-! ## What the operations leave in the table -/

@[simp] theorem sessionsOf_ofAccount (account : O.Account) (d : String) :
    (ofAccount account : OlmMachine O).sessionsOf d = [] := rfl

theorem sessionsOf_setSessions (m : OlmMachine O) (d d' : String) (ss : List O.Session) :
    (m.setSessions d ss).sessionsOf d' = if d' = d then ss else m.sessionsOf d' := by
  unfold sessionsOf setSessions
  rw [Table.find_put]
  split <;> rfl

@[simp] theorem sessionsOf_setSessions_self (m : OlmMachine O) (d : String) (ss : List O.Session) :
    (m.setSessions d ss).sessionsOf d = ss := by
  rw [sessionsOf_setSessions, if_pos rfl]

/-- Encryption replaces the newest session of the device id by its successor. -/
theorem encryptExisting_ok {m m' : OlmMachine O} {d : String} {p : Bytes} {n : Nat} {e : EncryptedOlm}
    (h : m.encryptExisting d p n = .ok (e, m')) :
    ∃ s s' message, (m.sessionsOf d).getLast? = some s ∧ O.encrypt s p n = some (message, s') ∧
      e.ciphertext = (O.toParts message).2 ∧
      m' = m.setSessions d ((m.sessionsOf d).dropLast ++ [s']) := by
  unfold encryptExisting at h
  split at h
  · cases h
  · next s hs =>
    split at h
    · cases h
    · next message s' he =>
      cases h
      exact ⟨s, s', message, hs, he, rfl, rfl⟩

/-- `encrypt` is `encryptExisting`, after an outbound session where the device id has none. -/
theorem encrypt_ok {m m' : OlmMachine O} {r : PreKeyMaterial} {p : Bytes} {n : Nat} {e : EncryptedOlm}
    (h : m.encrypt r p n = .ok (e, m')) :
    (m.hasSession r.deviceId ∧ m.encryptExisting r.deviceId p n = .ok (e, m')) ∨
    (m.hasSession r.deviceId = false ∧
      ∃ s, O.createOutboundSession m.account r.identityKey r.oneTimeKey n = some s ∧
        (m.setSessions r.deviceId (m.sessionsOf r.deviceId ++ [s])).encryptExisting r.deviceId p n =
          .ok (e, m')) := by
  unfold encrypt at h
  split at h
  · next hs => exact .inl ⟨hs, h⟩
  · next hs =>
    split at h
    · cases h
    · next s hc => exact .inr ⟨by simpa using hs, s, hc, h⟩

/-- Decryption advances one session of the device id, or adds one made of the identity key. -/
theorem decrypt_ok {m m' : OlmMachine O} {d : String} {k : Bytes} {e : EncryptedOlm} {p : Bytes}
    (h : m.decrypt d k e = .ok (p, m')) :
    ∃ message, O.fromParts e.messageType e.ciphertext = some message ∧
      ((∃ ss, decryptWith (m.sessionsOf d) message = some (p, ss) ∧ m' = m.setSessions d ss) ∨
      (∃ s account, O.createInboundSession m.account k message = some (s, p, account) ∧
        (m' = { m with account } ∨
          m' = ({ m with account } : OlmMachine O).setSessions d (evict (m.sessionsOf d ++ [s]))))) := by
  unfold decrypt at h
  split at h
  · cases h
  · next message hm =>
    refine ⟨message, hm, ?_⟩
    split at h
    · next p' ss hd => cases h; exact .inl ⟨ss, hd, rfl⟩
    · split at h
      · split at h
        · cases h
        · next s p' account hc =>
          dsimp only at h
          split at h
          · cases h; exact .inr ⟨s, account, hc, .inl rfl⟩
          · cases h; exact .inr ⟨s, account, hc, .inr rfl⟩
      · cases h

/-! ## Binding of sessions to identity keys -/

/-- Every session of the device id is with the identity key. -/
def BoundTo (d : String) (k : Bytes) (m : OlmMachine O) : Prop :=
  ∀ s ∈ m.sessionsOf d, O.remoteIdentityKey s = k

/-- The remote identity key of the newest session of a device id, the one encryption uses. -/
def newestKey (m : OlmMachine O) (deviceId : String) : Option Bytes :=
  (m.sessionsOf deviceId).getLast?.map O.remoteIdentityKey

section Bound

variable {d : String} {k : Bytes} {m m' : OlmMachine O}

theorem BoundTo.ofAccount (account : O.Account) : (ofAccount account : OlmMachine O).BoundTo d k :=
  fun s hs => by simp at hs

theorem BoundTo.setSessions (h : m.BoundTo d k) {d' : String} {ss : List O.Session}
    (hss : d' = d → ∀ s ∈ ss, O.remoteIdentityKey s = k) : (m.setSessions d' ss).BoundTo d k := by
  intro s hs
  rw [sessionsOf_setSessions] at hs
  split at hs
  · next hd => exact hss hd.symm s hs
  · exact h s hs

theorem BoundTo.encryptExisting (hO : O.Bound) (h : m.BoundTo d k) {d' : String} {p : Bytes}
    {n : Nat} {e : EncryptedOlm} (he : m.encryptExisting d' p n = .ok (e, m')) :
    m'.BoundTo d k ∧ (d' = d → m'.newestKey d' = some k) := by
  obtain ⟨s, s', message, hs, hs', -, rfl⟩ := encryptExisting_ok he
  have hkey : d' = d → O.remoteIdentityKey s' = k := fun hd =>
    (hO.encrypt hs').trans (h s (hd ▸ List.mem_of_getLast? hs))
  refine ⟨h.setSessions fun hd t ht => ?_, fun hd => ?_⟩
  · rcases List.mem_append.1 ht with ht | ht
    · exact h t (hd ▸ List.dropLast_subset _ ht)
    · rw [List.mem_singleton.1 ht, hkey hd]
  · simp [OlmMachine.newestKey, hkey hd]

/-- Encryption keeps the binding when it is given the identity key for the device id. -/
theorem BoundTo.encrypt (hO : O.Bound) (h : m.BoundTo d k) {r : PreKeyMaterial} {p : Bytes}
    {n : Nat} {e : EncryptedOlm} (hr : r.deviceId = d → r.identityKey = k)
    (he : m.encrypt r p n = .ok (e, m')) :
    m'.BoundTo d k ∧ (r.deviceId = d → m'.newestKey r.deviceId = some k) := by
  rcases encrypt_ok he with ⟨-, he⟩ | ⟨-, s, hs, he⟩
  · exact h.encryptExisting hO he
  · have h' : (m.setSessions r.deviceId (m.sessionsOf r.deviceId ++ [s])).BoundTo d k :=
      h.setSessions fun hd t ht => by
        rcases List.mem_append.1 ht with ht | ht
        · exact h t (hd ▸ ht)
        · rw [List.mem_singleton.1 ht, hO.outbound hs, hr hd]
    exact h'.encryptExisting hO he

theorem mem_evict {s : O.Session} {ss : List O.Session} (h : s ∈ evict ss) : s ∈ ss := by
  unfold evict at h
  split at h
  · exact List.mem_of_mem_tail h
  · exact h

/-- Advancing a session keeps every remote key of the list. -/
theorem remoteKeys_decryptWith (hO : O.Bound) :
    ∀ {ss ss' : List O.Session} {message : O.Message} {p : Bytes},
      decryptWith ss message = some (p, ss') → (∀ s ∈ ss, O.remoteIdentityKey s = k) →
        ∀ s ∈ ss', O.remoteIdentityKey s = k
  | [], _, _, _, h, _ => by cases h
  | s :: ss, ss', message, p, h, hss => by
    unfold decryptWith at h
    split at h
    · next p' newer hn =>
      cases h
      intro t ht
      rcases List.mem_cons.1 ht with rfl | ht
      · exact hss t List.mem_cons_self
      · exact remoteKeys_decryptWith hO hn (fun u hu => hss u (List.mem_cons_of_mem s hu)) t ht
    · obtain ⟨⟨p', s'⟩, hs', heq⟩ := Option.map_eq_some_iff.1 h
      cases heq
      intro t ht
      rcases List.mem_cons.1 ht with rfl | ht
      · exact (hO.decrypt hs').trans (hss s List.mem_cons_self)
      · exact hss t (List.mem_cons_of_mem s ht)

/-- Decryption keeps the binding when it is given the identity key for the device id. -/
theorem BoundTo.decrypt (hO : O.Bound) (h : m.BoundTo d k) {d' : String} {k' : Bytes}
    {e : EncryptedOlm} {p : Bytes} (hk : d' = d → k' = k) (hd : m.decrypt d' k' e = .ok (p, m')) :
    m'.BoundTo d k := by
  obtain ⟨message, -, ⟨ss, hss, rfl⟩ | ⟨s, account, hs, rfl | rfl⟩⟩ := decrypt_ok hd
  · exact h.setSessions fun hd' => remoteKeys_decryptWith hO hss (hd' ▸ h)
  · exact h
  · refine BoundTo.setSessions (m := { m with account }) h fun hd' t ht => ?_
    rcases List.mem_append.1 (mem_evict ht) with ht | ht
    · exact h t (hd' ▸ ht)
    · rw [List.mem_singleton.1 ht, hO.inbound hs, hk hd']

end Bound

end OlmMachine

end TuiChat
