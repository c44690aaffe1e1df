import TuiChat.Crypto.Machine

/-!
# The Olm machine in place

The calls of `crates/crypto/src/machine.rs` are made on a machine that they change, also where they fail: a
failing `encrypt` may have entered a session. Here each call gives its result and the machine it leaves. What
a failing call of vodozemac leaves of its session or account is a parameter; where that is the session or
account as it was, the machine of `Crypto.Machine` has the same results (`decrypt_eq`, `encrypt_eq`).
-/

namespace TuiChat

open Lib (Bytes Table)
open Lib.Wire (utf8)

/-- What the calls of vodozemac that fail leave of the session or the account they were made on. -/
structure Olm.Leftover (O : Olm) where
  failedEncrypt : O.Session → (plaintext : Bytes) → (draw : Nat) → O.Session
  failedDecrypt : O.Session → O.Message → O.Session
  failedInbound : O.Account → (identityKey : Bytes) → O.Message → O.Account

namespace Olm.Leftover

variable {O : Olm} (L : O.Leftover)

/-- A failing decryption or session creation changes nothing. -/
structure Unchanged : Prop where
  decrypt : ∀ {s m}, O.decrypt s m = none → L.failedDecrypt s m = s
  inbound : ∀ {a k m}, O.createInboundSession a k m = none → L.failedInbound a k m = a

/-- A session has the id it was created with. -/
structure SessionIdFixed : Prop where
  encrypt : ∀ {s p n m s'}, O.encrypt s p n = some (m, s') → O.sessionId s' = O.sessionId s
  decrypt : ∀ {s m p s'}, O.decrypt s m = some (p, s') → O.sessionId s' = O.sessionId s
  failedEncrypt : ∀ {s p n}, O.encrypt s p n = none → O.sessionId (L.failedEncrypt s p n) = O.sessionId s
  failedDecrypt : ∀ {s m}, O.decrypt s m = none → O.sessionId (L.failedDecrypt s m) = O.sessionId s

/-! ## The calls -/

/-- The newest session of the device id encrypts. -/
def encryptNewest (m : OlmMachine O) (deviceId : String) (plaintext : Bytes) (draw : Nat) (missing : Error) :
    Except Error EncryptedOlm × OlmMachine O :=
  let sessions := m.sessionsOf deviceId
  match sessions.getLast? with
  | none => (.error missing, m)
  | some session =>
    match O.encrypt session plaintext draw with
    | none =>
      (.error "olm encryption failed",
        m.setSessions deviceId (sessions.dropLast ++ [L.failedEncrypt session plaintext draw]))
    | some (message, session') =>
      let (messageType, ciphertext) := O.toParts message
      (.ok { messageType, ciphertext }, m.setSessions deviceId (sessions.dropLast ++ [session']))

def encryptExisting (m : OlmMachine O) (deviceId : String) (plaintext : Bytes) (draw : Nat) :
    Except Error EncryptedOlm × OlmMachine O :=
  L.encryptNewest m deviceId plaintext draw "no Olm session for device"

def encrypt (m : OlmMachine O) (recipient : PreKeyMaterial) (plaintext : Bytes) (draw : Nat) :
    Except Error EncryptedOlm × OlmMachine O :=
  if m.hasSession recipient.deviceId then
    L.encryptNewest m recipient.deviceId plaintext draw "new Olm session disappeared"
  else
    match O.createOutboundSession m.account recipient.identityKey recipient.oneTimeKey draw with
    | none => (.error "olm session creation failed", m)
    | some session =>
      L.encryptNewest (m.setSessions recipient.deviceId (m.sessionsOf recipient.deviceId ++ [session]))
        recipient.deviceId plaintext draw "new Olm session disappeared"

/-- The sessions are tried from the newest on, up to the first that reads the message. -/
def decryptWith : List O.Session → O.Message → Option Bytes × List O.Session
  | [], _ => (none, [])
  | session :: newer, message =>
    match decryptWith newer message with
    | (some plaintext, newer') => (some plaintext, session :: newer')
    | (none, newer') =>
      match O.decrypt session message with
      | some (plaintext, session') => (some plaintext, session' :: newer')
      | none => (none, L.failedDecrypt session message :: newer')

/-- The loop over the sessions of a device id that is in the table. -/
def tryAll (m : OlmMachine O) (senderDevice : String) (message : O.Message) : Option Bytes × OlmMachine O :=
  match m.sessions.find senderDevice with
  | none => (none, m)
  | some (_, sessions) =>
    let (plaintext, sessions') := L.decryptWith sessions message
    (plaintext, m.setSessions senderDevice sessions')

def decrypt (m : OlmMachine O) (senderDevice : String) (senderIdentityKey : Bytes) (encrypted : EncryptedOlm) :
    Except Error Bytes × OlmMachine O :=
  match O.fromParts encrypted.messageType encrypted.ciphertext with
  | none => (.error "invalid Olm message", m)
  | some message =>
    match L.tryAll m senderDevice message with
    | (some plaintext, m') => (.ok plaintext, m')
    | (none, m') =>
      if O.isPreKey message then
        match O.createInboundSession m'.account senderIdentityKey message with
        | none =>
          (.error "olm session creation failed",
            { m' with account := L.failedInbound m'.account senderIdentityKey message })
        | some (session, plaintext, account) =>
          let sessions := m'.sessionsOf senderDevice
          let known := sessions.any fun known => O.sessionId known = O.sessionId session
          (.ok plaintext, ({ m' with account } : OlmMachine O).setSessions senderDevice
            (if known then sessions else OlmMachine.evict (sessions ++ [session])))
      else (.error "no matching Olm session", m')

/-! ## The machine as a value -/

variable {L}

/-- Where nothing reads the message the sessions are as they were. -/
theorem decryptWith_eq (hL : L.Unchanged) (message : O.Message) : ∀ sessions : List O.Session,
    L.decryptWith sessions message =
      match OlmMachine.decryptWith sessions message with
      | some (plaintext, sessions') => (some plaintext, sessions')
      | none => (none, sessions)
  | [] => rfl
  | session :: newer => by
    unfold decryptWith OlmMachine.decryptWith
    rw [decryptWith_eq hL message newer]
    cases OlmMachine.decryptWith newer message with
    | some found => rfl
    | none =>
      cases hdecrypt : O.decrypt session message with
      | some found => simp
      | none => simp [hL.decrypt hdecrypt]

theorem tryAll_eq (hL : L.Unchanged) (m : OlmMachine O) (d : String) (message : O.Message) :
    L.tryAll m d message =
      match OlmMachine.decryptWith (m.sessionsOf d) message with
      | some (plaintext, sessions) => (some plaintext, m.setSessions d sessions)
      | none => (none, m) := by
  unfold tryAll OlmMachine.sessionsOf
  cases hfind : m.sessions.find d with
  | none => rfl
  | some entry =>
    obtain ⟨d', sessions⟩ := entry
    have hkey : d' = d := Table.key_of_find hfind
    subst hkey
    have hput : m.setSessions d' sessions = m := by
      unfold OlmMachine.setSessions
      rw [Table.put_of_mem (Table.mem_of_find hfind)]
    dsimp only
    rw [decryptWith_eq hL]
    cases hread : OlmMachine.decryptWith sessions message with
    | some found => simp [hread]
    | none => simp [hread, hput]

/-- A decryption that fails leaves the machine as it was. -/
theorem decrypt_error (hL : L.Unchanged) {m : OlmMachine O} {d : String} {k : Bytes} {encrypted : EncryptedOlm}
    {e : Error} (h : (L.decrypt m d k encrypted).1 = .error e) : (L.decrypt m d k encrypted).2 = m := by
  unfold decrypt at h ⊢
  cases hparts : O.fromParts encrypted.messageType encrypted.ciphertext with
  | none => rfl
  | some message =>
    simp only [hparts, tryAll_eq hL] at h ⊢
    cases hread : OlmMachine.decryptWith (m.sessionsOf d) message with
    | some found =>
      simp only [hread] at h
      cases h
    | none =>
      simp only [hread] at h ⊢
      by_cases hpre : O.isPreKey message = true
      · simp only [if_pos hpre] at h ⊢
        cases hinbound : O.createInboundSession m.account k message with
        | none => simp only [hL.inbound hinbound]
        | some created =>
          simp only [hinbound] at h
          cases h
      · simp only [if_neg hpre]

/-- The machine in place has the result of the machine as a value, and leaves the machine that one gives. -/
theorem decrypt_eq (hL : L.Unchanged) (m : OlmMachine O) (d : String) (k : Bytes) (encrypted : EncryptedOlm) :
    m.decrypt d k encrypted = (L.decrypt m d k encrypted).1.map fun plaintext =>
      (plaintext, (L.decrypt m d k encrypted).2) := by
  unfold OlmMachine.decrypt decrypt
  cases O.fromParts encrypted.messageType encrypted.ciphertext with
  | none => rfl
  | some message =>
    simp only [tryAll_eq hL]
    cases OlmMachine.decryptWith (m.sessionsOf d) message with
    | some found => rfl
    | none =>
      dsimp only
      by_cases hpre : O.isPreKey message = true
      · simp only [if_pos hpre]
        cases O.createInboundSession m.account k message with
        | none => rfl
        | some created =>
          obtain ⟨session, plaintext, account⟩ := created
          dsimp only
          by_cases hknown : (m.sessionsOf d).any (fun known => O.sessionId known = O.sessionId session) = true
          · have hput : ({ m with account } : OlmMachine O).setSessions d (m.sessionsOf d) = { m with account } := by
              obtain ⟨known, hmem, -⟩ := List.any_eq_true.1 hknown
              unfold OlmMachine.sessionsOf at hmem ⊢
              cases hfind : m.sessions.find d with
              | none => simp [hfind] at hmem
              | some entry =>
                have hkey : entry.1 = d := Table.key_of_find hfind
                subst hkey
                unfold OlmMachine.setSessions
                simp only [Option.map_some, Option.getD_some]
                rw [Table.put_of_mem (Table.mem_of_find hfind)]
            simp only [if_pos hknown, hput]
            rfl
          · simp only [if_neg hknown]
            rfl
      · simp only [if_neg hpre]
        rfl

theorem encryptExisting_eq (L : O.Leftover) (m : OlmMachine O) (d : String) (p : Bytes) (n : Nat) :
    m.encryptExisting d p n = (L.encryptExisting m d p n).1.map fun encrypted =>
      (encrypted, (L.encryptExisting m d p n).2) := by
  unfold OlmMachine.encryptExisting encryptExisting encryptNewest
  dsimp only
  cases (m.sessionsOf d).getLast? with
  | none => rfl
  | some session =>
    dsimp only
    cases O.encrypt session p n with
    | none => rfl
    | some found => rfl

/-- With a session for the device id, the text for a missing one does not matter. -/
theorem encryptNewest_eq (L : O.Leftover) {m : OlmMachine O} {d : String} (h : m.hasSession d = true) (p : Bytes)
    (n : Nat) (missing : Error) : L.encryptNewest m d p n missing = L.encryptExisting m d p n := by
  unfold encryptExisting encryptNewest
  cases hlast : (m.sessionsOf d).getLast? with
  | none =>
    have hempty : m.sessionsOf d = [] := List.getLast?_eq_none_iff.1 hlast
    simp [OlmMachine.hasSession, hempty] at h
  | some session => simp only [hlast]

theorem encrypt_eq (L : O.Leftover) (m : OlmMachine O) (r : PreKeyMaterial) (p : Bytes) (n : Nat) :
    m.encrypt r p n = (L.encrypt m r p n).1.map fun encrypted => (encrypted, (L.encrypt m r p n).2) := by
  unfold OlmMachine.encrypt encrypt
  by_cases hsession : m.hasSession r.deviceId = true
  · simp only [if_pos hsession]
    rw [L.encryptNewest_eq hsession]
    exact L.encryptExisting_eq m r.deviceId p n
  · simp only [if_neg hsession]
    cases O.createOutboundSession m.account r.identityKey r.oneTimeKey n with
    | none => rfl
    | some session =>
      have hentered :
          (m.setSessions r.deviceId (m.sessionsOf r.deviceId ++ [session])).hasSession r.deviceId = true := by
        simp [OlmMachine.hasSession]
      dsimp only
      rw [L.encryptNewest_eq hentered]
      exact L.encryptExisting_eq _ r.deviceId p n

end Olm.Leftover

/-! ## Serialisation -/

/-- `Account::pickle`, `Session::pickle` and the ways back. -/
structure Pickling (O : Olm) where
  AccountPickle : Type
  SessionPickle : Type
  accountPickle : O.Account → AccountPickle
  accountFromPickle : AccountPickle → O.Account
  sessionPickle : O.Session → SessionPickle
  sessionFromPickle : SessionPickle → O.Session

variable {O : Olm}

structure MachinePickleV2 (K : Pickling O) where
  account : K.AccountPickle
  sessions : Table.Map String (List K.SessionPickle)

structure MachinePickleV1 (K : Pickling O) where
  account : K.AccountPickle
  sessions : Table.Map String K.SessionPickle

/-- `serde_json` at the two pickles. -/
structure PickleJson (K : Pickling O) where
  toVec : MachinePickleV2 K → Except Error Bytes
  fromSliceV2 : Bytes → Except Error (MachinePickleV2 K)
  fromSliceV1 : Bytes → Except Error (MachinePickleV1 K)

namespace Pickling

variable {K : Pickling O}

structure RoundTrips (K : Pickling O) : Prop where
  account : ∀ a, K.accountFromPickle (K.accountPickle a) = a
  session : ∀ s, K.sessionFromPickle (K.sessionPickle s) = s

def fromPickleV2 (pickle : MachinePickleV2 K) : OlmMachine O where
  account := K.accountFromPickle pickle.account
  sessions := pickle.sessions.mapValues fun sessions => sessions.map K.sessionFromPickle

def fromPickleV1 (pickle : MachinePickleV1 K) : OlmMachine O where
  account := K.accountFromPickle pickle.account
  sessions := pickle.sessions.mapValues fun session => [K.sessionFromPickle session]

def pickle (K : Pickling O) (m : OlmMachine O) : MachinePickleV2 K where
  account := K.accountPickle m.account
  sessions := m.sessions.mapValues fun sessions => sessions.map K.sessionPickle

end Pickling

namespace PickleJson

variable {K : Pickling O} (J : PickleJson K)

/-- What was written is read back, the rows of the map in any order. -/
def RoundTrips : Prop := ∀ {pickle b}, J.toVec pickle = .ok b →
  ∃ pickle', J.fromSliceV2 b = .ok pickle' ∧ pickle'.account = pickle.account ∧
    ∀ d, pickle'.sessions.find d = pickle.sessions.find d

def marker : Bytes := utf8 "TCM3"

def toBytes (m : OlmMachine O) : Except Error Bytes := (J.toVec (K.pickle m)).map (marker ++ ·)

def fromBytes (bytes : Bytes) : Except Error (OlmMachine O) :=
  match bytes.dropPrefix? marker with
  | some encoded => (J.fromSliceV2 encoded).map Pickling.fromPickleV2
  | none =>
    match J.fromSliceV2 bytes with
    | .ok pickle => .ok (Pickling.fromPickleV2 pickle)
    | .error _ => (J.fromSliceV1 bytes).map Pickling.fromPickleV1

/-- A machine comes back with its account and its sessions. -/
theorem fromBytes_toBytes (hK : K.RoundTrips) (hJ : J.RoundTrips) {m : OlmMachine O} {b : Bytes}
    (h : J.toBytes m = .ok b) :
    ∃ m', J.fromBytes b = .ok m' ∧ m'.account = m.account ∧ ∀ d, m'.sessions.find d = m.sessions.find d := by
  unfold toBytes at h
  cases hvec : J.toVec (K.pickle m) with
  | error e =>
    rw [hvec] at h
    cases h
  | ok encoded =>
    rw [hvec] at h
    cases h
    obtain ⟨pickle, hpickle, haccount, hsessions⟩ := hJ hvec
    have hstrip : (marker ++ encoded).dropPrefix? marker = some encoded :=
      List.dropPrefix?_append_of_beq encoded (by simp)
    refine ⟨Pickling.fromPickleV2 pickle, ?_, ?_, fun d => ?_⟩
    · unfold fromBytes
      rw [hstrip]
      show (J.fromSliceV2 encoded).map _ = _
      rw [hpickle]
      rfl
    · show K.accountFromPickle pickle.account = m.account
      rw [haccount]
      exact hK.account m.account
    · show (pickle.sessions.mapValues _).find d = _
      rw [Table.find_mapValues, hsessions]
      show ((m.sessions.mapValues _).find d).map _ = _
      rw [Table.find_mapValues, Option.map_map]
      have hid : ∀ entry : String × List O.Session,
          (entry.1, (entry.2.map K.sessionPickle).map K.sessionFromPickle) = entry := by
        intro entry
        simp [Function.comp_def, hK.session]
      cases m.sessions.find d with
      | none => rfl
      | some entry => exact congrArg some (hid entry)

end PickleJson

end TuiChat
