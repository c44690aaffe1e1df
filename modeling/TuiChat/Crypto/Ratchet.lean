import TuiChat.Crypto.Machine
import TuiChat.Lib.Trans

/-!
# The history of a machine

An operation on an Olm machine takes it to a successor; the ratchet position an encryption uses is
gone from there on. `Line m ops m'` says that `m'` is `m` after the listed operations, each of them
made on what the one before it left: no two of them use one position. `Seals` matches an encryption
with the envelope its ciphertext is put in.
-/

namespace TuiChat

open Lib (Bytes Path)

/-- What was done with a machine. -/
inductive MachineOp
  | encrypted (deviceId : String) (plaintext : Bytes) (message : EncryptedOlm)
  | decrypted (deviceId : String) (message : EncryptedOlm)
deriving DecidableEq, Repr

def MachineOp.isEncryption : MachineOp → Bool
  | .encrypted .. => true
  | .decrypted .. => false

variable {O : Olm}

inductive MachineStep : OlmMachine O → MachineOp → OlmMachine O → Prop
  | encryptExisting {m m' : OlmMachine O} {d : String} {p : Bytes} {n : Nat} {e : EncryptedOlm}
      (h : m.encryptExisting d p n = .ok (e, m')) : MachineStep m (.encrypted d p e) m'
  | encrypt {m m' : OlmMachine O} {r : PreKeyMaterial} {p : Bytes} {n : Nat} {e : EncryptedOlm}
      (h : m.encrypt r p n = .ok (e, m')) : MachineStep m (.encrypted r.deviceId p e) m'
  | decrypt {m m' : OlmMachine O} {d : String} {k p : Bytes} {e : EncryptedOlm}
      (h : m.decrypt d k e = .ok (p, m')) : MachineStep m (.decrypted d e) m'

/-- The operations that make the second machine of the first, one after the other. -/
abbrev Line : OlmMachine O → List MachineOp → OlmMachine O → Prop := Path MachineStep

/-- The operation made the ciphertext of the envelope, for the envelope's device. -/
def Seals (op : MachineOp) (e : EncryptedEnvelope) : Prop :=
  ∃ plaintext, op = .encrypted e.recipientDeviceId plaintext
    { messageType := e.olmMessageType, ciphertext := e.ciphertext }

theorem Seals.isEncryption {op : MachineOp} {e : EncryptedEnvelope} (h : Seals op e) :
    op.isEncryption = true := by
  obtain ⟨plaintext, rfl⟩ := h
  rfl

/-- Operations that made envelopes are encryptions. -/
theorem filter_of_seals {ops : List MachineOp} {es : List EncryptedEnvelope}
    (h : List.Forall₂ Seals ops es) : ops.filter MachineOp.isEncryption = ops := by
  induction h with
  | nil => rfl
  | cons h _ ih => rw [List.filter_cons_of_pos h.isEncryption, ih]

end TuiChat
