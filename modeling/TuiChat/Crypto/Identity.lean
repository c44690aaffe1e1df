import TuiChat.Crypto.Primitives
import TuiChat.Protocol.Codec

/-!
# Device identities and certificates

`crates/crypto/src/identity.rs`, and `validate_bundle` of the client. An account's master key signs
the keys of each of its devices; `Certified` is the property that a device's certificate verifies.
-/

namespace TuiChat

open Lib (Bytes)
open Lib.Wire (utf8)

/-- Errors are the texts they are shown as. -/
abbrev Error := String

/-- Two signing keys: the account's master secret, where the device has it, and the device's own. -/
structure DeviceIdentity where
  accountId : String
  deviceId : String
  deviceName : String
  master : Option Bytes
  auth : Bytes
deriving DecidableEq, Repr

section

variable (P : Primitives)

namespace DeviceIdentity

def masterPublicKey (identity : DeviceIdentity) : Option Bytes :=
  identity.master.map P.verifyingKey

def certificate (accountId deviceId : String) (master auth ed curve : Bytes) : Bytes :=
  P.sign master (deviceCertificatePayload accountId deviceId auth ed curve)

/-- The bundle a device publishes of itself; without the master secret it is not certified. -/
def publicDevice (identity : DeviceIdentity) (olm : P.olm.Account) : DeviceBundle :=
  let auth := P.verifyingKey identity.auth
  let ed := P.olm.ed25519Key olm
  let curve := P.olm.curve25519Key olm
  { deviceId := identity.deviceId
    deviceName := identity.deviceName
    authSigningKey := auth
    olmEd25519Key := ed
    olmCurve25519Key := curve
    certificateSignature := (identity.master.map fun master =>
      certificate P identity.accountId identity.deviceId master auth ed curve).getD []
    revoked := false }

def certifyBundle (identity : DeviceIdentity) (device : DeviceBundle) : Except Error DeviceBundle :=
  match identity.master with
  | none => .error "account master secret is unavailable"
  | some master => .ok { device with
      certificateSignature := certificate P identity.accountId device.deviceId master
        device.authSigningKey device.olmEd25519Key device.olmCurve25519Key }

/-- Big-endian bytes of a `u64`. -/
def be64 (n : Nat) : Bytes := be32 (n / 2 ^ 32) ++ be32 (n % 2 ^ 32)

def rosterPayload (accountId : String) (revision : Nat) (deviceId : String) : Bytes :=
  utf8 "tui-chat-roster-v1" ++ [0] ++ utf8 accountId ++ [0] ++ be64 revision ++ utf8 deviceId

def signRoster (identity : DeviceIdentity) (revision : Nat) (deviceId : String) : Except Error Bytes :=
  match identity.master with
  | none => .error "account master secret is unavailable"
  | some master => .ok (P.sign master (rosterPayload identity.accountId revision deviceId))

def signAuthChallenge (identity : DeviceIdentity) (payload : Bytes) : Bytes := P.sign identity.auth payload

def signPrekey (identity : DeviceIdentity) (keyId : String) (curve25519Key : Bytes) : OneTimeKey :=
  let payload := utf8 "tui-chat-prekey-v1" ++ [0] ++ utf8 keyId ++ [0] ++ curve25519Key
  { keyId, curve25519Key, signature := P.sign identity.auth payload }

def installMasterSecret (identity : DeviceIdentity) (secret : Bytes) : DeviceIdentity :=
  { identity with master := some secret }

end DeviceIdentity

/-- What the safety code hashes: both users with their master keys, in the order of the names. -/
def safetyCodeInput (userA : String) (masterA : Bytes) (userB : String) (masterB : Bytes) : Bytes :=
  let (firstUser, firstKey, secondUser, secondKey) :=
    if userA ≤ userB then (userA, masterA, userB, masterB) else (userB, masterB, userA, masterA)
  utf8 "tui-chat-safety-code-v1" ++ [0] ++ utf8 firstUser ++ [0] ++ firstKey ++ utf8 secondUser ++
    [0] ++ secondKey

/-- `format!("{:05}", n)` for an `n` below 100000. -/
def fiveDigits (n : Nat) : String :=
  String.ofList ([n / 10000, n / 1000, n / 100, n / 10, n].map fun d => hexDigit (d % 10))

def safetyCode (userA : String) (masterA : Bytes) (userB : String) (masterB : Bytes) : String :=
  let digest := P.sha256 (safetyCodeInput userA masterA userB masterB)
  " ".intercalate (((Lib.chunks 5 digest).take 6).map fun chunk =>
    fiveDigits (chunk.foldl (fun value byte => value * 256 + byte.toNat) 0 % 100000))

def verifyDeviceBundle (master : Bytes) (accountId : String) (device : DeviceBundle) :
    Except Error Unit :=
  if master.length ≠ 32 then .error "invalid account master key"
  else if device.certificateSignature.length ≠ 64 then .error "invalid device certificate"
  else if P.verifyStrict master
      (deviceCertificatePayload accountId device.deviceId device.authSigningKey
        device.olmEd25519Key device.olmCurve25519Key)
      device.certificateSignature then .ok ()
  else .error "signature error"

def prekeyPayload (keyId : String) (curve25519Key : Bytes) : Bytes :=
  utf8 "tui-chat-prekey-v1" ++ [0] ++ utf8 keyId ++ [0] ++ curve25519Key

def verifyPrekey (device : DeviceBundle) (key : OneTimeKey) : Except Error Unit :=
  if device.authSigningKey.length ≠ 32 then .error "invalid device signing key"
  else if key.signature.length ≠ 64 then .error "invalid prekey signature"
  else if P.verifyStrict device.authSigningKey (prekeyPayload key.keyId key.curve25519Key)
      key.signature then .ok ()
  else .error "signature error"

/-- The unrevoked devices of a bundle. -/
def UserBundle.active (bundle : UserBundle) : List DeviceBundle :=
  bundle.devices.filter fun device => !device.revoked

/-- The unrevoked device of a bundle with an id. -/
def activeDevice (bundle : UserBundle) (deviceId : String) : Option DeviceBundle :=
  bundle.devices.find? fun device => device.deviceId = deviceId && !device.revoked

def validateBundle (bundle : UserBundle) : Except Error Unit :=
  if bundle.accountMasterKey.length ≠ 32 then .error "账号主密钥长度无效"
  else bundle.active.forM fun device =>
    verifyDeviceBundle P bundle.accountMasterKey bundle.accountId device

/-- The certificate of `device` verifies under `master`, for the account. -/
def Certified (master : Bytes) (accountId : String) (device : DeviceBundle) : Prop :=
  verifyDeviceBundle P master accountId device = .ok ()

instance (master : Bytes) (accountId : String) (device : DeviceBundle) :
    Decidable (Certified P master accountId device) :=
  decidable_of_iff (verifyDeviceBundle P master accountId device matches .ok _) <| by
    unfold Certified
    rcases verifyDeviceBundle P master accountId device with _ | ⟨⟩ <;> simp

end

end TuiChat
