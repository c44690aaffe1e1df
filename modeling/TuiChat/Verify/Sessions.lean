import TuiChat.Client.ActionSteps
import TuiChat.Verify.Scenario

/-!
# Which session a ciphertext is made with

The sessions of an Olm machine are kept by device id alone, and encryption takes the newest one. As
long as every device of an id that the client decrypts from or encrypts for has one identity key,
all sessions of the id are with that key, in the current profile and in the stored one
(`View.SessionsBound`), and so is the session of the next ciphertext (`ciphertexts_bound`).
-/

namespace TuiChat

open Lib

variable {P : Primitives} {env : Environment} {profile : RuntimeProfile P} {v v' : View P} {w : World P}

/-- The sessions of every device id that has had one identity key are with it. -/
structure View.SessionsBound (v : View P) : Prop where
  current : ∀ id key, Uses id key v.log → v.profile.machine.BoundTo id key
  stored : ∀ id key, Uses id key v.log → v.stored.machine.BoundTo id key

/-- The device that an event names as encrypted for or decrypted from. -/
def Event.used : Event → Option DeviceBundle
  | .decrypted d => some d
  | .encrypted d _ => some d
  | _ => none

instance (id : String) (key : Bytes) (log : List Event) : Decidable (Uses id key log) :=
  decidable_of_iff (∀ e ∈ log, ∀ d ∈ e.used, d.deviceId = id → d.olmCurve25519Key = key) <| by
    refine ⟨fun h d hd => ?_, fun h e he d hd => h d ?_⟩
    · rcases hd with hd | ⟨k, hd⟩
      · exact h _ hd d rfl
      · exact h _ hd d rfl
    · cases e <;> simp [Event.used] at hd <;> subst hd
      · exact .inl he
      · exact .inr ⟨_, he⟩

/-- A ciphertext for a device whose id has only had the device's key is bound to that key. -/
def BoundWhenMade (e : Event) (pre : List Event) : Prop :=
  ∀ d k, e = .encrypted d k → Uses d.deviceId d.olmCurve25519Key pre → k = some d.olmCurve25519Key

namespace View.SessionsBound

/-- More events only restrict what is asked of the machines. -/
theorem of_suffix (h : v.SessionsBound) (hp : v'.profile = v.profile) (hs : v'.stored = v.stored)
    (hl : v.log <:+ v'.log) : v'.SessionsBound where
  current id key hu := hp ▸ h.current id key (hu.of_suffix hl)
  stored id key hu := hs ▸ h.stored id key (hu.of_suffix hl)

theorem step (hO : P.olm.Bound) (h : v.SessionsBound) (hs : AnyStep v v') : v'.SessionsBound := by
  rcases hs with hs | ⟨stored, acknowledged, -, hs⟩ | selected | _
  · cases hs with
    | quiet hq => exact h.of_suffix hq.same.1 hq.same.2.1 hq.log
    | machine m received =>
      obtain ⟨ops, derived, -⟩ := received
      have hm : ∀ id key, Uses id key v.log → m.BoundTo id key := fun id key hu =>
        derived.bound hO id key hu (h.current id key hu)
      exact ⟨hm, hm⟩
    | outgoing m ops message queued derived =>
      have hm : ∀ id key, Uses id key (.queued message :: v.log) → m.BoundTo id key :=
        fun id key hu => derived.bound hO id key (hu.of_suffix (List.suffix_cons _ _))
          (h.current id key (hu.of_suffix (List.suffix_cons _ _)))
      exact ⟨hm, hm⟩
    | profile p _ _ machine => exact ⟨fun id key hu => machine ▸ h.current id key hu, h.stored⟩
    | saved => exact ⟨h.current, h.current⟩
    | restarted =>
      have hstored : ∀ id key, Uses id key (.opened none :: v.log) → v.stored.machine.BoundTo id key :=
        fun id key hu => h.stored id key (hu.of_suffix (List.suffix_cons _ _))
      exact ⟨hstored, hstored⟩
  · cases hs
    exact h.of_suffix rfl rfl (List.suffix_cons _ _)
  · exact h.of_suffix rfl rfl (List.suffix_cons _ _)
  · exact ⟨h.current, h.stored⟩

end View.SessionsBound

theorem boundWhenMade_step (hO : P.olm.Bound) (h : Recorded BoundWhenMade v.log)
    (hb : v.SessionsBound) (hs : AnyStep v v') : Recorded BoundWhenMade v'.log := by
  rcases hs with hs | ⟨stored, acknowledged, -, hs⟩ | selected | _
  · cases hs with
    | quiet hq =>
      cases hq with
      | encrypted d k bound =>
        refine ⟨fun d' k' he hu => ?_, h⟩
        cases he
        exact bound hO hu (hb.current _ _ hu)
      | imported => exact ⟨fun _ _ => nofun, fun _ _ => nofun, h⟩
      | upsert | loaded | opened | displayed | verified | committed | raised | decrypted | requested
        | started | compared | migrated | certified | handled => exact ⟨fun _ _ => nofun, h⟩
      | shown | flags | deleted | message | aside | sent | joined | marked | ended => exact h
    | outgoing | restarted => exact ⟨fun _ _ => nofun, h⟩
    | machine | profile | saved => exact h
  · cases hs
    exact ⟨fun _ _ => nofun, h⟩
  · exact ⟨fun _ _ => nofun, h⟩
  · exact h

/-- In every run that starts without sessions, against any server, a ciphertext for a device is made
with a session of the device's own identity key, if every device of its id that the client had
decrypted from or encrypted for before has that key. -/
theorem ciphertexts_bound (hO : P.olm.Bound) (hm : ∀ id, profile.machine.sessionsOf id = [])
    (hw : (clientSystem env profile).Reachable w) {post pre : List Event} {d : DeviceBundle}
    {k : Option Bytes} (hl : w.log = post ++ .encrypted d k :: pre)
    (hu : Uses d.deviceId d.olmCurve25519Key pre) : k = some d.olmCurve25519Key := by
  have hfresh : ∀ id key, profile.machine.BoundTo id key := fun id key s hs => by
    rw [hm] at hs
    cases hs
  have hinv := reachable_invariant (I := fun v => v.SessionsBound ∧ Recorded BoundWhenMade v.log) hw
    ⟨⟨fun id key _ => hfresh id key, fun id key _ => hfresh id key⟩, trivial⟩
    fun v v' h hs => ⟨h.1.step hO hs, boundWhenMade_step hO h.2 h.1 hs⟩
  have hlog : Recorded BoundWhenMade (post ++ .encrypted d k :: pre) := hl ▸ hinv.2
  exact hlog.at d k rfl hu

namespace Scenario.SharedDeviceId

/-- Receipts of Bob and of Mallory, whose devices have one id. -/
def readBy (user : String) : WirePayload := payload "read_batch" user user "alice" "" ["0"]

def lookups : Environment :=
  environment (fun _ => [bundle "alice" 1 [("a1", 2)], bundle "bob" 5 [("b1", 6)],
    bundle "mallory" 9 [("b1", 8)]]) [readBy "bob", readBy "mallory"]

/-- Bob is verified, and then Mallory's device speaks. -/
def verified : List Action :=
  [ .serverEvent (batch [envelope 1 "b1" "c" 6 "a1" (readBy "bob")])
  , .selectIndex 0
  , .verifySelected ]

def afterMallory : World primitives :=
  (World.ofProfile (firstDevice "alice" "a1" 1 2)).afterAll lookups
    (verified ++ [.serverEvent (batch [envelope 2 "b1" "c" 8 "a1" (readBy "mallory")]),
      .sendText "hello"])

def beforeMallory : World primitives :=
  (World.ofProfile (firstDevice "alice" "a1" 1 2)).afterAll lookups (verified ++ [.sendText "hello"])

def bobsDevice : DeviceBundle := device "bob" "b1" 5 6

theorem ciphertexts_bound_bob : some (bytes32 6) = some bobsDevice.olmCurve25519Key := by
  have hw : (clientSystem lookups (firstDevice "alice" "a1" 1 2)).Reachable beforeMallory :=
    reachable_ofProfile _ _ _
  have hl : beforeMallory.log =
      beforeMallory.log.take 2 ++ .encrypted bobsDevice (some (bytes32 6)) ::
        beforeMallory.log.drop 3 := by
    decide +kernel
  have hu : Uses "b1" (bytes32 6) (beforeMallory.log.drop 3) := by decide +kernel
  exact ciphertexts_bound olm_bound (fun _ => rfl) hw hl hu

/-- A text to a verified contact goes out in a session with Mallory's identity key. -/
theorem ciphertext_for_bob_bound_to_mallory :
    (clientSystem lookups (firstDevice "alice" "a1" 1 2)).Reachable afterMallory ∧
      afterMallory.store.contacts.find "bob" =
        some { bundle := bundle "bob" 5 [("b1", 6)], verified := true, identityChanged := false } ∧
      .encrypted bobsDevice (some (bytes32 8)) ∈ afterMallory.log ∧
      some (bytes32 8) ≠ some bobsDevice.olmCurve25519Key :=
  ⟨reachable_ofProfile _ _ _, by decide +kernel, by decide +kernel, by decide +kernel⟩

end Scenario.SharedDeviceId

end TuiChat
