import TuiChat.Client.ActionSteps
import TuiChat.Verify.Scenario

/-!
# What a verification certifies

The safety code is computed from the contact list in memory, and `/verify` marks the row in the
store. The two copies agree when the list has been read since the row was last given another key;
`freshness` follows that along the log. A verification that comes after such a reading and a display
certifies the key that was displayed (`verification_certifies_displayed`).
-/

namespace TuiChat

open Lib

variable {P : Primitives} {env : Environment} {profile : RuntimeProfile P} {v v' : View P} {w : World P}

/-- What the contact list in memory knows of an account's key. -/
inductive Freshness
  /-- The row was given another key after the list was read. -/
  | stale
  /-- The list has the key of the row. -/
  | loaded
  /-- A code was shown since. -/
  | shown
deriving DecidableEq, Repr

def freshness (account : String) : List Event → Freshness
  | [] => .loaded
  | .keyWritten account' _ changed _ :: log =>
    if account' = account ∧ changed = true then .stale else freshness account log
  | .contactsLoaded _ :: log =>
    if freshness account log = .stale then .loaded else freshness account log
  | .displayed account' _ :: log =>
    if account' = account ∧ freshness account log = .loaded then .shown else freshness account log
  | _ :: log => freshness account log

/-- The key that the last safety code shown for an account was computed from. -/
def lastDisplayed (account : String) : List Event → Option Bytes
  | [] => none
  | .displayed account' key :: log => if account' = account then some key else lastDisplayed account log
  | _ :: log => lastDisplayed account log

/-- Where the list is fresh, its key for the account is the row's, and so is the displayed one. -/
structure View.Fresh (account : String) (v : View P) : Prop where
  memory : freshness account v.log ≠ .stale → ∀ c ∈ v.memory, c.bundle.accountId = account →
    ∀ k, v.keyOf account = some k → c.bundle.accountMasterKey = k
  displayed : freshness account v.log = .shown → ∀ k, v.keyOf account = some k →
    lastDisplayed account v.log = some k

/-- A verification of a row whose code was shown is of the key shown. -/
def CertifiesDisplayed (e : Event) (pre : List Event) : Prop :=
  ∀ account k, e = .verified account (some k) → freshness account pre = .shown →
    lastDisplayed account pre = some k

namespace View

namespace Fresh

variable {account : String}

/-- A written bundle leaves the key of the account, or makes the list stale. -/
theorem put (h : v.Fresh account) (row : ContactRow) {log : List Event}
    (hl : freshness account log = freshness account v.log)
    (hd : lastDisplayed account log = lastDisplayed account v.log) :
    ({ v with rows := v.rows.put row, log := v.keyWritten row.bundle :: log } : View P).Fresh
      account := by
  have hsame : freshness account (v.keyWritten row.bundle :: log) ≠ .stale →
      freshness account (v.keyWritten row.bundle :: log) = freshness account v.log ∧
      (row.accountId = account → v.keyOf row.accountId = some row.bundle.accountMasterKey) := by
    intro hf
    unfold View.keyWritten at hf ⊢
    rw [freshness] at hf ⊢
    split
    · next hc => exact absurd (if_pos hc) hf
    · next hc =>
      refine ⟨hl, fun ha => ?_⟩
      by_contra hne
      exact hc ⟨ha, decide_eq_true hne⟩
  constructor
  · intro hf c hc hca k hk
    obtain ⟨hlog, hkey⟩ := hsame hf
    rw [keyOf_put_of_same hkey] at hk
    exact h.memory (hlog ▸ hf) c hc hca k hk
  · intro hf k hk
    obtain ⟨hlog, hkey⟩ := hsame (by rw [hf]; nofun)
    rw [keyOf_put_of_same hkey] at hk
    exact hd.trans (h.displayed (hlog ▸ hf) k hk)

/-- Reading the list makes it fresh. -/
theorem loaded (h : v.Fresh account) {contacts : List Contact} {selected : Option Nat}
    {reread : Reread} (rows : ∀ c ∈ contacts, ∃ row ∈ v.rows, c.bundle = row.bundle) :
    ({ v with memory := contacts, selected, log := .contactsLoaded reread :: v.log } : View P).Fresh
      account := by
  constructor
  · intro _ c hc hca k hk
    obtain ⟨row, hrow, hb⟩ := rows c hc
    have hrow' : v.keyOf account = some row.bundle.accountMasterKey := by
      rw [← hca, hb]
      exact keyOf_of_mem hrow
    rw [hb]
    exact Option.some.inj (hrow'.symm.trans hk)
  · intro hf k hk
    refine h.displayed ?_ k hk
    simp only [freshness] at hf
    split at hf
    · cases hf
    · exact hf

/-- A code that is shown is of the list's key. -/
theorem shown (h : v.Fresh account) {c : Contact} (mem : c ∈ v.memory) :
    ({ v with log := .displayed c.bundle.accountId c.bundle.accountMasterKey :: v.log } : View P).Fresh
      account := by
  constructor
  · intro hf
    refine h.memory fun hs => hf ?_
    simp [freshness, hs]
  · intro hf k hk
    simp only [lastDisplayed]
    by_cases hc : c.bundle.accountId = account
    · rw [if_pos hc]
      have hne : freshness account v.log ≠ .stale := fun hs => by simp [freshness, hs] at hf
      exact congrArg some (h.memory hne c mem hc k hk)
    · rw [if_neg hc]
      refine h.displayed ?_ k hk
      simpa [freshness, hc] using hf

theorem quietStep (h : v.Fresh account) (hs : QuietStep v v') : v'.Fresh account := by
  cases hs with
  | upsert old bundle found => exact h.put (upsertRow old bundle) rfl rfl
  | imported c => exact h.put (Store.importRow c) rfl rfl
  | loaded contacts selected reread rows =>
    exact h.loaded fun c hc => (rows c hc).imp fun row hr => ⟨hr.1, hr.2.1⟩
  | displayed c mem => exact h.shown mem
  | verified marked =>
    refine ⟨fun hf c hc hca k hk => ?_, fun hf k hk => ?_⟩
    · exact h.memory hf c hc hca k (by rwa [keyOf_verified] at hk)
    · exact h.displayed hf k (by rwa [keyOf_verified] at hk)
  | flags contacts bundles =>
    refine ⟨fun hf c hc hca k hk => ?_, h.displayed⟩
    have hmem : c.bundle ∈ v.memory.map Contact.bundle := bundles ▸ List.mem_map_of_mem hc
    obtain ⟨c', hc', hb⟩ := List.mem_map.1 hmem
    rw [← hb] at hca ⊢
    exact h.memory hf c' hc' hca k hk
  | deleted peer conversation own =>
    exact ⟨fun hf c hc hca k hk => h.memory hf c hc hca k (keyOf_deleted peer account _ hk),
      fun hf k hk => h.displayed hf k (keyOf_deleted peer account _ hk)⟩
  | opened | committed | raised | decrypted | encrypted | requested | started | compared | migrated
    | certified | handled => exact ⟨h.memory, h.displayed⟩
  | shown | message | aside | sent | joined | marked | ended => exact ⟨h.memory, h.displayed⟩

theorem step (h : v.Fresh account) (hs : AnyStep v v') : v'.Fresh account := by
  rcases hs with hs | ⟨stored, acknowledged, -, hs⟩ | selected | _
  · cases hs with
    | quiet hq => exact h.quietStep hq
    | machine | outgoing | profile | saved | restarted =>
      exact ⟨h.memory, h.displayed⟩
  · cases hs
    exact ⟨h.memory, h.displayed⟩
  · exact ⟨h.memory, h.displayed⟩
  · exact ⟨h.memory, h.displayed⟩

end Fresh

end View

theorem certifiesDisplayed_step (h : Recorded CertifiesDisplayed v.log)
    (hf : ∀ account, v.Fresh account) (hs : AnyStep v v') : Recorded CertifiesDisplayed v'.log := by
  rcases hs with hs | ⟨stored, acknowledged, -, hs⟩ | selected | _
  · cases hs with
    | quiet hq =>
      cases hq with
      | verified account =>
        refine ⟨fun account' k he hshown => ?_, h⟩
        obtain ⟨rfl, hk⟩ := Event.verified.inj he
        exact (hf account).displayed hshown k hk
      | imported => exact ⟨fun _ _ => nofun, fun _ _ => nofun, h⟩
      | upsert | loaded | opened | displayed | committed | raised | decrypted | encrypted | requested
        | started | compared | migrated | certified | handled => exact ⟨fun _ _ => nofun, h⟩
      | shown | flags | deleted | message | aside | sent | joined | marked | ended => exact h
    | outgoing | restarted => exact ⟨fun _ _ => nofun, h⟩
    | machine | profile | saved => exact h
  · cases hs
    exact ⟨fun _ _ => nofun, h⟩
  · exact ⟨fun _ _ => nofun, h⟩
  · exact h

/-- In every run, a verification of a row certifies the key that was displayed last, if the contact
list was read since the row was last given another key, and a code displayed since. -/
theorem verification_certifies_displayed (hw : (clientSystem env profile).Reachable w)
    {post pre : List Event} {account : String} {k : Bytes}
    (hl : w.log = post ++ .verified account (some k) :: pre) (hf : freshness account pre = .shown) :
    lastDisplayed account pre = some k := by
  have hinv := reachable_invariant
    (I := fun v => (∀ account, v.Fresh account) ∧ Recorded CertifiesDisplayed v.log) hw
    ⟨fun account => ⟨fun _ c hc => (nomatch hc), nofun⟩, trivial⟩
    fun v v' h hs => ⟨fun account => (h.1 account).step hs, certifiesDisplayed_step h.2 h.1 hs⟩
  have hlog : Recorded CertifiesDisplayed (post ++ .verified account (some k) :: pre) := hl ▸ hinv.2
  exact hlog.at account k rfl hf

namespace Scenario.UnseenKey

/-- A receipt of Bob's. -/
def receipt : WirePayload := payload "read_batch" "1" "bob" "alice" "" ["0"]

/-- The server gives Bob another master key after the code was shown. -/
def lookups : Environment :=
  environment (fun n => [bundle "bob" (if n < 16 then 5 else 7) [("b1", 6)]]) [receipt]

/-- Bob's code is shown. -/
def shown : List Action :=
  [.serverEvent (batch [envelope 1 "b1" "c" 6 "a1" receipt]), .selectIndex 0]

def verified : World primitives :=
  (World.ofProfile (firstDevice "alice" "a1" 1 2)).afterAll lookups (shown ++ [.verifySelected])

/-- An envelope of a device that Bob does not have is refused after the new bundle was written. -/
def verifiedUnseen : World primitives :=
  (World.ofProfile (firstDevice "alice" "a1" 1 2)).afterAll lookups
    (shown ++ [.serverEvent (batch [envelope 2 "b2" "c" 6 "a1" receipt]), .verifySelected])

theorem verification_certifies_bobs_key :
    lastDisplayed "bob" (verified.log.drop 1) = some (bytes32 5) := by
  have hw : (clientSystem lookups (firstDevice "alice" "a1" 1 2)).Reachable verified :=
    reachable_ofProfile _ _ _
  have hl : verified.log = [] ++ .verified "bob" (some (bytes32 5)) :: verified.log.drop 1 := by
    decide +kernel
  exact verification_certifies_displayed hw hl (by decide +kernel)

/-- A key is certified that no code was ever shown for. -/
theorem unseen_key_verified :
    (clientSystem lookups (firstDevice "alice" "a1" 1 2)).Reachable verifiedUnseen ∧
      verifiedUnseen.log =
        .verified "bob" (some (bytes32 7)) :: verifiedUnseen.log.drop 1 ∧
      lastDisplayed "bob" (verifiedUnseen.log.drop 1) = some (bytes32 5) ∧
      verifiedUnseen.store.contacts.find "bob" =
        some { bundle := bundle "bob" 7 [("b1", 6)], verified := true, identityChanged := false } :=
  ⟨reachable_ofProfile _ _ _, by decide +kernel, by decide +kernel, by decide +kernel⟩

end Scenario.UnseenKey

end TuiChat
