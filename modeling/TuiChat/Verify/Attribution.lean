import TuiChat.Client.ActionSteps
import TuiChat.Verify.Scenario

/-!
# Who a commit comes from

`handle_sync_batch` takes the sender's account from the envelope and the sender's certificate from
the bundle it looks up under the sender's user name, and compares neither the two accounts nor, for
an envelope of the own account, the bundle's master key with the own one. A commit is attributed
rightly exactly where the server's answers agree in these two places (`Commit.Vouched`): the device
is then certified by the key the client holds for the sender (`Commit.Attributed`).

`View.Belongs` is the invariant that everything here rests on: the account of a client and its
master key never change, and a device that is not pending never becomes so.
-/

namespace TuiChat

open Lib

variable {P : Primitives} {env : Environment} {profile : RuntimeProfile P} {v v' : View P} {w : World P}

/-! ## The account of a client -/

/-- A profile of the account of another one. -/
structure RuntimeProfile.SameAccount (p q : RuntimeProfile P) : Prop where
  account : p.accountId = q.accountId
  master : p.accountMasterPublic = q.accountMasterPublic
  pending : p.pending = true → q.pending = true

theorem RuntimeProfile.SameAccount.refl (p : RuntimeProfile P) : p.SameAccount p := ⟨rfl, rfl, id⟩

theorem RuntimeProfile.SameAccount.trans {p q r : RuntimeProfile P} (h : p.SameAccount q)
    (h' : q.SameAccount r) : p.SameAccount r :=
  ⟨h.account.trans h'.account, h.master.trans h'.master, fun hp => h'.pending (h.pending hp)⟩

/-- Both profiles are of the account. -/
structure View.Belongs (v : View P) (profile : RuntimeProfile P) : Prop where
  current : v.profile.SameAccount profile
  stored : v.stored.SameAccount profile

theorem View.Belongs.step (h : v.Belongs profile) (hs : AnyStep v v') : v'.Belongs profile := by
  rcases hs with hs | ⟨stored, acknowledged, -, hs⟩ | selected | _
  · cases hs with
    | quiet hq =>
      obtain ⟨hp, hs, -⟩ := hq.same
      exact ⟨hp ▸ h.current, hs ▸ h.stored⟩
    | machine m | outgoing m =>
      have hm : ({ v.profile with machine := m } : RuntimeProfile P).SameAccount v.profile :=
        ⟨rfl, rfl, id⟩
      exact ⟨hm.trans h.current, hm.trans h.current⟩
    | profile p account master machine pending =>
      exact ⟨RuntimeProfile.SameAccount.trans ⟨account, master, pending⟩ h.current, h.stored⟩
    | saved => exact ⟨h.current, h.current⟩
    | restarted => exact ⟨h.stored, h.stored⟩
  · cases hs
    exact ⟨h.current, h.stored⟩
  · exact ⟨h.current, h.stored⟩
  · exact ⟨h.current, h.stored⟩

theorem View.Belongs.ofProfile (profile : RuntimeProfile P) :
    (World.ofProfile profile).view.Belongs profile := ⟨.refl _, .refl _⟩

/-! ## Attribution -/

/-- The device of the commit is certified by the key the client held for its sender. -/
def Commit.Attributed (P : Primitives) (c : Commit) : Prop :=
  ∃ k, c.heldKey = some k ∧ Certified P k c.sender c.source.device

instance (c : Commit) : Decidable (c.Attributed P) :=
  decidable_of_iff (c.heldKey.any fun k => decide (Certified P k c.sender c.source.device)) <| by
    unfold Commit.Attributed
    cases c.heldKey <;> simp

/-- The bundle the commit rests on is one of its sender's and, for the own account, carries the own
master key. -/
def Commit.Vouched (profile : RuntimeProfile P) (c : Commit) : Prop :=
  c.source.bundleAccountId = c.sender ∧
    (c.sender = profile.accountId → c.source.masterKey = profile.accountMasterPublic)

instance (profile : RuntimeProfile P) (c : Commit) : Decidable (c.Vouched profile) :=
  inferInstanceAs (Decidable (_ ∧ _))

/-- A vouched commit is attributed when it is made. -/
theorem View.Sourced.attributed {c : Commit} (h : v.Sourced c) (hb : v.Belongs profile)
    (hc : c.Vouched profile) : c.Attributed P := by
  obtain ⟨hbundle, hown⟩ := hc
  have hcert : Certified P c.source.masterKey c.sender c.source.device := hbundle ▸ h.certified
  have hheld := h.held
  unfold View.heldKey at hheld
  by_cases hself : c.sender = v.profile.accountId
  · rw [if_pos hself] at hheld
    refine ⟨_, hheld, ?_⟩
    rw [hb.current.master, ← hown (hself.trans hb.current.account)]
    exact hcert
  · rw [if_neg hself] at hheld
    have hrow := h.row hself
    rw [hbundle] at hrow
    exact ⟨_, hheld.trans hrow, hcert⟩

/-- Every vouched commit of a log is attributed. -/
def AttributedLog (profile : RuntimeProfile P) (log : List Event) : Prop :=
  ∀ c, Event.committed c ∈ log → c.Vouched profile → c.Attributed P

theorem AttributedLog.cons {log : List Event} {e : Event} (h : AttributedLog profile log)
    (he : ∀ c, e ≠ .committed c) : AttributedLog profile (e :: log) := fun c hc =>
  h c ((List.mem_cons.1 hc).resolve_left fun h => he c h.symm)

theorem AttributedLog.quietStep (h : AttributedLog profile v.log) (hb : v.Belongs profile)
    (hs : QuietStep v v') : AttributedLog profile v'.log := by
  cases hs with
  | committed c sourced =>
    intro c' hc'
    rcases List.mem_cons.1 hc' with hc' | hc'
    · cases hc'
      exact sourced.attributed hb
    · exact h c' hc'
  | imported c s =>
    have h' : AttributedLog profile (.migrated s (.contact c.bundle) :: v.log) := h.cons fun _ => nofun
    exact h'.cons fun _ => nofun
  | upsert | loaded | opened | displayed | verified | raised | decrypted | encrypted | requested
    | started | compared | migrated | certified | handled => exact h.cons fun _ => nofun
  | shown | flags | deleted | message | aside | sent | joined | marked | ended => exact h

theorem AttributedLog.step (h : AttributedLog profile v.log) (hb : v.Belongs profile)
    (hs : AnyStep v v') : AttributedLog profile v'.log := by
  rcases hs with hs | ⟨stored, acknowledged, -, hs⟩ | selected | _
  · cases hs with
    | quiet hq => exact h.quietStep hb hq
    | outgoing | restarted => exact h.cons fun _ => nofun
    | machine | profile | saved => exact h
  · cases hs
    exact h.cons fun _ => nofun
  · exact h.cons fun _ => nofun
  · exact h

/-- In every run against any server, a commit whose bundle is its sender's own is of a device that
the key held for the sender certifies. -/
theorem commits_attributed (hw : (clientSystem env profile).Reachable w) {c : Commit}
    (hc : .committed c ∈ w.log) (hv : c.Vouched profile) : c.Attributed P := by
  have hinv := reachable_invariant (I := fun v => v.Belongs profile ∧ AttributedLog profile v.log) hw
    ⟨.ofProfile profile, fun _ h => nomatch h⟩ fun v v' h hs => ⟨h.1.step hs, h.2.step h.1 hs⟩
  exact hinv.2 c hc hv

namespace Scenario.Impersonation

/-- A text of Bob's. -/
def fromBob : WirePayload := payload "text" "1" "bob" "alice" "hello" []

/-- A text that Mallory sends in the name of Alice, the client's own account. -/
def asAlice : WirePayload :=
  { payload "text" "2" "alice" "bob" "hello" [] with senderUsername := "mallory" }

def lookups : Environment :=
  environment (fun _ => [bundle "bob" 5 [("b1", 6)], bundle "mallory" 9 [("m1", 8)]])
    [fromBob, asAlice]

def received : World primitives :=
  (World.ofProfile (firstDevice "alice" "a1" 1 2)).afterAll lookups
    [.serverEvent (batch [envelope 1 "b1" "c" 6 "a1" fromBob, envelope 2 "m1" "c" 8 "a1" asAlice])]

def ofBob : Commit :=
  { sender := "bob"
    conversationId := "c"
    messageId := "1"
    peer := "bob"
    source := { bundleAccountId := "bob", masterKey := bytes32 5, device := device "bob" "b1" 5 6 }
    heldKey := some (bytes32 5) }

def ofMallory : Commit :=
  { sender := "alice"
    conversationId := "c"
    messageId := "2"
    peer := "bob"
    source :=
      { bundleAccountId := "mallory", masterKey := bytes32 9, device := device "mallory" "m1" 9 8 }
    heldKey := some (bytes32 1) }

theorem commits_attributed_bob : ofBob.Attributed primitives :=
  commits_attributed (reachable_ofProfile lookups (firstDevice "alice" "a1" 1 2) _)
    (show .committed ofBob ∈ received.log by decide +kernel) (by decide +kernel)

/-- A server that names the own account as the sender of an envelope and Mallory as its user has a
text of Mallory's committed as the client's own. -/
theorem own_account_impersonated :
    (clientSystem lookups (firstDevice "alice" "a1" 1 2)).Reachable received ∧
      .committed ofMallory ∈ received.log ∧ ¬ ofMallory.Attributed primitives :=
  ⟨reachable_ofProfile _ _ _, by decide +kernel, by decide +kernel⟩

end Scenario.Impersonation

end TuiChat
