import TuiChat.Server.Admission
import TuiChat.Verify.ServerScenario

/-!
# What the admission counters count

The counters count the connections that hold a place (`Endpoint.Kept`). A place is held until the task of
its connection ends, or for good when the upgrade failed, since then no task starts. So the counters are
right in a state if and only if no upgrade has failed since the server started (`Endpoint.accounts_iff`).
-/

namespace TuiChat

open Lib

variable {env : ServerEnvironment} {P : Primitives} {limits : ConnectionLimits}

/-- A connection that has a session keeps one. -/
theorem ServerStep.session_isSome {i : Nat} {w w' : ServerWorld} (h : ServerStep env P i w w')
    (hsession : w.2.session.isSome) : w'.2.session.isSome := by
  cases h with
  | authenticated | passwordAccepted | bootstrapped | passwordChanged => rfl
  | _ => exact hsession

namespace Slot

/-- The counters count it. -/
def held (slot : Slot) : Bool := slot.phase ≠ .ended

def heldAt (ip : IpAddr) (slot : Slot) : Bool := slot.held && decide (slot.ip = ip)

def heldUnauthenticatedAt (ip : IpAddr) (slot : Slot) : Bool := slot.heldAt ip && slot.unauthenticated

/-- A live connection from the address. -/
def liveAt (ip : IpAddr) (slot : Slot) : Bool := slot.live && decide (slot.ip = ip)

/-- A live connection from the address that has no session. -/
def anonymousAt (p : Cluster) (ip : IpAddr) (slot : Slot) : Bool :=
  slot.liveAt ip && (p.locals slot.id).session.isNone

/-- A live connection from the address whose loop is within an iteration, or has been left. -/
def busyAt (p : Cluster) (ip : IpAddr) (slot : Slot) : Bool :=
  slot.liveAt ip && decide (slot.phase = .opened) && !decide (Endpoint.Waits p slot.id)

/-- A place is that of a live connection, or of one whose upgrade failed. -/
theorem held_toNat (slot : Slot) : slot.held.toNat = slot.live.toNat + slot.fails.toNat := by
  cases hphase : slot.phase <;> simp [held, live, fails, hphase]

theorem held_of_live {slot : Slot} (h : slot.live = true) : slot.held = true := by
  have hsum := slot.held_toNat
  rw [h] at hsum
  cases hheld : slot.held with
  | true => rfl
  | false =>
    rw [hheld, Bool.toNat_false, Bool.toNat_true] at hsum
    omega

theorem live_of_held {slot : Slot} (h : slot.held = true) (hfails : slot.phase ≠ .failed) : slot.live = true := by
  cases hphase : slot.phase <;> simp_all [held, live]

/-- What the variables of a connection's task have to do with its place. -/
structure Fits (p : Cluster) (slot : Slot) : Prop where
  releases : slot.releases = if slot.phase = .ended then 1 else 0
  upgrading : slot.phase = .upgrading →
    slot.unauthenticated = true ∧ (p.locals slot.id).session = none ∧ (p.tasks slot.id).isNone
  marked : slot.phase = .opened → slot.unauthenticated = false → (p.locals slot.id).session.isSome
  unmarked : slot.phase = .opened → Endpoint.Waits p slot.id → slot.unauthenticated = true →
    (p.locals slot.id).session = none

/-- A place whose connection is as before. -/
theorem Fits.congr {p p' : Cluster} {slot : Slot} (h : slot.Fits p)
    (hlocals : p'.locals slot.id = p.locals slot.id) (htasks : p'.tasks slot.id = p.tasks slot.id) :
    slot.Fits p' where
  releases := h.releases
  upgrading hphase := by
    rw [hlocals, htasks]
    exact h.upgrading hphase
  marked hphase hmarked := by
    rw [hlocals]
    exact h.marked hphase hmarked
  unmarked hphase hwaits hmarked := by
    rw [Endpoint.Waits, hlocals, htasks] at hwaits
    rw [hlocals]
    exact h.unmarked hphase hwaits hmarked

/-- A live connection without a session is counted as unauthenticated. -/
theorem Fits.counted {p : Cluster} {slot : Slot} (h : slot.Fits p) {ip : IpAddr}
    (hanonymous : slot.anonymousAt p ip = true) : slot.heldUnauthenticatedAt ip = true := by
  simp only [anonymousAt, liveAt, Bool.and_eq_true, Option.isNone_iff_eq_none] at hanonymous
  obtain ⟨⟨hlive, hip⟩, hsession⟩ := hanonymous
  have hflag : slot.unauthenticated = true := by
    by_contra hflag
    rw [Bool.not_eq_true] at hflag
    cases hphase : slot.phase with
    | upgrading =>
      have hset := (h.upgrading hphase).1
      simp_all
    | opened =>
      have hsome := h.marked hphase hflag
      simp_all
    | failed | ended => simp [live, hphase] at hlive
  simp only [heldUnauthenticatedAt, heldAt, held_of_live hlive, hip, hflag, Bool.and_self]

/-- One that is counted has no session, or its loop is within an iteration. -/
theorem Fits.anonymous {p : Cluster} {slot : Slot} (h : slot.Fits p) {ip : IpAddr} (hphase : slot.phase ≠ .failed)
    (hcounted : slot.heldUnauthenticatedAt ip = true) :
    slot.anonymousAt p ip = true ∨ slot.busyAt p ip = true := by
  simp only [heldUnauthenticatedAt, heldAt, Bool.and_eq_true] at hcounted
  obtain ⟨⟨hheld, hip⟩, hflag⟩ := hcounted
  have hlive : slot.liveAt ip = true := by simp only [liveAt, live_of_held hheld hphase, hip, Bool.and_self]
  cases hopened : slot.phase with
  | upgrading =>
    have hsession := (h.upgrading hopened).2.1
    exact .inl (by simp [anonymousAt, hlive, hsession])
  | opened =>
    by_cases hwaits : Endpoint.Waits p slot.id
    · have hsession := h.unmarked hopened hwaits hflag
      exact .inl (by simp [anonymousAt, hlive, hsession])
    · exact .inr (by simp [busyAt, hlive, hopened, hwaits])
  | failed => exact absurd hopened hphase
  | ended => simp [held, hopened] at hheld

end Slot

namespace Endpoint

variable {s s' : Endpoint} {l : Label} {i : Nat}

/-! ## The programs of a server that admits its connections -/

@[simp] theorem upgrade_cluster (s : Endpoint) (i : Nat) (ip : IpAddr) :
    (s.upgrade limits i ip).cluster = s.cluster := by
  unfold upgrade
  split <;> rfl

@[simp] theorem iterated_cluster (s : Endpoint) (i : Nat) : (s.iterated i).cluster = s.cluster := by
  unfold iterated
  split
  · rfl
  · split <;> rfl

/-- A step leaves the programs alone, or it is one of theirs. -/
theorem step_cluster (hs : step env P limits s l = some s') :
    s'.cluster = s.cluster ∨ ∃ l', Cluster.step env P s.cluster l' = some s'.cluster := by
  cases l with
  | request i ip =>
    obtain ⟨_, h⟩ := Option.ite_none_right_eq_some.1 hs
    cases h
    exact .inl (upgrade_cluster s i ip)
  | opened i | failed i =>
    obtain ⟨slot, _, rfl⟩ := Option.map_eq_some_iff.1 hs
    exact .inl rfl
  | incoming i m =>
    obtain ⟨_, h⟩ := Option.ite_none_right_eq_some.1 hs
    obtain ⟨p, hp, rfl⟩ := Option.map_eq_some_iff.1 h
    exact .inr ⟨_, hp⟩
  | command i c =>
    obtain ⟨_, h⟩ := Option.ite_none_right_eq_some.1 hs
    obtain ⟨p, hp, rfl⟩ := Option.map_eq_some_iff.1 h
    exact .inr ⟨_, hp⟩
  | advance i =>
    obtain ⟨p, hp, rfl⟩ := Option.map_eq_some_iff.1 hs
    rw [iterated_cluster]
    exact .inr ⟨_, hp⟩
  | released i =>
    obtain ⟨_, h⟩ := Option.ite_none_right_eq_some.1 hs
    obtain ⟨slot, _, rfl⟩ := Option.map_eq_some_iff.1 h
    exact .inl rfl
  | crash =>
    cases hs
    exact .inr ⟨.crash, rfl⟩

/-- The programs run as those of the server. -/
theorem cluster_reachable (h : (endpointSystem env P limits).Reachable s) :
    (serverSystem env P).Reachable s.cluster := by
  apply h.invariant (I := fun s => (serverSystem env P).Reachable s.cluster)
  · intro s hs
    subst hs
    exact .init rfl
  · intro s l s' h _ hs
    rcases step_cluster hs with hcluster | ⟨l', hl'⟩
    · rw [hcluster]
      exact h
    · exact .step h trivial hl'

theorem slotIn_eq_some {phase : Phase} {slot : Slot} :
    s.slotIn i phase = some slot ↔ s.slots.find i = some slot ∧ slot.phase = phase := by
  simp [slotIn, Option.filter_eq_some_iff]

/-! ## What the counters count -/

/-- The counters count the places that are held. -/
structure Counted (s : Endpoint) : Prop where
  total : s.admission.total = s.slots.count Slot.held
  byIp : ∀ ip, s.admission.byIp.number ip = s.slots.count (Slot.heldAt ip)
  unauthenticated : ∀ ip,
    s.admission.unauthenticatedByIp.number ip = s.slots.count (Slot.heldUnauthenticatedAt ip)

structure Kept (s : Endpoint) : Prop extends Counted s where
  fits : ∀ slot ∈ s.slots, slot.Fits s.cluster

theorem Kept.fits_put (h : s.Kept) {slot : Slot} (hslot : slot.Fits s.cluster) :
    ∀ slot' ∈ s.slots.put slot, slot'.Fits s.cluster := by
  intro slot' hmem
  rcases Table.mem_put.1 hmem with rfl | ⟨hold, _⟩
  · exact hslot
  · exact h.fits slot' hold

/-- A request is admitted, and takes a place. -/
theorem Kept.upgrade (h : s.Kept) {ip : IpAddr} (hunused : s.Unused env i) : (s.upgrade limits i ip).Kept := by
  unfold Endpoint.upgrade
  split
  · exact h
  · next admission hadmit =>
    obtain ⟨hfind, htask, hlocal⟩ := hunused
    have hnew : s.slots.find (Slot.admitted i ip).id = none := hfind
    obtain ⟨_, hadmission⟩ := Option.ite_none_left_eq_some.1 hadmit
    cases hadmission
    refine ⟨⟨?_, ?_, ?_⟩, ?_⟩
    · have hcount := Table.count_put_of_none hnew Slot.held
      rw [hcount, ← h.total]
      rfl
    · intro ip'
      have hcount := Table.count_put_of_none hnew (Slot.heldAt ip')
      rw [hcount, ← h.byIp ip', IpCounts.number_increment]
      rfl
    · intro ip'
      have hcount := Table.count_put_of_none hnew (Slot.heldUnauthenticatedAt ip')
      have hflag : Slot.heldUnauthenticatedAt ip' (.admitted i ip) = decide (ip = ip') := Bool.and_true _
      rw [hcount, ← h.unauthenticated ip', IpCounts.number_increment, hflag]
    · apply h.fits_put
      have hsession : (s.cluster.locals i).session = none := by rw [hlocal]; rfl
      constructor
      · rfl
      · exact fun _ => ⟨rfl, hsession, htask⟩
      · exact fun hphase => nomatch hphase
      · exact fun hphase => nomatch hphase

/-- The upgrade succeeds or fails; the place is held as before. -/
theorem Kept.upgraded (h : s.Kept) {slot : Slot} (hslot : s.slotIn i .upgrading = some slot) {phase : Phase}
    (hphase : phase = .opened ∨ phase = .failed) :
    Kept { s with slots := s.slots.put { slot with phase } } := by
  obtain ⟨hfind, hupgrading⟩ := slotIn_eq_some.1 hslot
  have hid : slot.id = i := Table.key_of_find hfind
  have hfits := h.fits slot (Table.mem_of_find hfind)
  obtain ⟨hflag, hsession, htask⟩ := hfits.upgrading hupgrading
  have hold : s.slots.find { slot with phase : Slot }.id = some slot := by
    rw [← hfind, ← hid]
  have hheld : ({ slot with phase : Slot }).held = slot.held := by
    rcases hphase with rfl | rfl <;> simp [Slot.held, hupgrading]
  have hsame : ∀ p : Slot → Bool, p { slot with phase } = p slot →
      (s.slots.put { slot with phase }).count p = s.slots.count p := by
    intro p hp
    have hcount := Table.count_put_of_find hold p
    rw [hp] at hcount
    omega
  have hheldAt : ∀ ip, Slot.heldAt ip { slot with phase } = slot.heldAt ip := by
    intro ip
    simp only [Slot.heldAt, hheld]
  refine ⟨⟨?_, ?_, ?_⟩, ?_⟩
  · rw [hsame _ hheld]
    exact h.total
  · intro ip
    rw [hsame _ (hheldAt ip)]
    exact h.byIp ip
  · intro ip
    rw [hsame _ (by simp only [Slot.heldUnauthenticatedAt, hheldAt])]
    exact h.unauthenticated ip
  · apply h.fits_put
    constructor
    · have hreleases := hfits.releases
      rw [hupgrading] at hreleases
      rcases hphase with rfl | rfl <;> simpa using hreleases
    · rcases hphase with rfl | rfl <;> exact fun hphase => nomatch hphase
    · intro _ hmarked
      rw [show slot.unauthenticated = false from hmarked] at hflag
      cases hflag
    · exact fun _ _ _ => hsession

/-- The task ends, and gives its place back. -/
theorem Kept.ended (h : s.Kept) {slot : Slot} (hslot : s.slotIn i .opened = some slot) : (s.ended slot).Kept := by
  obtain ⟨hfind, hopened⟩ := slotIn_eq_some.1 hslot
  have hid : slot.id = i := Table.key_of_find hfind
  let slot' : Slot := { slot with phase := .ended, releases := slot.releases + 1 }
  have hold : s.slots.find slot'.id = some slot := by
    rw [← hfind, ← hid]
  have hheld : slot.held = true := by simp [Slot.held, hopened]
  -- the place no longer counts
  have hcount : ∀ (n : Nat) (p q : Slot → Bool), p slot = q slot → p slot' = false → n = s.slots.count p →
      n - (q slot).toNat = (s.slots.put slot').count p := by
    intro n p q hp hp' hn
    have hput := Table.count_put_of_find hold p
    rw [hp, hp', Bool.toNat_false] at hput
    omega
  refine ⟨⟨?_, ?_, ?_⟩, ?_⟩
  · have htotal := hcount _ Slot.held (fun _ => true) hheld rfl h.total
    exact htotal
  · intro ip
    have hip := hcount _ (Slot.heldAt ip) (fun slot => decide (slot.ip = ip)) (by simp [Slot.heldAt, hheld]) rfl
      (h.byIp ip)
    rw [← IpCounts.number_decrementCount] at hip
    exact hip
  · intro ip
    have hflagged : slot.heldUnauthenticatedAt ip = (decide (slot.ip = ip) && slot.unauthenticated) := by
      simp [Slot.heldUnauthenticatedAt, Slot.heldAt, hheld]
    have hip := hcount _ (Slot.heldUnauthenticatedAt ip)
      (fun slot => decide (slot.ip = ip) && slot.unauthenticated) hflagged rfl (h.unauthenticated ip)
    show (if slot.unauthenticated then s.admission.unauthenticatedByIp.decrementCount slot.ip
      else s.admission.unauthenticatedByIp).number ip = _
    refine Eq.trans ?_ hip
    cases slot.unauthenticated with
    | true => simp [IpCounts.number_decrementCount]
    | false => simp
  · apply h.fits_put
    constructor
    · have hreleases := (h.fits slot (Table.mem_of_find hfind)).releases
      rw [hopened] at hreleases
      simpa using hreleases
    · exact fun hphase => nomatch hphase
    · exact fun hphase => nomatch hphase
    · exact fun hphase => nomatch hphase

/-- An iteration ends: a connection that got a session leaves the unauthenticated ones. -/
theorem Counted.iterated (h : s.Counted) : (s.iterated i).Counted := by
  unfold Endpoint.iterated
  split
  · exact h
  · next slot hslot =>
    split
    · next hmarks =>
      obtain ⟨hwaits, hflag, hsession⟩ := hmarks
      obtain ⟨hfind, hopened⟩ := slotIn_eq_some.1 hslot
      have hid : slot.id = i := Table.key_of_find hfind
      let slot' : Slot := { slot with unauthenticated := false }
      have hold : s.slots.find slot'.id = some slot := by
        rw [← hfind, ← hid]
      have hheld : slot.held = true := by simp [Slot.held, hopened]
      constructor
      · have hput := Table.count_put_of_find hold Slot.held
        exact h.total.trans (Nat.add_right_cancel hput.symm)
      · intro ip
        have hput := Table.count_put_of_find hold (Slot.heldAt ip)
        exact (h.byIp ip).trans (Nat.add_right_cancel hput.symm)
      · intro ip
        have hput := Table.count_put_of_find hold (Slot.heldUnauthenticatedAt ip)
        have hleft : slot'.heldUnauthenticatedAt ip = false := Bool.and_false _
        have hflagged : slot.heldUnauthenticatedAt ip = decide (slot.ip = ip) := by
          simp [Slot.heldUnauthenticatedAt, Slot.heldAt, hheld, hflag]
        rw [hleft, hflagged, Bool.toNat_false] at hput
        show (s.admission.unauthenticatedByIp.decrementCount slot.ip).number ip =
          (s.slots.put slot').count (Slot.heldUnauthenticatedAt ip)
        rw [IpCounts.number_decrementCount, h.unauthenticated ip]
        omega
    · exact h

/-- A program does its next action; where it was the last one, an iteration ends. -/
theorem Kept.advance (h : s.Kept) (hserving : s.cluster.Serving env P) (hbusy : (s.cluster.tasks i).isSome) :
    (iterated { s with cluster := s.cluster.advance i } i).Kept := by
  have hcounted : Counted { s with cluster := s.cluster.advance i } :=
    ⟨h.total, h.byIp, h.unauthenticated⟩
  refine ⟨hcounted.iterated, ?_⟩
  rw [iterated_cluster]
  have hothers : ∀ slot ∈ s.slots, slot.id ≠ i → slot.Fits (s.cluster.advance i) := by
    intro slot hslot hne
    obtain ⟨htask, hlocal⟩ := Pool.advance_of_ne (p := s.cluster) hne
    exact (h.fits slot hslot).congr hlocal htask
  -- of the connection itself, what does not depend on the end of its iteration
  have hself : ∀ slot ∈ s.slots, slot.id = i → slot.phase ≠ .upgrading ∧
      (slot.phase = .opened → slot.unauthenticated = false → ((s.cluster.advance i).locals i).session.isSome) := by
    intro slot hslot hid
    have hfits := h.fits slot hslot
    constructor
    · intro hphase
      have hidle := (hfits.upgrading hphase).2.2
      rw [hid] at hidle
      simp_all
    · intro hphase hmarked
      have hsession := hfits.marked hphase hmarked
      rw [hid] at hsession
      rcases (hserving.advance i).2 with ⟨-, hlocals⟩ | ⟨hstep, -⟩
      · rw [hlocals]
        exact hsession
      · exact hstep.session_isSome hsession
  have hreleases : ∀ slot ∈ s.slots, slot.releases = if slot.phase = .ended then 1 else 0 :=
    fun slot hslot => (h.fits slot hslot).releases
  unfold Endpoint.iterated
  split
  · next hslot =>
    intro slot hmem
    by_cases hid : slot.id = i
    · have hnot : slot.phase ≠ .opened := by
        intro hopened
        have hfind : s.slots.find i = some slot := Table.find_eq_some.2 ⟨hmem, hid⟩
        have hin : s.slotIn i .opened = some slot := slotIn_eq_some.2 ⟨hfind, hopened⟩
        exact nomatch hslot.symm.trans hin
      exact ⟨hreleases slot hmem, fun hphase => absurd hphase (hself slot hmem hid).1,
        fun hphase => absurd hphase hnot, fun hphase => absurd hphase hnot⟩
    · exact hothers slot hmem hid
  · next slot hslot =>
    obtain ⟨hfind, hopened⟩ := slotIn_eq_some.1 hslot
    have hmem : slot ∈ s.slots := Table.mem_of_find hfind
    have hid : slot.id = i := Table.key_of_find hfind
    have hnot : slot.phase ≠ .upgrading := (hself slot hmem hid).1
    split
    · next hmarks =>
      intro slot' hmem'
      rcases Table.mem_put.1 hmem' with rfl | ⟨hold, hne⟩
      · refine ⟨hreleases slot hmem, fun hphase => absurd hphase hnot, fun _ _ => ?_, fun _ _ hflag => nomatch hflag⟩
        show ((s.cluster.advance i).locals slot.id).session.isSome
        rw [hid]
        exact hmarks.2.2
      · exact hothers slot' hold fun hid' => hne (hid'.trans hid.symm)
    · next hmarks =>
      intro slot' hold
      by_cases hid' : slot'.id = i
      · have heq : slot' = slot := Table.eq_of_mem hold hmem (hid'.trans hid.symm)
        subst heq
        refine ⟨hreleases slot' hold, fun hphase => absurd hphase hnot, fun hphase hmarked => ?_,
          fun _ hwaits hflag => ?_⟩
        · rw [hid']
          exact (hself slot' hold hid').2 hphase hmarked
        · rw [hid'] at hwaits ⊢
          by_contra hsession
          exact hmarks ⟨hwaits, hflag, Option.isSome_iff_ne_none.2 hsession⟩
      · exact hothers slot' hold hid'

/-- A program starts: the connection of an open place takes what it waited for, or one without a place
runs a command. -/
theorem Kept.started (h : s.Kept) {m : Proc ServerWorld Error Unit}
    (hi : ∀ slot ∈ s.slots, slot.id = i → slot.phase = .opened) :
    Kept { s with cluster := s.cluster.start i m } := by
  refine ⟨⟨h.total, h.byIp, h.unauthenticated⟩, ?_⟩
  intro slot hslot
  have hfits := h.fits slot hslot
  by_cases hid : slot.id = i
  · have hopened := hi slot hslot hid
    have htask : ((s.cluster.start i m).tasks slot.id).isNone = false := by simp [Pool.start, hid]
    constructor
    · exact hfits.releases
    · intro hphase
      rw [hopened] at hphase
      cases hphase
    · exact hfits.marked
    · intro _ hwaits
      rw [Endpoint.Waits, htask] at hwaits
      exact absurd hwaits.1 Bool.false_ne_true
  · exact hfits.congr rfl (Function.update_of_ne hid _ _)

theorem Kept.step (h : s.Kept) (hserving : s.cluster.Serving env P) (hs : step env P limits s l = some s') :
    s'.Kept := by
  cases l with
  | request i ip =>
    obtain ⟨hunused, hs'⟩ := Option.ite_none_right_eq_some.1 hs
    cases hs'
    exact h.upgrade hunused
  | opened i =>
    obtain ⟨slot, hslot, rfl⟩ := Option.map_eq_some_iff.1 hs
    exact h.upgraded hslot (.inl rfl)
  | failed i =>
    obtain ⟨slot, hslot, rfl⟩ := Option.map_eq_some_iff.1 hs
    exact h.upgraded hslot (.inr rfl)
  | incoming i m =>
    obtain ⟨hopened, hs'⟩ := Option.ite_none_right_eq_some.1 hs
    obtain ⟨p, hp, rfl⟩ := Option.map_eq_some_iff.1 hs'
    obtain ⟨_, hp⟩ := Option.ite_none_right_eq_some.1 hp
    cases hp
    obtain ⟨slot, hslot⟩ := Option.isSome_iff_exists.1 hopened
    obtain ⟨hfind, hphase⟩ := slotIn_eq_some.1 hslot
    apply h.started
    intro slot' hmem hid
    rw [Table.eq_of_mem hmem (Table.mem_of_find hfind) (hid.trans (Table.key_of_find hfind).symm)]
    exact hphase
  | command i c =>
    obtain ⟨hnone, hs'⟩ := Option.ite_none_right_eq_some.1 hs
    obtain ⟨p, hp, rfl⟩ := Option.map_eq_some_iff.1 hs'
    obtain ⟨_, hp⟩ := Option.ite_none_right_eq_some.1 hp
    cases hp
    exact h.started fun slot hmem hid => absurd hid (Table.find_eq_none.1 hnone slot hmem)
  | advance i =>
    obtain ⟨p, hp, rfl⟩ := Option.map_eq_some_iff.1 hs
    obtain ⟨hbusy, hp⟩ := Option.ite_none_right_eq_some.1 hp
    cases hp
    exact h.advance hserving hbusy
  | released i =>
    obtain ⟨_, hs'⟩ := Option.ite_none_right_eq_some.1 hs
    obtain ⟨slot, hslot, rfl⟩ := Option.map_eq_some_iff.1 hs'
    exact h.ended hslot
  | crash =>
    cases hs
    exact ⟨⟨rfl, fun _ => rfl, fun _ => rfl⟩, fun slot hslot => absurd hslot (Table.not_mem_empty slot)⟩

theorem kept (h : (endpointSystem env P limits).Reachable s) : s.Kept := by
  have hboth : (serverSystem env P).Reachable s.cluster ∧ s.Kept := by
    apply h.invariant (I := fun s => (serverSystem env P).Reachable s.cluster ∧ s.Kept)
    · intro s hs
      subst hs
      exact ⟨.init rfl, ⟨rfl, fun _ => rfl, fun _ => rfl⟩, fun slot hslot => absurd hslot (Table.not_mem_empty slot)⟩
    · intro s l s' ⟨hcluster, hkept⟩ _ hs
      refine ⟨?_, hkept.step (Cluster.serving hcluster) hs⟩
      rcases step_cluster hs with hsame | ⟨l', hl'⟩
      · rw [hsame]
        exact hcluster
      · exact .step hcluster trivial hl'
  exact hboth.2

/-! ## When they count the connections -/

/-- The counters are the numbers of the connections that were admitted and have not ended, and a place
is given back once. -/
structure Accounts (s : Endpoint) : Prop where
  total : s.admission.total = s.slots.count Slot.live
  byIp : ∀ ip, s.admission.byIp.number ip = s.slots.count (Slot.liveAt ip)
  /-- Between the iterations of an address' connections. -/
  unauthenticated : ∀ ip, (∀ slot ∈ s.slots, slot.busyAt s.cluster ip = false) →
    s.admission.unauthenticatedByIp.number ip = s.slots.count (Slot.anonymousAt s.cluster ip)
  /-- Within one, a connection that has just got a session may still be counted. -/
  late : ∀ ip, s.slots.count (Slot.anonymousAt s.cluster ip) ≤ s.admission.unauthenticatedByIp.number ip ∧
    s.admission.unauthenticatedByIp.number ip ≤
      s.slots.count (Slot.anonymousAt s.cluster ip) + s.slots.count (Slot.busyAt s.cluster ip)
  released : ∀ slot ∈ s.slots, slot.releases = if slot.live then 0 else 1

/-- What failed upgrades have taken is not given back. -/
theorem Kept.total_eq (h : s.Kept) : s.admission.total = s.slots.count Slot.live + s.slots.count Slot.fails := by
  rw [h.total]
  exact Table.count_add s.slots Slot.held_toNat

/-- Once upgrades have failed as often as there are places, nobody is admitted. -/
theorem admitConnection_of_failed (h : (endpointSystem env P limits).Reachable s)
    (hfailed : limits.maxConnections ≤ s.slots.count Slot.fails) (ip : IpAddr) :
    s.admission.admitConnection limits ip = none := by
  have htotal := (kept h).total_eq
  exact if_pos (.inl (by omega))

/-- Without a failed upgrade, the places are those of the live connections. -/
theorem Kept.accounts (h : s.Kept) (hfailed : ∀ slot ∈ s.slots, slot.phase ≠ .failed) : s.Accounts := by
  have hlive : ∀ slot ∈ s.slots, slot.held = slot.live := by
    intro slot hslot
    have hphase := hfailed slot hslot
    cases hlive : slot.live with
    | true => exact Slot.held_of_live hlive
    | false =>
      by_contra hheld
      rw [Bool.not_eq_false] at hheld
      rw [Slot.live_of_held hheld hphase] at hlive
      cases hlive
  have hge : ∀ ip, s.slots.count (Slot.anonymousAt s.cluster ip) ≤ s.admission.unauthenticatedByIp.number ip := by
    intro ip
    rw [h.unauthenticated ip]
    exact Table.count_le_count fun slot hslot => (h.fits slot hslot).counted
  have hle : ∀ ip, s.admission.unauthenticatedByIp.number ip ≤
      s.slots.count (Slot.anonymousAt s.cluster ip) + s.slots.count (Slot.busyAt s.cluster ip) := by
    intro ip
    rw [h.unauthenticated ip]
    exact Table.count_le_add fun slot hslot => (h.fits slot hslot).anonymous (hfailed slot hslot)
  constructor
  · rw [h.total]
    exact Table.count_congr hlive
  · intro ip
    rw [h.byIp ip]
    apply Table.count_congr
    intro slot hslot
    simp only [Slot.heldAt, Slot.liveAt, hlive slot hslot]
  · intro ip hidle
    have hbusy : s.slots.count (Slot.busyAt s.cluster ip) = 0 := Table.count_eq_zero hidle
    have hlower := hge ip
    have hupper := hle ip
    omega
  · exact fun ip => ⟨hge ip, hle ip⟩
  · intro slot hslot
    have hphase := hfailed slot hslot
    rw [(h.fits slot hslot).releases]
    cases hslotPhase : slot.phase <;> simp_all [Slot.live]

/-- A place whose upgrade failed is not given back. -/
theorem Kept.no_failed (h : s.Kept) (haccounts : s.Accounts) : ∀ slot ∈ s.slots, slot.phase ≠ .failed := by
  intro slot hslot hphase
  have hreleases := (h.fits slot hslot).releases
  have hreleased := haccounts.released slot hslot
  simp [Slot.live, hphase] at hreleases hreleased
  omega

/-- A step that is no failure of an upgrade. -/
def Label.upgrades : Label → Prop
  | .failed _ => False
  | _ => True

/-- Any other step leaves a place as it was, or in another phase. -/
theorem no_failed_step (hs : step env P limits s l = some s') (hl : l.upgrades)
    (h : ∀ slot ∈ s.slots, slot.phase ≠ .failed) : ∀ slot ∈ s'.slots, slot.phase ≠ .failed := by
  have hput : ∀ slot : Slot, slot.phase ≠ .failed → ∀ slot' ∈ s.slots.put slot, slot'.phase ≠ .failed := by
    intro slot hslot slot' hmem
    rcases Table.mem_put.1 hmem with rfl | ⟨hold, _⟩
    · exact hslot
    · exact h slot' hold
  cases l with
  | request i ip =>
    obtain ⟨_, hs'⟩ := Option.ite_none_right_eq_some.1 hs
    cases hs'
    unfold Endpoint.upgrade
    split
    · exact h
    · exact hput _ nofun
  | opened i =>
    obtain ⟨slot, _, rfl⟩ := Option.map_eq_some_iff.1 hs
    exact hput _ nofun
  | failed i => exact absurd hl id
  | incoming i m | command i c =>
    obtain ⟨_, hs'⟩ := Option.ite_none_right_eq_some.1 hs
    obtain ⟨p, _, rfl⟩ := Option.map_eq_some_iff.1 hs'
    exact h
  | advance i =>
    obtain ⟨p, _, rfl⟩ := Option.map_eq_some_iff.1 hs
    unfold Endpoint.iterated
    split
    · exact h
    · next slot hslot =>
      split
      · exact hput _ (h slot (Table.mem_of_find (slotIn_eq_some.1 hslot).1))
      · exact h
  | released i =>
    obtain ⟨_, hs'⟩ := Option.ite_none_right_eq_some.1 hs
    obtain ⟨slot, _, rfl⟩ := Option.map_eq_some_iff.1 hs'
    exact hput _ nofun
  | crash =>
    cases hs
    exact fun slot hslot => absurd hslot (Table.not_mem_empty slot)

/-- The counters are right exactly where no upgrade has failed since the server started; so they are in
every state of a run without such a failure. -/
theorem accounts_iff :
    (∀ s, (endpointSystem env P limits).Reachable s → (s.Accounts ↔ ∀ slot ∈ s.slots, slot.phase ≠ .failed)) ∧
      ∀ s, (endpointSystem env P limits).ReachableUnder (fun _ l => l.upgrades) s → s.Accounts := by
  constructor
  · intro s h
    exact ⟨(kept h).no_failed, (kept h).accounts⟩
  · intro s h
    have hfailed : ∀ slot ∈ s.slots, slot.phase ≠ .failed := by
      apply h.invariant (I := fun s => ∀ slot ∈ s.slots, slot.phase ≠ .failed)
      · intro s hs
        subst hs
        exact fun slot hslot => absurd hslot (Table.not_mem_empty slot)
      · intro s l s' h hl hs
        exact no_failed_step hs hl h
    exact (kept h.reachable).accounts hfailed

end Endpoint

/-! ## Concrete runs -/

namespace Scenario

/-- The limits of the default configuration. -/
def defaultLimits : ConnectionLimits :=
  { maxConnections := 512, maxConnectionsPerIp := 32, maxUnauthenticatedPerIp := 4 }

def home : IpAddr := .v4 0

/-- One connection has ended, and another is about to open. -/
def visits : List Endpoint.Label :=
  [.request 0 home, .opened 0, .request 1 home, .incoming 0 .closed, .advance 0, .advance 0, .advance 0, .released 0]

/-- The peer is gone before its upgrade. -/
def abandoned : List Endpoint.Label := [.request 0 home, .failed 0]

def endpointAfter (ls : List Endpoint.Label) : Option Endpoint :=
  System.replay (Endpoint.step server primitives defaultLimits) (.initial server) ls

theorem accounts_visits : ∃ s, endpointAfter visits = some s ∧ s.Accounts ∧
    (s.Accounts ↔ ∀ slot ∈ s.slots, slot.phase ≠ .failed) ∧ s.admission.total = 1 := by
  have hrun : (endpointAfter visits).isSome = true := by decide +kernel
  obtain ⟨s, hs⟩ := Option.isSome_iff_exists.1 hrun
  have htotal : (endpointAfter visits).map (fun s => s.admission.total) = some 1 := by decide +kernel
  rw [hs] at htotal
  have hlabels : ∀ l ∈ visits, l.upgrades := by simp [visits, Endpoint.Label.upgrades]
  have hreachable : (endpointSystem server primitives defaultLimits).ReachableUnder (fun _ l => l.upgrades) s :=
    System.ReachableUnder.replay_under (.init rfl) hlabels hs
  exact ⟨s, hs, Endpoint.accounts_iff.2 s hreachable, Endpoint.accounts_iff.1 s hreachable.reachable,
    Option.some.inj htotal⟩

/-- A place is taken for good when an upgrade fails. -/
theorem abandoned_counted :
    ¬∀ s, (endpointSystem server primitives defaultLimits).Reachable s → s.Accounts := by
  intro h
  have hrun : (endpointAfter abandoned).isSome = true := by decide +kernel
  obtain ⟨s, hs⟩ := Option.isSome_iff_exists.1 hrun
  have hcounts : (endpointAfter abandoned).map (fun s => (s.admission.total, s.slots.count Slot.live)) =
      some (1, 0) := by decide +kernel
  rw [hs] at hcounts
  have haccounts := (h s (System.reachable_of_replay rfl hs)).total
  obtain ⟨htotal, hlive⟩ := Prod.mk.inj (Option.some.inj hcounts)
  omega

end Scenario

end TuiChat
