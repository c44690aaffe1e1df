import TuiChat.Server.Runs

/-!
# The admission of connections

`Admission` of `crates/server/src/ws.rs`, and the server with the places it gives: a request takes one
before its upgrade, and the task of the connection gives it back when it ends. An upgrade that fails does
not start the task. `Endpoint` is the server's programs, the counters, and a `Slot` for every request that
was admitted since the server started; the fields `phase` and `releases` of a slot are read by no program.
-/

namespace TuiChat

open Lib

inductive IpAddr
  | v4 (octets : BitVec 32)
  | v6 (segments : BitVec 128)
deriving DecidableEq, Repr

/-- The limits of the configuration. -/
structure ConnectionLimits where
  maxConnections : Nat
  maxConnectionsPerIp : Nat
  maxUnauthenticatedPerIp : Nat
deriving DecidableEq, Repr

/-! ## The counters -/

structure IpCount where
  ip : IpAddr
  count : Nat
deriving DecidableEq, Repr

abbrev IpCounts := Table IpCount.ip

namespace IpCounts

/-- `counts.get(&ip).copied().unwrap_or(0)`. -/
def number (counts : IpCounts) (ip : IpAddr) : Nat := ((counts.find ip).map IpCount.count).getD 0

/-- `*counts.entry(ip).or_default() += 1`. -/
def increment (counts : IpCounts) (ip : IpAddr) : IpCounts := counts.put { ip, count := counts.number ip + 1 }

/-- `decrement_count`. -/
def decrementCount (counts : IpCounts) (ip : IpAddr) : IpCounts :=
  match counts.find ip with
  | none => counts
  | some row =>
    if row.count - 1 = 0 then counts.delete fun row => row.ip = ip
    else counts.put { ip, count := row.count - 1 }

@[simp] theorem number_empty (ip : IpAddr) : IpCounts.number ∅ ip = 0 := rfl

theorem number_increment (counts : IpCounts) (ip ip' : IpAddr) :
    (counts.increment ip).number ip' = counts.number ip' + (decide (ip = ip')).toNat := by
  unfold increment
  by_cases hip : ip = ip'
  · subst hip
    simp [IpCounts.number]
  · have hne : ip' ≠ ip := fun h => hip h.symm
    simp [IpCounts.number, Table.find_put, hip, hne]

theorem number_decrementCount (counts : IpCounts) (ip ip' : IpAddr) :
    (counts.decrementCount ip).number ip' = counts.number ip' - (decide (ip = ip')).toNat := by
  unfold decrementCount
  by_cases hip : ip = ip'
  · subst hip
    split
    · next h => simp [IpCounts.number, h]
    · next row h =>
      have hip : row.ip = ip := Table.key_of_find h
      split
      · next hzero => simp [IpCounts.number, Table.find_delete, h, Option.filter, hip, hzero]
      · simp [IpCounts.number, h]
  · have hne : ip' ≠ ip := fun h => hip h.symm
    split
    · simp [hip]
    · split
      · have hkept : (counts.find ip').filter (fun row => !decide (row.ip = ip)) = counts.find ip' := by
          cases hfind : counts.find ip' with
          | none => rfl
          | some row =>
            have hother : row.ip ≠ ip := fun h => hne ((Table.key_of_find hfind).symm.trans h)
            simp [Option.filter, hother]
        simp [IpCounts.number, Table.find_delete, hkept, hip]
      · simp [IpCounts.number, Table.find_put, hip, hne]

end IpCounts

structure Admission where
  total : Nat
  byIp : IpCounts
  unauthenticatedByIp : IpCounts

namespace Admission

/-- `Admission::default`. -/
def default : Admission := { total := 0, byIp := ∅, unauthenticatedByIp := ∅ }

/-- `AppState::admit`: a place for a connection from the address, if the limits leave one. -/
def admitConnection (limits : ConnectionLimits) (a : Admission) (ip : IpAddr) : Option Admission :=
  if limits.maxConnections ≤ a.total ∨ limits.maxConnectionsPerIp ≤ a.byIp.number ip ∨
      limits.maxUnauthenticatedPerIp ≤ a.unauthenticatedByIp.number ip then none
  else some
    { total := a.total + 1
      byIp := a.byIp.increment ip
      unauthenticatedByIp := a.unauthenticatedByIp.increment ip }

def markAuthenticated (a : Admission) (ip : IpAddr) : Admission :=
  { a with unauthenticatedByIp := a.unauthenticatedByIp.decrementCount ip }

def release (a : Admission) (ip : IpAddr) (stillUnauthenticated : Bool) : Admission where
  total := a.total - 1
  byIp := a.byIp.decrementCount ip
  unauthenticatedByIp :=
    if stillUnauthenticated then a.unauthenticatedByIp.decrementCount ip else a.unauthenticatedByIp

end Admission

/-! ## Connections with their places -/

deriving instance DecidableEq for Connection

inductive Phase
  /-- The request was admitted, and its answer asks the peer to upgrade. -/
  | upgrading
  /-- The task of the connection runs. -/
  | opened
  /-- The upgrade failed: the task does not start. -/
  | failed
  | ended
deriving DecidableEq, Repr

structure Slot where
  id : Nat
  ip : IpAddr
  phase : Phase
  /-- `admitted_as_unauthenticated` of the task. -/
  unauthenticated : Bool
  /-- How often the place was given back. -/
  releases : Nat
deriving DecidableEq, Repr

namespace Slot

/-- A request that was just admitted. -/
def admitted (id : Nat) (ip : IpAddr) : Slot :=
  { id, ip, phase := .upgrading, unauthenticated := true, releases := 0 }

/-- Admitted, and not yet ended. -/
def live (slot : Slot) : Bool := slot.phase = .upgrading ∨ slot.phase = .opened

def fails (slot : Slot) : Bool := slot.phase = .failed

end Slot

structure Endpoint where
  cluster : Cluster
  admission : Admission
  slots : Table Slot.id

namespace Endpoint

variable (env : ServerEnvironment) (P : Primitives) (limits : ConnectionLimits)

def initial : Endpoint := { cluster := .initial env, admission := .default, slots := ∅ }

inductive Label
  /-- A request from the address asks for a connection. -/
  | request (i : Nat) (ip : IpAddr)
  | opened (i : Nat)
  | failed (i : Nat)
  /-- The task of a connection takes what it waited for. -/
  | incoming (i : Nat) (m : Ws.Incoming)
  | command (i : Nat) (c : Admin.Command)
  | advance (i : Nat)
  /-- The task of a connection that has left its loop ends. -/
  | released (i : Nat)
  | crash

def slotIn (s : Endpoint) (i : Nat) (phase : Phase) : Option Slot :=
  (s.slots.find i).filter fun slot => slot.phase = phase

/-- The loop waits for its next message. -/
def Waits (p : Cluster) (i : Nat) : Prop := (p.tasks i).isNone ∧ (p.locals i).closed = false

instance (p : Cluster) (i : Nat) : Decidable (Waits p i) := inferInstanceAs (Decidable (_ ∧ _))

/-- No connection had this number, whose variables are those that `connection` starts with. -/
def Unused (s : Endpoint) (i : Nat) : Prop :=
  s.slots.find i = none ∧ (s.cluster.tasks i).isNone ∧ s.cluster.locals i = .new env.requestBurst

instance (s : Endpoint) (i : Nat) : Decidable (s.Unused env i) := inferInstanceAs (Decidable (_ ∧ _ ∧ _))

/-- `upgrade`, until its answer. -/
def upgrade (s : Endpoint) (i : Nat) (ip : IpAddr) : Endpoint :=
  match s.admission.admitConnection limits ip with
  | none => s
  | some admission => { s with admission, slots := s.slots.put (.admitted i ip) }

/-- The end of an iteration of the loop, when the handler of a frame has returned. -/
def iterated (s : Endpoint) (i : Nat) : Endpoint :=
  match s.slotIn i .opened with
  | none => s
  | some slot =>
    if Waits s.cluster i ∧ slot.unauthenticated = true ∧ (s.cluster.locals i).session.isSome then
      { s with
        admission := s.admission.markAuthenticated slot.ip
        slots := s.slots.put { slot with unauthenticated := false } }
    else s

/-- The end of the task. -/
def ended (s : Endpoint) (slot : Slot) : Endpoint :=
  { s with
    admission := s.admission.release slot.ip slot.unauthenticated
    slots := s.slots.put { slot with phase := .ended, releases := slot.releases + 1 } }

def step (s : Endpoint) : Label → Option Endpoint
  | .request i ip => if s.Unused env i then some (s.upgrade limits i ip) else none
  | .opened i => (s.slotIn i .upgrading).map fun slot => { s with slots := s.slots.put { slot with phase := .opened } }
  -- `on_upgrade` drops its callback, and with it all that would give the place back.
  | .failed i => (s.slotIn i .upgrading).map fun slot => { s with slots := s.slots.put { slot with phase := .failed } }
  | .incoming i m =>
    if (s.slotIn i .opened).isSome then
      (Cluster.step env P s.cluster (.incoming i m)).map fun cluster => { s with cluster }
    else none
  | .command i c =>
    if s.slots.find i = none then
      (Cluster.step env P s.cluster (.command i c)).map fun cluster => { s with cluster }
    else none
  | .advance i =>
    (Cluster.step env P s.cluster (.advance i)).map fun cluster => iterated { s with cluster } i
  | .released i =>
    if (s.cluster.tasks i).isNone ∧ (s.cluster.locals i).closed = true then
      (s.slotIn i .opened).map s.ended
    else none
  | .crash => some { cluster := s.cluster.crashed, admission := .default, slots := ∅ }

end Endpoint

/-- The runs of a server that admits its connections. -/
def endpointSystem (env : ServerEnvironment) (P : Primitives) (limits : ConnectionLimits) :
    System Endpoint Endpoint.Label :=
  System.ofFun (fun s => s = .initial env) (Endpoint.step env P limits)

end TuiChat
