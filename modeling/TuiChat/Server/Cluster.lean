import TuiChat.Server.Admin
import TuiChat.Lib.Trans

/-!
# The server as a system

Any number of connections and of administrative commands, each a program of the pool that goes on
action by action, in any order. A token is a connection's index; a connection that nobody has used
yet is one that may still be opened. A crash takes every program, every live connection and every
connection in use, and leaves the database.
-/

namespace TuiChat

open Lib

def Db.empty : Db :=
  { accounts := ∅
    devices := ∅
    prekeys := ∅
    logicalMessages := ∅
    envelopes := ∅
    deliveryUpdates := ∅
    pairingEvents := ∅
    usage := ∅
    audit := []
    lastCursor := 0
    lastUpdate := 0
    lastPairingEvent := 0 }

/-- A server that starts on an empty database. -/
def AppState.initial : AppState :=
  { db := .empty
    connections := ∅
    sessions := ∅
    out := []
    signals := []
    tick := 0
    past := []
    registered := []
    connected := fun _ h => absurd h (Table.not_mem_empty _)
    log := [] }

def Connection.new (burst : Nat) : Connection :=
  { challenge := none
    session := none
    bucket := .new burst 0
    closed := false
    log := [] }

def AppState.crashed (s : AppState) : AppState :=
  { s with
    connections := ∅
    sessions := ∅
    connected := fun _ h => absurd h (Table.not_mem_empty _) }

def Connection.crashed (c : Connection) : Connection :=
  { c with closed := c.closed || !c.log.isEmpty }

abbrev Cluster := Pool Nat AppState Connection Error

namespace Cluster

variable (env : ServerEnvironment) (P : Primitives)

def initial : Cluster :=
  { shared := .initial
    locals := fun _ => .new env.requestBurst
    tasks := fun _ => none }

inductive Label
  /-- The task of a connection takes what it waited for. -/
  | incoming (i : Nat) (m : Ws.Incoming)
  | command (i : Nat) (c : Admin.Command)
  /-- A program does its next action. -/
  | advance (i : Nat)
  | crash

/-- A connection that waits; a signal to disconnect has to have been given. -/
def Waits (p : Cluster) (i : Nat) : Ws.Incoming → Prop
  | .disconnect reason => (p.tasks i).isNone ∧ (p.locals i).closed = false ∧ (i, reason) ∈ p.shared.signals
  | _ => (p.tasks i).isNone ∧ (p.locals i).closed = false

instance (p : Cluster) (i : Nat) (m : Ws.Incoming) : Decidable (Waits p i m) := by
  cases m <;> unfold Waits <;> infer_instance

/-- Only the database is left, and connections in use are closed. -/
def crashed (p : Cluster) : Cluster :=
  { shared := p.shared.crashed
    locals := fun i => (p.locals i).crashed
    tasks := fun _ => none }

def step (p : Cluster) : Label → Option Cluster
  | .incoming i m => if Waits p i m then some (p.start i (Ws.serve env P i m)) else none
  | .command i c => if (p.tasks i).isNone then some (p.start i (Admin.runCommand env c)) else none
  | .advance i => if (p.tasks i).isSome then some (p.advance i) else none
  | .crash => some p.crashed

end Cluster

/-- The runs of a server, from an empty database. -/
def serverSystem (env : ServerEnvironment) (P : Primitives) : System Cluster Cluster.Label :=
  System.ofFun (fun p => p = .initial env) (Cluster.step env P)

end TuiChat
