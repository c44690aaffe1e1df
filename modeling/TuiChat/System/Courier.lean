import TuiChat.Server.Replies
import TuiChat.System.Mailbox

/-!
# A device and the server that takes its messages

The server, and the client on a device with every connection that it has had. What arrives on one of them is what the
client has handed to one of them, and the acceptances that the client handles are frames that the server has handed over
on one of them; both may be late, in any order, more than once or lost, and a connection may end at any moment.
-/

namespace TuiChat

open Lib

structure Courier (P : Primitives) where
  server : Cluster
  client : World P
  /-- The connections that the client has had. -/
  tokens : List Nat
  /-- The frames that it has handed to them. -/
  handed : List Frame

namespace Courier

inductive Label
  /-- Something happens at the server. -/
  | server (l : Cluster.Label)
  /-- The client opens a connection. -/
  | connects (i : Nat)
  | client (action : Action)

variable {P : Primitives}

/-- A batch that arrives on a connection of the client is one that it has handed over. -/
def Own (s : Courier P) : Cluster.Label → Prop
  | .incoming i (.binary (.ok f)) => i ∈ s.tokens → ∀ m, f.body = some (.sendEnvelopes m) → f ∈ s.handed
  | _ => True

inductive Step (env : Environment) (senv : ServerEnvironment) : Courier P → Label → Courier P → Prop
  | server {s : Courier P} {l : Cluster.Label} {server : Cluster} (own : s.Own l)
    (step : Cluster.step senv P s.server l = some server) : Step env senv s (.server l) { s with server }
  /-- No batch has come on the connection yet. -/
  | connects {s : Courier P} {i : Nat} (fresh : ∀ g ∈ (s.server.locals i).requests, ∀ m, g.body ≠ some (.sendEnvelopes m))
    (idle : s.server.tasks i = none) :
    Step env senv s (.connects i) { s with tokens := i :: s.tokens }
  /-- An acceptance that the client handles is one that the server has handed over. -/
  | client {s : Courier P} {action : Action}
    (accepted : ∀ f a, action = .serverEvent f → f.body = some (.sendAccepted a) →
      ∃ t ∈ s.tokens, (t, f) ∈ s.server.shared.out) :
    Step env senv s (.client action) { s with
      client := s.client.after env action
      handed := s.handed ++ s.client.handed env action }

end Courier

/-- The runs of a device with a server, from any server that has been running. -/
def courierSystem (env : Environment) {P : Primitives} (senv : ServerEnvironment) (profile : RuntimeProfile P) :
    System (Courier P) Courier.Label where
  init s := (serverSystem senv P).Reachable s.server ∧ s.client = .ofProfile profile ∧ s.tokens = [] ∧ s.handed = []
  step := Courier.Step env senv

end TuiChat
