import TuiChat.Server.Runs
import TuiChat.System.Channels

/-!
# A connection from both ends

`RawConnection` and what `start` makes of it (`crates/client/src/network.rs`), at the other end of one
connection of the server: its frames are those that the server's programs have sent to the token, in their
order. Before `start` the client takes frames in the loop of `request` only, which throws away whatever is
not its response; afterwards the reader hands every frame to the waiter of its id or to the event channel.
-/

namespace TuiChat

open Lib

inductive RawPhase
  /-- Between two requests of the handshake. -/
  | between
  /-- In the loop of `request`, for the response with the id. -/
  | awaiting (id : String)
  | started
  /-- A request has failed or has timed out, or the client has let the connection go. -/
  | failed
deriving DecidableEq, Repr

/-- The server, and the client of one of its connections. -/
structure Handshake where
  server : Cluster
  /-- Frames on their way to the server, oldest first. -/
  requests : List Frame
  /-- The number of frames of the connection that the client has taken. -/
  read : Nat
  phase : RawPhase
  /-- The ids that `RpcClient` has waiters for. -/
  pending : List String
  /-- The event channel, oldest first. -/
  events : List Frame
  /-- The frames that `handle_server_event` was called with, oldest first. -/
  handled : List Frame

def Frame.isAuthenticated (f : Frame) : Bool :=
  match f.body with
  | some (.authenticated _) => true
  | _ => false

def Frame.isPush (f : Frame) : Bool := f.id = ""

/-- The frames without an id that follow the first `Authenticated`. -/
def pushesAfter : List Frame → List Frame
  | [] => []
  | f :: fs => if f.isAuthenticated then fs.filter Frame.isPush else pushesAfter fs

namespace Handshake

/-- The frames that the server has sent on the connection. -/
def frames (h : Handshake) (token : Nat) : List Frame :=
  h.server.shared.out.filterMap fun sent => if sent.1 = token then some sent.2 else none

/-- The frames of the connection that the client has taken. -/
def taken (h : Handshake) (token : Nat) : List Frame := (h.frames token).take h.read

/-- What the loop of `request` does with a frame. -/
def awaited (id : String) (f : Frame) : RawPhase :=
  if f.protocolVersion ≠ protocolVersion then .failed
  else if f.id = id then
    match f.body with
    | some (.error _) => .failed
    | _ => .between
  else .awaiting id

inductive Label
  /-- Something else happens at the server. -/
  | server (l : Cluster.Label)
  /-- The server takes the next frame of the client. -/
  | arrives
  | request (id : String) (body : Body)
  /-- The loop of `request` takes a frame. -/
  | read
  | start
  /-- `RpcClient::request_frame`. -/
  | rpc (id : String) (body : Body)
  /-- A waiter gives up. -/
  | expire (id : String)
  /-- `notify` and `try_send_frame`. -/
  | send (f : Frame)
  /-- The reader takes a frame. -/
  | receive
  /-- The event loop takes a frame of the channel. -/
  | handle
  | fail

/-- The reader's frame goes to its waiter or, if there is room, to the event channel. -/
def received (h : Handshake) (f : Frame) : Option Handshake :=
  if f.id ≠ "" ∧ f.id ∈ h.pending then
    some { h with read := h.read + 1, pending := h.pending.erase f.id }
  else if h.events.length < eventCapacity then
    some { h with read := h.read + 1, events := h.events ++ [f] }
  else none

variable (env : ServerEnvironment) (P : Primitives) (token : Nat)

def step (h : Handshake) : Label → Option Handshake
  | .server l =>
    -- What the connection takes is what its client has sent.
    match l with
    | .incoming i (.binary _) =>
      if i = token then none else (Cluster.step env P h.server l).map fun server => { h with server }
    | _ => (Cluster.step env P h.server l).map fun server => { h with server }
  | .arrives =>
    match h.requests with
    | [] => none
    | f :: requests => (Cluster.step env P h.server (.incoming token (.binary (.ok f)))).map
        fun server => { h with server, requests }
  | .request id body =>
    if h.phase = .between then
      some { h with phase := .awaiting id, requests := h.requests ++ [frame id body] }
    else none
  | .read =>
    match h.phase, (h.frames token)[h.read]? with
    | .awaiting id, some f => some { h with read := h.read + 1, phase := awaited id f }
    | _, _ => none
  | .start =>
    -- `authenticate` returns the connection of an `Authenticated`.
    if h.phase = .between ∧ ∃ g ∈ h.taken token, g.isAuthenticated = true then
      some { h with phase := .started }
    else none
  | .rpc id body =>
    if h.phase = .started then
      some { h with pending := id :: h.pending, requests := h.requests ++ [frame id body] }
    else none
  | .expire id => some { h with pending := h.pending.erase id }
  | .send f => if h.phase = .started then some { h with requests := h.requests ++ [f] } else none
  | .receive =>
    match h.phase, (h.frames token)[h.read]? with
    | .started, some f => h.received f
    | _, _ => none
  | .handle =>
    match h.events with
    | f :: events => some { h with events, handled := h.handled ++ [f] }
    | [] => none
  | .fail => some { h with phase := .failed }

def initial : Handshake :=
  { server := .initial env
    requests := []
    read := 0
    phase := .between
    pending := []
    events := []
    handled := [] }

end Handshake

/-- The runs of a server with the client of one connection. -/
def handshakeSystem (env : ServerEnvironment) (P : Primitives) (token : Nat) :
    System Handshake Handshake.Label :=
  System.ofFun (fun h => h = .initial env) (Handshake.step env P token)

end TuiChat
