import TuiChat.Protocol.Codec
import TuiChat.Lib.Trans

/-!
# The channels of a started connection

What `RawConnection::start` puts between the app and the server (`crates/client/src/network.rs`), with the
queue of the connection at the server (`connection` of `crates/server/src/ws.rs`). The app is one task: it
takes an event and handles it to its end, and a handler that calls `rpc.request` waits for the response in
the meantime. The reader is another task; a frame without a waiter goes to the event channel, and while the
channel is full the reader holds the frame and reads nothing.
-/

namespace TuiChat

open Lib

/-- `mpsc::channel::<v1::Frame>(256)`, the event channel. -/
def eventCapacity : Nat := 256

/-- What the app's task is at. -/
inductive AppTask
  /-- In the `select!` of the event loop. -/
  | idle
  | handling
  /-- In `tx.send(frame).await`; whether a response is awaited after that. -/
  | sending (f : Frame) (awaits : Bool)
  /-- In `request_frame`, for the response with the id. -/
  | waiting (id : String)
deriving DecidableEq, Repr

structure Channels where
  task : AppTask
  /-- The ids that `RpcClient` has waiters for. -/
  pending : List String
  /-- The channel of the client's writer, oldest first. -/
  outgoing : List Frame
  /-- Frames on their way to the server's handler, oldest first. -/
  requests : List Frame
  /-- The queue of the connection at the server, oldest first. -/
  queue : List Frame
  /-- Frames on their way to the client, oldest first. -/
  wire : List Frame
  /-- The frame that the reader has taken and not handed over. -/
  held : Option Frame
  /-- The event channel, oldest first. -/
  events : List Frame
deriving DecidableEq

namespace Channels

/-- `mpsc::channel::<v1::Frame>(128)` of the client's writer. -/
def outgoingCapacity : Nat := 128

/-- `mpsc::channel::<v1::Frame>(128)` of the server's connection. -/
def queueCapacity : Nat := 128

inductive Label
  /-- The server sends something that is no response. -/
  | push (body : Body)
  /-- The server handles the next frame of the client, and answers with its id. -/
  | respond (body : Body)
  /-- The server handles the next frame of the client without an answer. -/
  | accept
  | serverWrites
  | clientWrites
  /-- The reader takes a frame, for its waiter or for the event channel. -/
  | read
  /-- The reader hands its frame to the event channel. -/
  | deliver
  /-- The event loop takes an event. -/
  | take
  /-- The event loop takes up something else: a key, a timer, a new connection. -/
  | begin
  /-- `rpc.request`, with the id that it draws. -/
  | request (id : String) (body : Body)
  | notify (body : Body)
  /-- A frame that the task sends gets into the channel. -/
  | enqueue
  /-- `try_send_frame`. -/
  | trySend (f : Frame)
  | timeout
  | finish

variable (s : Channels)

/-- The task goes on with what it waited for, or waits. -/
def sent (f : Frame) (awaits : Bool) : AppTask :=
  if awaits = true ∧ f.id ∈ s.pending then .waiting f.id else .handling

/-- The reader's frame goes to its waiter, or into its hand. -/
def received (f : Frame) (wire : List Frame) : Channels :=
  if f.id ≠ "" ∧ f.id ∈ s.pending then
    { s with
      wire
      pending := s.pending.erase f.id
      task := if s.task = .waiting f.id then .handling else s.task }
  else { s with wire, held := some f }

def step : Label → Option Channels
  | .push body =>
    if s.queue.length < queueCapacity then some { s with queue := s.queue ++ [frame "" body] } else none
  | .respond body =>
    match s.requests with
    | [] => none
    | f :: requests =>
      if s.queue.length < queueCapacity then
        some { s with requests, queue := s.queue ++ [frame f.id body] }
      else none
  | .accept =>
    match s.requests with
    | [] => none
    | _ :: requests => some { s with requests }
  | .serverWrites =>
    match s.queue with
    | [] => none
    | f :: queue => some { s with queue, wire := s.wire ++ [f] }
  | .clientWrites =>
    match s.outgoing with
    | [] => none
    | f :: outgoing => some { s with outgoing, requests := s.requests ++ [f] }
  | .read =>
    match s.held, s.wire with
    | none, f :: wire => some (s.received f wire)
    | _, _ => none
  | .deliver =>
    match s.held with
    | none => none
    | some f =>
      if s.events.length < eventCapacity then some { s with held := none, events := s.events ++ [f] } else none
  | .take =>
    match s.task, s.events with
    | .idle, _ :: events => some { s with task := .handling, events }
    | _, _ => none
  | .begin => if s.task = .idle then some { s with task := .handling } else none
  | .request id body =>
    if s.task = .handling ∧ id ≠ "" then
      some { s with task := .sending (frame id body) true, pending := id :: s.pending }
    else none
  | .notify body =>
    if s.task = .handling then some { s with task := .sending (frame "" body) false } else none
  | .enqueue =>
    match s.task with
    | .sending f awaits =>
      if s.outgoing.length < outgoingCapacity then
        some { s with task := s.sent f awaits, outgoing := s.outgoing ++ [f] }
      else none
    | _ => none
  | .trySend f =>
    if s.task = .handling ∧ s.outgoing.length < outgoingCapacity then
      some { s with outgoing := s.outgoing ++ [f] }
    else none
  | .timeout =>
    match s.task with
    | .waiting id => some { s with task := .handling, pending := s.pending.erase id }
    | _ => none
  | .finish => if s.task = .handling then some { s with task := .idle } else none

def initial : Channels :=
  { task := .idle
    pending := []
    outgoing := []
    requests := []
    queue := []
    wire := []
    held := none
    events := [] }

end Channels

/-- The runs of a started connection. -/
def channelSystem : System Channels Channels.Label := System.ofFun (fun s => s = .initial) Channels.step

end TuiChat
