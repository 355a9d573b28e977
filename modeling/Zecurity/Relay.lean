import Zecurity.FramePipe
import Zecurity.Runs

/-!
A TCP tunnel between a device and a resource: `RelaySession::relay_stream` with its
`device_to_shield_tcp` task and the `ToShield` stream (`connector/src/agent_tunnel.rs`) on one
side, `relay_tcp` (`shield/src/tunnel.rs`) on the other.

`up` carries the device's bytes to the resource, `down` the resource's to the device. Both
programs' tasks run in any interleaving. The revocation token has the session's abort as a child,
and that has the stop of the task. A poll of `ToShield` reads the abort first and then receives.
An HTTP/2 stream may break at any time, and the shield may be told to abort a tunnel at any time. A
device stream that is dropped without an abort finishes.
-/

namespace Zecurity.Relay

open FramePipe

def maxChunk : ℕ := 16 * 1024

def tcpToShieldQueue : ℕ := 4

def tcpToConnectorQueue : ℕ := 4

inductive End
  | clean
  | aborted (reason : String)
  | failed
  deriving DecidableEq

inductive Phase
  | running
  | ended (e : End)
  | stopping (e : End)
  /-- `abort_device` waits for the task; `settled` is the guard's field -/
  | rejoining (settled : Bool)
  | dropping (settled : Bool)
  | shutting
  | returned
  deriving DecidableEq

structure State where
  up : Pipe UInt8
  down : Pipe UInt8
  revoked : Bool
  abort : Bool
  stop : Bool
  /-- a poll of `ToShield` found no abort and has not received yet -/
  polling : Bool
  relay : Phase
  /-- the writer was dropped before the task gave its half back -/
  orphaned : Bool
  deviceEof : Bool
  deviceReset : Bool
  shieldAbort : Bool
  readDone : Bool
  writeDone : Bool
  shieldDone : Bool
  resourceFin : Bool
  resourceReset : Bool

def start : State where
  up := .start
  down := .start
  revoked := false
  abort := false
  stop := false
  polling := false
  relay := .running
  orphaned := false
  deviceEof := false
  deviceReset := false
  shieldAbort := false
  readDone := false
  writeDone := false
  shieldDone := false
  resourceFin := false
  resourceReset := false

inductive Action
  | deviceSends (bytes : List UInt8)
  | deviceCloses (closing : Closing)
  | resourceSends (bytes : List UInt8)
  | resourceCloses (closing : Closing)
  | revoke
  | hubAbort
  /-- the shield is told to abort the tunnel, or its Control stream ended -/
  | tunnelClose
  | breakStream (keptUp keptDown : ℕ)
  /-- `device_to_shield_tcp` -/
  | d2sRead (n : ℕ)
  | d2sReadEnd
  | d2sSend
  | d2sSendFails
  | d2sStop
  /-- `ToShield::poll_next`, up to the read of the abort, and after it -/
  | pollAbort
  | pollRecv
  | loopRevoked
  | loopAborted
  | loopExpired
  | loopReceive
  | loopWrite (n : ℕ)
  | loopWriteFails
  | stopTask
  | settle
  | rejoin
  | rejoinTimeout
  | dropDevice
  | dropGuard
  | shutdownDevice
  /-- `relay_tcp`, from the resource -/
  | r2cRead (n : ℕ)
  | r2cReadEnd
  | r2cSend
  | r2cSendFails
  | r2cDone
  | r2cPull
  | r2cFinish
  /-- and to it -/
  | c2rReceive
  | c2rWrite (n : ℕ)
  | c2rWriteFails
  | c2rAborted

def State.onUp (s : State) (op : Op UInt8) : Option State :=
  (s.up.step maxChunk tcpToShieldQueue op).map fun up => { s with up := up }

def State.onDown (s : State) (op : Op UInt8) : Option State :=
  (s.down.step maxChunk tcpToConnectorQueue op).map fun down => { s with down := down }

/-- What a poll of `ToShield` receives: a frame, the end if all senders are gone, or nothing. -/
def recvOp (p : Pipe UInt8) : Option (Op UInt8) :=
  match p.queue, p.task with
  | _ :: _, _ => some .pull
  | [], .returned => some .finish
  | [], _ => none

/-- What the connector makes of a message from the shield. -/
def loopEnd : Msg UInt8 → Option End
  | .frame (.data _) => none
  | .frame (.done error) => some (if error = "" then .clean else .failed)
  | .finished | .failed => some .failed

/-- What the shield makes of a message from the connector: whether that ends the direction, and
cleanly. -/
def resourceEnd : Msg UInt8 → Option Bool
  | .frame (.data _) => none
  | .frame (.done error) => some (decide (error = ""))
  | .finished => some true
  | .failed => some false

/-- `relay_tcp` fails: the resource connection is reset, and the other direction is dropped. -/
def State.failResource (s : State) : State :=
  { s with
    shieldDone := true
    resourceReset := true
    down.task := .returned }

def State.shutResource (s : State) : State :=
  { s with resourceFin := true, writeDone := true, shieldDone := s.readDone }

def State.leave (s : State) (e : End) : State := { s with relay := .ended e }

def State.whenRunning (s : State) (next : Option State) : Option State :=
  if s.relay = .running then next else none

def State.whenServing (s : State) (next : Option State) : Option State :=
  if s.shieldDone || s.writeDone then none else next

def step (s : State) : Action → Option State
  | .deviceSends bytes => s.onUp (.source bytes)
  | .deviceCloses closing => s.onUp (.close closing)
  | .resourceSends bytes => s.onDown (.source bytes)
  | .resourceCloses closing => s.onDown (.close closing)
  | .revoke => some { s with revoked := true, abort := true, stop := true }
  | .hubAbort => some { s with abort := true, stop := true }
  | .tunnelClose => some { s with shieldAbort := true }
  | .breakStream keptUp keptDown =>
    (s.onUp (.lose keptUp)).bind fun s' => s'.onDown (.lose keptDown)
  | .d2sRead n => if s.stop then none else s.onUp (.read n)
  | .d2sReadEnd => if s.stop then none else s.onUp .readEnd
  | .d2sSend => if s.stop then none else s.onUp .send
  | .d2sSendFails => s.onUp .sendFails
  | .d2sStop => if s.stop then s.onUp .stop else none
  | .pollAbort =>
    if s.polling || !s.up.isOpen then none
    else if s.abort then s.onUp .fail
    else some { s with polling := true }
  | .pollRecv =>
    if s.polling then
      match recvOp s.up with
      | some op => ({ s with polling := false } : State).onUp op
      | none => some { s with polling := false }
    else none
  | .loopRevoked =>
    s.whenRunning (if s.revoked then some (s.leave (.aborted "session revoked")) else none)
  | .loopAborted =>
    s.whenRunning
      (if s.abort then some (s.leave (.aborted "tunnel ended by the connector")) else none)
  | .loopExpired =>
    s.whenRunning
      (if s.down.sink = .receiving then some (s.leave (.aborted "shield certificate expired"))
      else none)
  | .loopReceive =>
    s.whenRunning (match s.down.wire with
      | [] => none
      | msg :: _ => (s.onDown .receive).map fun s' => (loopEnd msg).elim s' s'.leave)
  | .loopWrite n => s.whenRunning (s.onDown (.write n))
  | .loopWriteFails =>
    s.whenRunning (match s.down.sink with
      | .writing _ => (s.onDown .abandon).map fun s' => s'.leave .failed
      | _ => none)
  | .stopTask =>
    match s.relay with
    | .ended e => some { s with stop := true, relay := .stopping e }
    | _ => none
  | .settle =>
    match s.relay with
    | .stopping (.aborted _) => some { s with abort := true, relay := .rejoining true }
    | .stopping .failed => some { s with relay := .rejoining false }
    | .stopping .clean => some { s with relay := .shutting }
    | _ => none
  | .rejoin =>
    match s.relay, s.up.task with
    | .rejoining settled, .returned =>
      some { s with deviceReset := true, relay := .dropping settled }
    | _, _ => none
  | .rejoinTimeout =>
    match s.relay with
    | .rejoining settled => some { s with orphaned := true, relay := .dropping settled }
    | _ => none
  | .dropDevice =>
    match s.up.task with
    | .returned => if s.orphaned then some { s with deviceEof := true } else none
    | _ => none
  | .dropGuard =>
    match s.relay with
    | .dropping settled => some { s with abort := s.abort || !settled, relay := .returned }
    | _ => none
  | .shutdownDevice =>
    match s.relay with
    | .shutting => some { s with deviceEof := true, relay := .returned }
    | _ => none
  | .r2cRead n => if s.shieldDone then none else s.onDown (.read n)
  | .r2cReadEnd => if s.shieldDone then none else s.onDown .readEnd
  | .r2cSend => if s.shieldDone then none else s.onDown .send
  | .r2cSendFails => if s.shieldDone then none else s.onDown .sendFails
  | .r2cDone =>
    match s.down.task with
    | .returned =>
      if s.shieldDone || s.readDone then none
      else some { s with readDone := true, shieldDone := s.writeDone }
    | _ => none
  | .r2cPull => s.onDown .pull
  | .r2cFinish => s.onDown .finish
  | .c2rReceive =>
    s.whenServing (match s.up.wire with
      | [] => none
      | msg :: _ => (s.onUp .receive).map fun s' =>
        match resourceEnd msg with
        | none => s'
        | some true => s'.shutResource
        | some false => s'.failResource)
  | .c2rWrite n => s.whenServing (s.onUp (.write n))
  | .c2rWriteFails =>
    s.whenServing (match s.up.sink with
      | .writing _ => (s.onUp .abandon).map State.failResource
      | _ => none)
  | .c2rAborted =>
    if s.shieldDone then none
    else if s.shieldAbort then (s.onUp .abandon).map State.failResource
    else none

/-! ### Looking complete -/

/-- The side that sends reached its end of file, and all it sent was written. -/
def Complete (p : Pipe UInt8) : Prop := p.closing = some .eof ∧ p.written = p.sent

/-- What looks complete to the resource or the device is. -/
def LooksAsIs (s : State) : Prop :=
  (s.resourceFin = true → Complete s.up) ∧ (s.deviceEof = true → Complete s.down)

/-- The task queued its last frame. -/
def Announced (p : Pipe UInt8) : Prop := ∃ e, Frame.done e ∈ p.queued

/-- What is asked of each step: an error of the device or the resource has a text; `relay_stream`
stops its task only where the session is aborted already or the task has queued its last frame; the
task does not end in the middle of a poll of `ToShield`; and it gives its half back in time. -/
def EndsInOrder (s : State) : Action → Prop
  | .deviceCloses closing | .resourceCloses closing => closing ≠ .error ""
  | .stopTask => s.abort = true ∨ Announced s.up
  | .d2sStop => s.polling = false
  | .rejoinTimeout => False
  | _ => True

end Zecurity.Relay
