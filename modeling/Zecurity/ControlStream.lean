import Mathlib.Data.Finset.Basic
import Zecurity.ConnectorRow
import Zecurity.Runs

/-!
The Control streams of one connector in one controller process
(`controller/internal/connector/control_stream.go`,
`controller/internal/connector/authorization.go`), with the revocation of the connector.

A stream has a handler, which activates it, works on one health report at a time and retires
it; a writer, the only one that calls `Send`; an outbound mailbox; a one-slot terminal mailbox;
and the `revoked` flag, which `authMu` guards together with the enqueueing of an
`AuthorizationAck`. Activation, retirement and `SignalRevoked` hold `lifecycleMu`. Each database
call, each critical section of `authMu` and each step of a writer is one step, and they interleave
freely; any database call may fail.
-/

namespace Zecurity.ControlStream

open ConnectorRow

abbrev StreamId := ℕ

def connectorSendQueueSize : ℕ := 128

inductive Msg
  | authorizationAck (heartbeatSeq : ℕ)
  | connectorRevoked
  | aclSnapshot
  | other (kind : ℕ)
  deriving DecidableEq

inductive HealthPhase
  | idle
  | refused
  | authorized (seq : ℕ)
  | pushed (seq : ℕ)
  deriving DecidableEq

inductive StreamPhase
  | unopened
  | opened
  | activating
  | refusedActivation
  | activated
  | serving (h : HealthPhase)
  | closing (rej : Option AuthzRejection)
  | retiring (rej : Option AuthzRejection)
  | closed (rej : Option AuthzRejection)
  deriving DecidableEq

/-- Where `runWriter` stands: at its first `select`, at the second, in a `Send`. -/
inductive WriterPhase
  | notStarted
  | priority
  | waiting
  | sending (msg : Msg)
  | sendingTerminal (msg : Msg)
  | stopped
  deriving DecidableEq

/-- `connectorStreamClient` -/
structure Stream where
  phase : StreamPhase
  revoked : Bool
  terminal : Option Msg
  terminalSent : Bool
  outbound : List Msg
  writer : WriterPhase
  written : List Msg
  /-- everything that was ever put in `outbound` (ghost) -/
  enqueued : List Msg

def Stream.new : Stream := ⟨.unopened, false, none, false, [], .notStarted, [], []⟩

/-- `send`: `none` where the mailbox is full. -/
def Stream.send (t : Stream) (msg : Msg) : Option Stream :=
  if t.outbound.length < connectorSendQueueSize then
    some { t with outbound := t.outbound ++ [msg], enqueued := t.enqueued ++ [msg] }
  else none

/-- `sendAuthorizationAck`: `none` where the stream is revoked or the mailbox is full. -/
def Stream.sendAuthorizationAck (t : Stream) (seq : ℕ) : Option Stream :=
  if t.revoked then none else t.send (.authorizationAck seq)

/-- `markRevoked`, and whether it queued the message. -/
def Stream.markRevoked (t : Stream) : Stream × Bool :=
  if t.revoked then (t, false)
  else
    match t.terminal with
    | none => ({ t with revoked := true, terminal := some .connectorRevoked }, true)
    | some _ => ({ t with revoked := true }, false)

/-! ### The writer -/

/-- The case taken by the second `select` of `runWriter`. -/
inductive Select
  | done
  | terminal
  | outbound
  deriving DecidableEq

def Stream.startWriter (t : Stream) : Option Stream :=
  match t.phase, t.writer with
  | .serving _, .notStarted => some { t with writer := .priority }
  | _, _ => none

/-- The first `select`: a pending terminal message goes out first. -/
def Stream.writerPriority (t : Stream) : Option Stream :=
  match t.writer with
  | .priority =>
    match t.terminal with
    | some msg => some { t with terminal := none, writer := .sendingTerminal msg }
    | none => some { t with writer := .waiting }
  | _ => none

def Stream.writerSelect (t : Stream) (choice : Select) : Option Stream :=
  match t.writer, choice with
  | .waiting, .done => some { t with writer := .stopped }
  | .waiting, .terminal =>
    t.terminal.map fun msg => { t with terminal := none, writer := .sendingTerminal msg }
  | .waiting, .outbound =>
    match t.outbound with
    | msg :: rest => some { t with outbound := rest, writer := .sending msg }
    | [] => none
  | _, _ => none

/-- The end of a `Send`. -/
def Stream.writerSend (t : Stream) (ok : Bool) : Option Stream :=
  match t.writer with
  | .sending msg =>
    some (if ok then { t with written := t.written ++ [msg], writer := .priority }
      else { t with writer := .stopped })
  | .sendingTerminal msg =>
    some (if ok then { t with
        written := t.written ++ [msg], terminalSent := true, writer := .stopped }
      else { t with writer := .stopped })
  | _ => none

/-! ### The connector -/

inductive Holder
  | stream (id : StreamId)
  | signalRevoked

/-- Where the revocation stands: `due` once the revoking `UPDATE` has returned its row, then
the streams still to be marked and the number queued so far. -/
inductive Signal
  | none
  | due
  | marking (rest : List StreamId) (n : ℕ)
  | returned (n : ℕ)
  deriving DecidableEq

structure State where
  db : Db
  lifecycleMu : Option Holder
  current : Option StreamId
  live : Finset StreamId
  signal : Signal
  streams : StreamId → Stream

def init (db : Db) : State := ⟨db, none, none, ∅, .none, fun _ => .new⟩

def State.setStream (s : State) (id : StreamId) (t : Stream) : State :=
  { s with streams := Function.update s.streams id t }

def State.setPhase (s : State) (id : StreamId) (phase : StreamPhase) : State :=
  s.setStream id { s.streams id with phase }

/-- How `pushACLSnapshot` goes on after the compile. -/
inductive AclPush
  | failed
  | current
  | send

inductive Action
  | openStream (id : StreamId) (lookup : Call)
  | activateLock (id : StreamId)
  | activateUpdate (id : StreamId) (call : Call)
  | refuseActivation (id : StreamId) (lookup : Call)
  | register (id : StreamId)
  | health (id : StreamId) (seq : ℕ) (call : Call)
  | refuseHealth (id : StreamId) (lookup : Call)
  | pushAclSnapshot (id : StreamId) (push : AclPush)
  | sendAuthorizationAck (id : StreamId)
  | enqueue (id : StreamId) (kind : ℕ)
  | hangUp (id : StreamId)
  | endRevoked (id : StreamId)
  | retire (id : StreamId)
  | retireUpdate (id : StreamId) (call : Call)
  | startWriter (id : StreamId)
  | writerPriority (id : StreamId)
  | writerSelect (id : StreamId) (choice : Select)
  | writerSend (id : StreamId) (ok : Bool)
  | revokeConnector (call : Call)
  | signalRevoked (streams : List StreamId)
  | markRevoked
  | signalReturn
  | goodbye (call : Call)
  | watcher (call : Call)
  | enroll (call : Call)
  | deleteConnector (call : Call)

/-- A statement whose outcome only its caller sees. -/
def State.exec (s : State) (st : Statement) (call : Call) : State :=
  { s with db := (s.db.exec st call).1 }

def step (s : State) : Action → Option State
  | .openStream id lookup =>
    match (s.streams id).phase with
    | .unopened =>
      match lookupConnector s.db lookup with
      | some .authorized => some (s.setPhase id .opened)
      | r => some (s.setPhase id (.closed (some (rejectionFor r))))
    | _ => none
  | .activateLock id =>
    match (s.streams id).phase, s.lifecycleMu with
    | .opened, none => some { s.setPhase id .activating with lifecycleMu := some (.stream id) }
    | _, _ => none
  | .activateUpdate id call =>
    match (s.streams id).phase with
    | .activating =>
      match (s.db.exec .activate call).2 with
      | some false => some ((s.exec .activate call).setPhase id .refusedActivation)
      -- an error on the statement itself does not keep the stream from being registered
      | _ => some ((s.exec .activate call).setPhase id .activated)
    | _ => none
  | .refuseActivation id lookup =>
    match (s.streams id).phase with
    | .refusedActivation =>
      some { s.setPhase id (.closed (some (rejectionFor (lookupConnector s.db lookup)))) with
        lifecycleMu := none }
    | _ => none
  | .register id =>
    match (s.streams id).phase with
    | .activated =>
      some { s.setPhase id (.serving .idle) with
        current := some id
        live := insert id s.live
        lifecycleMu := none }
    | _ => none
  | .health id seq call =>
    match (s.streams id).phase with
    | .serving .idle =>
      if seq = 0 then some (s.setPhase id (.closing (some rejectMissingSeq)))
      else
        match (s.db.exec .health call).2 with
        | some false => some ((s.exec .health call).setPhase id (.serving .refused))
        | some true => some ((s.exec .health call).setPhase id (.serving (.authorized seq)))
        | none => some (s.exec .health call)
    | _ => none
  | .refuseHealth id lookup =>
    match (s.streams id).phase with
    | .serving .refused =>
      some (s.setPhase id (.closing (some (rejectionFor (lookupConnector s.db lookup)))))
    | _ => none
  | .pushAclSnapshot id push =>
    match (s.streams id).phase with
    | .serving (.authorized seq) =>
      match push with
      | .failed => some (s.setPhase id (.serving .idle))
      | .current => some (s.setPhase id (.serving (.pushed seq)))
      | .send =>
        match (s.streams id).send .aclSnapshot with
        | none => some (s.setPhase id (.serving .idle))
        | some t => some (s.setStream id { t with phase := .serving (.pushed seq) })
    | _ => none
  | .sendAuthorizationAck id =>
    match (s.streams id).phase with
    | .serving (.pushed seq) =>
      match (s.streams id).sendAuthorizationAck seq with
      | none => some (s.setPhase id (.serving .idle))
      | some t => some (s.setStream id { t with phase := .serving .idle })
    | _ => none
  | .enqueue id kind => ((s.streams id).send (.other kind)).map (s.setStream id)
  | .hangUp id =>
    match (s.streams id).phase with
    | .serving .idle => some (s.setPhase id (.closing none))
    | _ => none
  | .endRevoked id =>
    match (s.streams id).phase with
    | .serving .idle =>
      if (s.streams id).terminalSent then some (s.setPhase id (.closing (some rejectRevoked)))
      else none
    | _ => none
  | .retire id =>
    match (s.streams id).phase, s.lifecycleMu with
    | .closing rej, none =>
      if s.current = some id then
        some { s.setPhase id (.retiring rej) with
          live := s.live.erase id
          current := none
          lifecycleMu := some (.stream id) }
      else some { s.setPhase id (.closed rej) with live := s.live.erase id }
    | _, _ => none
  | .retireUpdate id call =>
    match (s.streams id).phase with
    | .retiring rej =>
      some { (s.exec .disconnect call).setPhase id (.closed rej) with lifecycleMu := none }
    | _ => none
  | .startWriter id => (s.streams id).startWriter.map (s.setStream id)
  | .writerPriority id => (s.streams id).writerPriority.map (s.setStream id)
  | .writerSelect id choice => ((s.streams id).writerSelect choice).map (s.setStream id)
  | .writerSend id ok => ((s.streams id).writerSend ok).map (s.setStream id)
  | .revokeConnector call =>
    match (s.db.exec .revoke call).2 with
    | some true => some { s.exec .revoke call with signal := .due }
    | _ => some (s.exec .revoke call)
  | .signalRevoked streams =>
    match s.signal, s.lifecycleMu with
    | .due, none =>
      if streams.Nodup ∧ streams.toFinset = s.live then
        some { s with signal := .marking streams 0, lifecycleMu := some .signalRevoked }
      else none
    | _, _ => none
  | .markRevoked =>
    match s.signal with
    | .marking (id :: rest) n =>
      some { s.setStream id (s.streams id).markRevoked.1 with
        signal := .marking rest (if (s.streams id).markRevoked.2 then n + 1 else n) }
    | _ => none
  | .signalReturn =>
    match s.signal with
    | .marking [] n => some { s with signal := .returned n, lifecycleMu := none }
    | _ => none
  | .goodbye call => some (s.exec .goodbye call)
  | .watcher call => some (s.exec .watcher call)
  | .enroll call => some (s.exec .enroll call)
  | .deleteConnector call => some (s.exec .delete call)

end Zecurity.ControlStream
