import Zecurity.ClientAcl

/-!
The identity that a client keeps: its state file (`client/src/state_store.rs`) and its copy in
memory (`client/src/daemon.rs`, `client/src/runtime.rs`), under logins, token refreshes,
certificate renewals, the user's choice to have the tunnel up or down, and device directives.

Every writer of the file but a login loads it, changes its own fields and saves the whole; the
load, the save and the update of memory are steps of their own. Refreshes share a lock and so do
the saves of the user's choice; renewals are made by one scheduler.
-/

namespace Zecurity.SavedIdentity

open FiniteMap
open ClientAcl (DeviceState)

abbrev OpId := ℕ
abbrev DeviceId := String
/-- A key of a device, in software or in a TPM. -/
abbrev PrivateKey := ℕ
/-- A key that the state file is encrypted with. -/
abbrev StateKey := ℕ

structure Certificate where
  deviceId : DeviceId
  key : PrivateKey
  expiresAt : ℤ

structure Device where
  id : DeviceId
  certificate : Option Certificate
  privateKey : Option PrivateKey
  caCertPem : String
  certExpiresAt : ℤ

structure Session where
  /-- the login that the tokens come from -/
  login : ℕ
  accessToken : String
  refreshToken : String
  expiresAt : ℤ

/-- The directives that end a device's trust. -/
inductive Directive
  | revoked
  | reEnrollRequired

def Directive.state : Directive → DeviceState
  | .revoked => .revoked
  | .reEnrollRequired => .reEnrollRequired

/-- `StoredWorkspaceState`. -/
structure Stored where
  device : Device
  session : Session
  deviceState : DeviceState
  tunnelWanted : Bool

/-- What `PostLoginState` brings: a device that has just been enrolled with its key. -/
structure Login where
  deviceId : DeviceId
  key : PrivateKey
  caCertPem : String
  certExpiresAt : ℤ
  session : Session

def Login.device (l : Login) : Device where
  id := l.deviceId
  certificate := some ⟨l.deviceId, l.key, l.certExpiresAt⟩
  privateKey := some l.key
  caCertPem := l.caCertPem
  certExpiresAt := l.certExpiresAt

/-- `from_login`. -/
def Login.stored (l : Login) : Stored := ⟨l.device, l.session, .active, false⟩

def Device.wipe (d : Device) : Device :=
  { d with certificate := none, privateKey := none, certExpiresAt := 0 }

/-- The part of `RuntimeState` that the operations share. -/
structure Memory where
  device : Option Device
  session : Option Session
  deviceState : DeviceState
  tunnelWanted : Bool

/-! ### The operations -/

/-- What is to be written to the file and to memory. -/
inductive Task
  | login (l : Login)
  /-- rotated tokens; a failed save does not stop the scheduler's refresh -/
  | tokens (session : Session) (scheduled : Bool)
  | cert (c : Certificate) (caCertPem : String)
  | wanted (up : Bool)
  | mark (d : Directive)

/-- The changes of `save_workspace_state` at a login, `save_rotated_tokens`, `save_renewed_cert`,
`save_tunnel_wanted` and `mark_device_state`. -/
def Task.change : Task → Stored → Stored
  | .login l, _ => l.stored
  | .tokens session _, st => { st with session }
  | .cert c caCertPem, st =>
    { st with device :=
        { st.device with certificate := some c, caCertPem, certExpiresAt := c.expiresAt } }
  | .wanted up, st => { st with tunnelWanted := up }
  | .mark d, st =>
    { st with device := st.device.wipe, deviceState := d.state, tunnelWanted := false }

/-- `populate_runtime` at a login; a directive leaves the flag for the tunnel as it is. -/
def Task.apply : Task → Memory → Memory
  | .login l, _ => ⟨some l.device, some l.session, .active, false⟩
  | .tokens session _, m => { m with session := m.session.map fun _ => session }
  | .cert c _, m =>
    { m with device := m.device.map fun d =>
        { d with certificate := some c, certExpiresAt := c.expiresAt } }
  | .wanted up, m => { m with tunnelWanted := up }
  | .mark d, m => { m with device := m.device.map Device.wipe, deviceState := d.state }

inductive Stage
  | load
  | save (content : Stored)
  | memory

/-- What the renewal scheduler has read before its sleep. -/
structure Plan where
  deviceId : DeviceId
  key : PrivateKey
  caCertPem : String

inductive Op
  | refreshing (session : Session) (scheduled : Bool)
  | renewing (p : Plan)
  | running (t : Task) (stage : Stage)

/-- The user's choice and a directive reach memory first, the others the file. -/
def Task.afterSave : Task → Option Op
  | .wanted _ => none
  | .mark _ => none
  | t => some (.running t .memory)

def Task.afterMemory : Task → Option Op
  | .wanted up => some (.running (.wanted up) .load)
  | .mark d => some (.running (.mark d) .load)
  | _ => none

/-- What remains to be done when the file could not be read or written. -/
def Task.afterError : Task → Option Op
  | .tokens session true => some (.running (.tokens session true) .memory)
  | .cert c ca => some (.running (.cert c ca) .memory)
  | _ => none

namespace Op

def isLogin : Op → Bool
  | running (.login _) _ => true
  | _ => false

def isRefresh : Op → Bool
  | refreshing _ _ => true
  | running (.tokens _ _) _ => true
  | _ => false

/-- A renewed certificate has been accepted. -/
def savesCert : Op → Bool
  | running (.cert _ _) _ => true
  | _ => false

def isRenewal : Op → Bool
  | renewing _ => true
  | o => o.savesCert

def isChoice : Op → Bool
  | running (.wanted _) _ => true
  | _ => false

def wantsUp : Op → Bool
  | running (.wanted up) _ => up
  | _ => false

def isDirective : Op → Bool
  | running (.mark _) _ => true
  | _ => false

/-- The file has been loaded, or a login's content is ready, and is not yet saved. -/
def saving : Op → Bool
  | running _ (.save _) => true
  | _ => false

end Op

/-- The state file and memory. -/
structure Identity where
  file : Option (StateKey × Stored)
  keyFile : Option StateKey
  memory : Memory
  enrolled : Map DeviceId PrivateKey
  login : Option ℕ
  /-- a directive has been applied since the last login; whether the flag in memory has been up
  ever since -/
  wiped : Option Bool

structure State extends Identity where
  scheduler : Option Plan
  ops : Map OpId Op

def start : State where
  file := none
  keyFile := none
  memory := ⟨none, none, .active, false⟩
  enrolled := ∅
  login := none
  wiped := none
  scheduler := none
  ops := ∅

inductive Action
  | login (i : OpId) (l : Login)
  | refresh (i : OpId) (scheduled : Bool)
  | rotated (i : OpId) (accessToken refreshToken : String) (expiresAt : ℤ)
  | plan
  | renew (i : OpId)
  | renewed (i : OpId) (expiresAt : ℤ)
  | refused (i : OpId)
  | wanted (i : OpId) (up : Bool)
  | directive (i : OpId) (d : Directive)
  | load (i : OpId)
  /-- with the key that is created if there is none -/
  | save (i : OpId) (fresh : StateKey)
  | ioError (i : OpId)
  | memory (i : OpId)

namespace Identity

/-- `load_workspace_state`. -/
def load (c : Identity) : Option Stored :=
  c.file.bind fun f => if c.keyFile = some f.1 then some f.2 else none

/-- `save_workspace_state`: the key is created if there is none. -/
def save (c : Identity) (t : Task) (content : Stored) (fresh : StateKey) : Identity :=
  let key := c.keyFile.getD fresh
  { c with
    file := some (key, content)
    keyFile := some key
    login := match t with
      | .login l => some l.session.login
      | _ => c.login
    wiped := match t with
      | .login _ => none
      | .mark _ => some c.memory.tunnelWanted
      | _ => c.wiped }

def update (c : Identity) (t : Task) : Identity :=
  let memory := t.apply c.memory
  { c with memory, wiped := c.wiped.map (· && memory.tunnelWanted) }

def enroll (c : Identity) (l : Login) : Identity :=
  { c with enrolled := c.enrolled.insert l.deviceId l.key }

end Identity

namespace State

/-- No operation in flight is as `p` says. -/
def Without (s : State) (p : Op → Bool) : Prop := All s.ops fun o => p o = false

instance (s : State) (p : Op → Bool) : Decidable (s.Without p) :=
  inferInstanceAs (Decidable (All _ _))

/-- Operation `i` goes on as `new`, or ends, and leaves the identity as `c`. -/
def put (s : State) (c : Identity) (i : OpId) (new : Option Op) : State where
  toIdentity := c
  scheduler := s.scheduler
  ops := match new with
    | some o => s.ops.insert i o
    | none => s.ops.erase i

/-- Operation `i` goes on as `new`, or ends. -/
def goOn (s : State) (i : OpId) (new : Option Op) : State := s.put s.toIdentity i new

end State

def step (s : State) : Action → Option State
  | .login i l =>
    if s.ops.lookup i = none ∧ (s.enrolled.lookup l.deviceId).all (· == l.key) then
      some (s.put (s.enroll l) i (some (.running (.login l) (.save l.stored))))
    else none
  | .refresh i scheduled =>
    -- `refresh_lock`
    if s.ops.lookup i = none ∧ s.Without Op.isRefresh ∧ s.memory.device.isSome then
      s.memory.session.map fun session => s.goOn i (some (.refreshing session scheduled))
    else none
  | .rotated i accessToken refreshToken expiresAt =>
    match s.ops.lookup i with
    | some (.refreshing session scheduled) =>
      let session := { session with accessToken, refreshToken, expiresAt }
      some (s.goOn i (some (.running (.tokens session scheduled) .load)))
    | _ => none
  | .plan =>
    if s.Without Op.isRenewal ∧ s.memory.deviceState = .active then
      s.memory.device.bind fun d => d.privateKey.map fun key =>
        { s with scheduler := some ⟨d.id, key, d.caCertPem⟩ }
    else none
  | .renew i =>
    if s.ops.lookup i = none ∧ s.Without Op.isRenewal ∧ s.memory.device.isSome ∧
        s.memory.deviceState = .active then
      s.scheduler.map fun p => s.goOn i (some (.renewing p))
    else none
  | .renewed i expiresAt =>
    match s.ops.lookup i with
    | some (.renewing p) =>
      -- the certificate is checked against the identity that memory has by now
      if s.memory.device.map Device.id = some p.deviceId then
        let c := ⟨p.deviceId, p.key, expiresAt⟩
        some (s.goOn i (some (.running (.cert c p.caCertPem) .load)))
      else some (s.goOn i none)
    | _ => none
  | .refused i =>
    match s.ops.lookup i with
    | some (.refreshing _ _) => some (s.goOn i none)
    | some (.renewing _) => some (s.goOn i none)
    | _ => none
  | .wanted i up =>
    -- `tunnel_intent_lock`
    if s.ops.lookup i = none ∧ s.Without Op.isChoice then
      some (s.goOn i (some (.running (.wanted up) .memory)))
    else none
  | .directive i d =>
    if s.ops.lookup i = none then some (s.goOn i (some (.running (.mark d) .memory))) else none
  | .load i =>
    match s.ops.lookup i with
    | some (.running t .load) =>
      match s.load with
      | some st => some (s.goOn i (some (.running t (.save (t.change st)))))
      | none => some (s.goOn i t.afterError)
    | _ => none
  | .save i fresh =>
    match s.ops.lookup i with
    | some (.running t (.save content)) => some (s.put (s.save t content fresh) i t.afterSave)
    | _ => none
  | .ioError i =>
    match s.ops.lookup i with
    | some (.running t .load) => some (s.goOn i t.afterError)
    | some (.running t (.save _)) => some (s.goOn i t.afterError)
    | _ => none
  | .memory i =>
    match s.ops.lookup i with
    | some (.running t .memory) => some (s.put (s.update t) i t.afterMemory)
    | _ => none

end Zecurity.SavedIdentity
