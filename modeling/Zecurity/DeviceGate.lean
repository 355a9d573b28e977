import Zecurity.ClientAcl

/-!
What a device's standing makes of its access-control list: the gate of the controller
(`controller/internal/client/service.go`, `deviceGate`, `GetACLSnapshot`; `watch_changes.go`,
`checkHintDevice`) and the client's handling of the answer (`client/src/daemon.rs`,
`fetch_acl_snapshot`, `sync_acl_now_with`, `react_to_device_directive`).

A directive takes the place of the list.
-/

namespace Zecurity.DeviceGate

open Acl Checks FiniteMap Runs
open ClientAcl (AclFetchOutcome DeviceDirective DeviceState)

/-- In nanoseconds. -/
abbrev Time := ℤ

/-! ### The controller -/

inductive DeviceStatus
  | active
  | reEnrollRequired
  | renewPending
  deriving DecidableEq

/-- A row of `client_devices`. -/
structure DeviceRow where
  userId : String
  workspaceId : String
  status : DeviceStatus
  revokedAt : Option Time
  certNotAfter : Option Time

structure AccessTokenClaims where
  userId : String
  tenantId : String

def clientCertTTL : Time := 7 * 24 * 3600 * 1000000000

def renewalWindow : Time := clientCertTTL * 2 / 5

/-- The certificate has a known end, and is inside its renewal window or past it. -/
def DeviceRow.renewalDue (row : DeviceRow) (now : Time) : Bool :=
  row.certNotAfter.any fun notAfter => decide (notAfter - now ≤ renewalWindow)

structure Gate where
  directive : Option DeviceDirective
  reason : String

def DeviceRow.gate (row : DeviceRow) (now : Time) : Gate :=
  if row.status = .reEnrollRequired then
    ⟨some .reEnrollRequired, "sign in again to re-register this device"⟩
  else if row.revokedAt.isSome then
    ⟨some .revoked, "device access revoked — contact your admin"⟩
  else if row.renewalDue now then
    ⟨some .renewSoon, "certificate renewal due soon"⟩
  else ⟨none, ""⟩

def deviceGate (devices : Map String DeviceRow) (deviceId : String) (claims : AccessTokenClaims)
    (now : Time) : Except String Gate := do
  let row ← orFail "device not found: no rows in result set"
    ((devices.lookup deviceId).filter fun row => row.userId == claims.userId)
  ensure (row.workspaceId = claims.tenantId) "device does not belong to this user"
  return row.gate now

inductive Code
  | invalidArgument
  | unauthenticated
  | permissionDenied
  | failedPrecondition
  | internal

structure Status where
  code : Code
  message : String

def directiveName : DeviceDirective → String
  | .revoked => "DIRECTIVE_REVOKED"
  | .reEnrollRequired => "DIRECTIVE_RE_ENROLL_REQUIRED"
  | .renewSoon => "DIRECTIVE_RENEW_SOON"

structure Controller where
  verifyAccessToken : String → Except String AccessTokenClaims
  devices : Map String DeviceRow
  now : Time
  /-- `policyCache.GetOrCompile`, by workspace -/
  compile : String → Except String AclSnapshot

structure GetACLSnapshotRequest where
  accessToken : String
  deviceId : String
  knownVersion : UInt64

structure GetACLSnapshotResponse where
  snapshot : Option AclSnapshot
  upToDate : Bool
  deviceDirective : Option DeviceDirective
  directiveReason : String

def notOwned : Status :=
  ⟨.permissionDenied, "device not found or does not belong to this user"⟩

def Controller.getACLSnapshot (c : Controller) (req : GetACLSnapshotRequest) :
    Except Status GetACLSnapshotResponse :=
  if req.accessToken = "" ∨ req.deviceId = "" then
    .error ⟨.invalidArgument, "access_token and device_id are required"⟩
  else
    match c.verifyAccessToken req.accessToken with
    | .error err => .error ⟨.unauthenticated, "invalid access token: " ++ err⟩
    | .ok claims =>
      match deviceGate c.devices req.deviceId claims c.now with
      | .error _ => .error notOwned
      | .ok gate =>
        -- whichever directive it is, there is no payload
        if gate.directive ≠ none then .ok ⟨none, false, gate.directive, gate.reason⟩
        else
          match c.compile claims.tenantId with
          | .error err => .error ⟨.internal, "compile acl snapshot: " ++ err⟩
          | .ok snap =>
            if req.knownVersion ≠ 0 ∧ req.knownVersion = snap.version then
              .ok ⟨none, true, none, ""⟩
            else .ok ⟨some snap, false, none, ""⟩

/-- The same gate for the stream of change hints. -/
def Controller.checkHintDevice (c : Controller) (deviceId : String) (claims : AccessTokenClaims) :
    Except Status Unit :=
  match deviceGate c.devices deviceId claims c.now with
  | .error _ => .error notOwned
  | .ok gate =>
    match gate.directive with
    | none | some .renewSoon => .ok ()
    | some d =>
      .error ⟨.failedPrecondition,
        "device directive " ++ directiveName d ++ ": poll GetACLSnapshot"⟩

/-! ### The client -/

def fetchAclSnapshot : Except Status GetACLSnapshotResponse → Except String AclFetchOutcome
  | .error status => .error status.message
  | .ok resp =>
    match resp.deviceDirective with
    | some d => .ok (.directive d resp.directiveReason)
    | none =>
      if resp.upToDate then .ok .upToDate
      else (orFail "controller returned empty ACL snapshot" resp.snapshot).map .snapshot

/-- The part of `RuntimeState` that a sync reads and writes. -/
structure Client where
  acl : Option AclSnapshot
  blockedConnectors : List String
  aclLastSyncAt : Option Time
  aclLastOk : Option Time
  deviceState : DeviceState
  deviceStateReason : String
  renewalResync : Bool

structure AclSyncResult where
  version : UInt64
  entryCount : ℕ
  syncedAt : Time
  changed : Bool

/-- `react_to_device_directive`, as far as the list is concerned. -/
def Client.react (client : Client) (reason : String) : DeviceDirective → Client
  | .revoked =>
    { client with acl := none, deviceState := .revoked, deviceStateReason := reason }
  | .reEnrollRequired =>
    { client with acl := none, deviceState := .reEnrollRequired, deviceStateReason := reason }
  | .renewSoon => { client with renewalResync := true }

/-- The version that `sync_acl_now_with` sends. -/
def Client.knownVersion (client : Client) : UInt64 := (client.acl.map AclSnapshot.version).getD 0

/-- `sync_acl_now_with`, once the fetch has returned. -/
def Client.syncAclNowWith (client : Client) (now : Time) :
    Except String AclFetchOutcome → Client × Except String AclSyncResult
  | .error err => (client, .error err)
  | .ok .upToDate =>
    ({ client with aclLastSyncAt := some now, aclLastOk := some now },
      (orFail "controller reported ACL up_to_date but no cached snapshot" client.acl).map
        fun cached => ⟨cached.version, cached.entries.length, now, false⟩)
  | .ok (.snapshot snapshot) =>
    ({ client with
        acl := some snapshot
        blockedConnectors := revokedConnectorIds snapshot
        aclLastSyncAt := some now
        aclLastOk := some now },
      .ok ⟨snapshot.version, snapshot.entries.length, now,
        decide (client.acl.map AclSnapshot.version ≠ some snapshot.version)⟩)
  | .ok (.directive d reason) =>
    (client.react reason d,
      .error ("device directive received: " ++ directiveName d ++ " (" ++ reason ++ ")"))

def Client.poll (client : Client) (c : Controller) (accessToken deviceId : String) (now : Time) :
    Client × Except String AclSyncResult :=
  client.syncAclNowWith now
    (fetchAclSnapshot (c.getACLSnapshot ⟨accessToken, deviceId, client.knownVersion⟩))

/-! ### A poll of a device in good standing -/

/-- The request is authenticated and for a device of its user and workspace that is neither revoked
nor to be enrolled again. -/
structure Trusted (c : Controller) (accessToken deviceId : String) (claims : AccessTokenClaims)
    (row : DeviceRow) : Prop where
  token : accessToken ≠ ""
  device : deviceId ≠ ""
  verified : c.verifyAccessToken accessToken = .ok claims
  found : c.devices.lookup deviceId = some row
  user : row.userId = claims.userId
  workspace : row.workspaceId = claims.tenantId
  enrolled : row.status ≠ .reEnrollRequired
  notRevoked : row.revokedAt = none

variable {c : Controller} {accessToken deviceId : String} {claims : AccessTokenClaims}
  {row : DeviceRow}

section

variable (h : Trusted c accessToken deviceId claims row)
include h

lemma gate_of_trusted :
    row.gate c.now = if row.renewalDue c.now then ⟨some .renewSoon, "certificate renewal due soon"⟩
      else ⟨none, ""⟩ := by
  rw [DeviceRow.gate, if_neg h.enrolled, h.notRevoked]
  rfl

lemma deviceGate_of_trusted :
    deviceGate c.devices deviceId claims c.now = .ok (row.gate c.now) := by
  simp [deviceGate, bind_eq_ok, orFail_eq_ok, ensure_eq_ok, pure, Except.pure, h.found, h.user,
    h.workspace, Option.filter]

lemma checkHintDevice_of_trusted : c.checkHintDevice deviceId claims = .ok () := by
  simp only [Controller.checkHintDevice, deviceGate_of_trusted h, gate_of_trusted h]
  cases row.renewalDue c.now <;> rfl

lemma getACLSnapshot_in_window (hd : row.renewalDue c.now = true) (known : UInt64) :
    c.getACLSnapshot ⟨accessToken, deviceId, known⟩ =
      .ok ⟨none, false, some .renewSoon, "certificate renewal due soon"⟩ := by
  simp [Controller.getACLSnapshot, h.token, h.device, h.verified, deviceGate_of_trusted h,
    gate_of_trusted h, hd]

lemma getACLSnapshot_outside_window (hd : row.renewalDue c.now = false) {cur}
    (hc : c.compile claims.tenantId = .ok cur) (known : UInt64) :
    c.getACLSnapshot ⟨accessToken, deviceId, known⟩ =
      if known ≠ 0 ∧ known = cur.version then .ok ⟨none, true, none, ""⟩
      else .ok ⟨some cur, false, none, ""⟩ := by
  simp [Controller.getACLSnapshot, h.token, h.device, h.verified, deviceGate_of_trusted h,
    gate_of_trusted h, hd, hc]

lemma poll_in_window (hd : row.renewalDue c.now = true) (cl : Client) (now : Time) :
    (cl.poll c accessToken deviceId now).1 = { cl with renewalResync := true } := by
  rw [Client.poll, getACLSnapshot_in_window h hd]
  rfl

lemma poll_outside_window (hdue : row.renewalDue c.now = false) {current : AclSnapshot}
    (hc : c.compile claims.tenantId = .ok current) {cl : Client}
    (hd : cl.acl.map AclSnapshot.version ≠ some current.version) (now : Time) :
    (cl.poll c accessToken deviceId now).1.acl = some current := by
  -- a version that the client knows is the version of the snapshot that it holds
  have hk : ¬(cl.knownVersion ≠ 0 ∧ cl.knownVersion = current.version) := by
    rintro ⟨hne, heq⟩
    unfold Client.knownVersion at hne heq
    cases ha : cl.acl with
    | none => exact hne (by rw [ha]; rfl)
    | some acl =>
      rw [ha] at hd heq
      exact hd (congrArg some heq)
  rw [Client.poll, getACLSnapshot_outside_window h hdue hc, if_neg hk]
  rfl

end

/-- **The list reaches a device in good standing** exactly if its certificate is not inside its
renewal window: whatever version the device holds, if it is not the current one, a poll leaves the
device with the current snapshot. -/
theorem acl_reaches_device_iff (h : Trusted c accessToken deviceId claims row)
    {current : AclSnapshot} (hcurrent : c.compile claims.tenantId = .ok current) {client : Client}
    (hdiff : client.acl.map AclSnapshot.version ≠ some current.version) (now : Time) :
    (client.poll c accessToken deviceId now).1.acl = some current ↔
      row.renewalDue c.now = false := by
  refine ⟨fun ha => ?_, fun hd => poll_outside_window h hd hcurrent hdiff now⟩
  rw [← Bool.not_eq_true]
  intro hd
  rw [poll_in_window h hd] at ha
  exact hdiff (congrArg (Option.map AclSnapshot.version) ha)

/-! ### While renewals fail -/

structure State where
  controller : Controller
  client : Client

inductive Action
  | publish (workspaceId : String) (snapshot : AclSnapshot)
  | elapse (d : ℕ)
  | renewed (deviceId : String) (notAfter : Time)
  | renewalFailed
  | poll (accessToken deviceId : String) (now : Time)

def Controller.publish (c : Controller) (workspaceId : String) (snapshot : AclSnapshot) :
    Controller :=
  { c with compile := Function.update c.compile workspaceId (.ok snapshot) }

/-- `updateClientDeviceCertOnRenewal`, whose guard is the device's standing. -/
def Controller.renewed (c : Controller) (deviceId : String) (notAfter : Time) : Controller :=
  match c.devices.lookup deviceId with
  | some row =>
    if row.revokedAt = none ∧ row.status ≠ .reEnrollRequired then
      { c with devices :=
          c.devices.insert deviceId { row with certNotAfter := some notAfter } }
    else c
  | none => c

def step (s : State) : Action → Option State
  | .publish workspaceId snapshot =>
    some { s with controller := s.controller.publish workspaceId snapshot }
  | .elapse d => some { s with controller := { s.controller with now := s.controller.now + d } }
  | .renewed deviceId notAfter =>
    some { s with controller := s.controller.renewed deviceId notAfter }
  | .renewalFailed => some s
  | .poll accessToken deviceId now =>
    some { s with client := (s.client.poll s.controller accessToken deviceId now).1 }

lemma renewalDue_mono {now now'} (h : row.renewalDue now = true) (hle : now ≤ now') :
    row.renewalDue now' = true := by
  obtain ⟨exp, hs, hd⟩ := (Option.any_eq_true ..).1 h
  refine (Option.any_eq_true ..).2 ⟨exp, hs, ?_⟩
  rw [decide_eq_true_eq] at hd ⊢
  exact Int.le_trans (Int.sub_le_sub_left hle exp) hd

/-- As long as no renewal succeeds, a device whose certificate is inside its renewal window keeps
the list that it has, whatever is published and however often it polls, and its hint stream. -/
theorem acl_kept_in_window {s s' : State} {acts : List Action}
    (h : Trusted s.controller accessToken deviceId claims row)
    (hd : row.renewalDue s.controller.now = true)
    (hac : Meets step (fun _ a =>
      (∀ id exp, a ≠ .renewed id exp) ∧
        ∀ token id now, a = .poll token id now → token = accessToken ∧ id = deviceId) s acts)
    (he : exec step s acts = some s') : s'.client.acl = s.client.acl ∧
      s'.controller.checkHintDevice deviceId claims = .ok () := by
  suffices hi : Trusted s'.controller accessToken deviceId claims row ∧
      row.renewalDue s'.controller.now = true ∧ s'.client.acl = s.client.acl from
    ⟨hi.2.2, checkHintDevice_of_trusted hi.1⟩
  refine exec_inv_of_meets
    (I := fun u => Trusted u.controller accessToken deviceId claims row ∧
      row.renewalDue u.controller.now = true ∧ u.client.acl = s.client.acl)
    (fun u a u' hi hok hs => ?_) ⟨h, hd, rfl⟩ hac he
  obtain ⟨ht, hd, ha⟩ := hi
  cases a with
  | publish wid snap =>
    cases hs
    exact ⟨{ ht with }, hd, ha⟩
  | elapse d =>
    cases hs
    have hle : u.controller.now ≤ u.controller.now + d :=
      Int.le_add_of_nonneg_right (Int.natCast_nonneg d)
    exact ⟨{ ht with }, renewalDue_mono hd hle, ha⟩
  | renewed id exp => exact absurd rfl (hok.1 id exp)
  | renewalFailed =>
    cases hs
    exact ⟨ht, hd, ha⟩
  | poll token id now =>
    cases hs
    obtain ⟨rfl, rfl⟩ := hok.2 token id now rfl
    refine ⟨ht, hd, ?_⟩
    calc (u.client.poll u.controller token id now).1.acl
        = u.client.acl := by rw [poll_in_window ht hd]
      _ = s.client.acl := ha

/-! ### A certificate of seven days -/

def day : Time := 24 * 3600 * 1000000000

def wiki : AclEntry where
  resourceId := "wiki"
  address := "10.0.0.5"
  port := 443
  protocol := "tcp"
  allowedSpiffeIds := ["spiffe://w/d"]
  name := "wiki"
  routeType := "connector"
  shieldId := ""
  remoteNetworkId := "n"
  preferredConnectorId := ""

def granted : AclSnapshot := ⟨1, "w", 0, [wiki], "", "", [], []⟩
def withdrawn : AclSnapshot := ⟨2, "w", 0, [], "", "", [], []⟩

def owner : AccessTokenClaims := ⟨"u", "w"⟩

def issued : DeviceRow := ⟨"u", "w", .active, none, some (7 * day)⟩

def enrolled : State where
  controller := {
    verifyAccessToken := fun _ => .ok owner
    devices := AList.singleton "d" issued
    now := 0
    compile := fun _ => .ok granted }
  client := ⟨none, [], none, none, .active, "", false⟩

lemma trusted_enrolled : Trusted enrolled.controller "t" "d" owner issued where
  token := by decide
  device := by decide
  verified := rfl
  found := rfl
  user := rfl
  workspace := rfl
  enrolled := by decide
  notRevoked := rfl

theorem acl_reaches_device_iff_enrolled :
    (enrolled.client.poll enrolled.controller "t" "d" 0).1.acl = some granted ↔
      issued.renewalDue enrolled.controller.now = false :=
  acl_reaches_device_iff trusted_enrolled rfl (by decide) 0

/-- After five days renewals fail; access to the wiki is withdrawn; the device polls. -/
def withdrawal : List Action :=
  [.poll "t" "d" 0, .elapse (5 * day).toNat, .renewalFailed, .publish "w" withdrawn,
    .poll "t" "d" (5 * day), .renewalFailed, .elapse day.toNat, .renewalFailed,
    .poll "t" "d" (6 * day)]

/-- The device, whose hint stream is open, still has the list with the wiki. -/
theorem withdrawal_withheld :
    ∃ s, exec step enrolled withdrawal = some s ∧ s.client.acl = some granted ∧
      s.controller.compile "w" = .ok withdrawn ∧
      s.controller.checkHintDevice "d" owner = .ok () ∧ s.client.deviceState = .active :=
  ⟨_, rfl, rfl, rfl, rfl, rfl⟩

theorem acl_kept_in_window_withdrawal :
    ∃ s s', exec step enrolled (withdrawal.take 2) = some s ∧
      exec step s (withdrawal.drop 2) = some s' ∧ s'.client.acl = s.client.acl ∧
      s'.controller.checkHintDevice "d" owner = .ok () := by
  obtain ⟨s, s', hs, he, ht, hd⟩ : ∃ s s', exec step enrolled (withdrawal.take 2) = some s ∧
      exec step s (withdrawal.drop 2) = some s' ∧ Trusted s.controller "t" "d" owner issued ∧
      issued.renewalDue s.controller.now = true :=
    ⟨_, _, rfl, rfl, { trusted_enrolled with }, by decide⟩
  exact ⟨s, s', hs, he, acl_kept_in_window ht hd (.of_forall (by simp [withdrawal]) s) he⟩

end Zecurity.DeviceGate
