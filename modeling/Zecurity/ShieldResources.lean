import Zecurity.NetAddr

/-!
The resources a shield protects (`shield/src/resources.rs`).

The shield keeps the active set in memory, with the generation of the last set it admitted and
the acks that its next health report will carry. An application replaces the active set, then
rebuilds the chain `resource_protect` in one nftables transaction, which may fail, and acks every
resource by the outcome. The clock, the address of the local network interface, which ports answer
and whether the kernel takes the transaction are arguments. Rules are kept as the protocol and the
ports they match.
-/

namespace Zecurity.ShieldResources

open NetAddr

structure ActiveResource where
  resourceId : String
  host : String
  protocol : String
  portFrom : UInt16
  portTo : UInt16

/-- A resource of a set, with its ports as `i32`. -/
structure ResourceInstruction where
  resourceId : String
  host : String
  protocol : String
  portFrom : Int
  portTo : Int

structure ResourceSetPayload where
  trustDomain : String
  shieldId : String
  generation : ℕ
  resources : List ResourceInstruction
  removes : List ResourceInstruction

inductive AckStatus
  | «protected»
  | failed
  | unprotected
  deriving DecidableEq

def AckStatus.text : AckStatus → String
  | .protected => "protected"
  | .failed => "failed"
  | .unprotected => "unprotected"

/-- The rule an ack is about. -/
structure AckRule where
  resourceId : String
  host : String
  protocol : String
  portFrom : Int
  portTo : Int

def ActiveResource.fields (r : ActiveResource) : AckRule :=
  ⟨r.resourceId, r.host, r.protocol, r.portFrom.toNat, r.portTo.toNat⟩

def ResourceInstruction.fields (r : ResourceInstruction) : AckRule :=
  ⟨r.resourceId, r.host, r.protocol, r.portFrom, r.portTo⟩

/-- `ResourceAck`; the connector fills in the shield's id. -/
structure ResourceAck where
  rule : AckRule
  status : AckStatus
  error : String
  verifiedAt : Int
  portReachable : Bool

def makeAck (rule : AckRule) (status : AckStatus) (error : String) (verifiedAt : Int)
    (portReachable : Bool) : ResourceAck :=
  ⟨rule, status, error, verifiedAt, portReachable⟩

def healthAck (rule : AckRule) (reachable : Bool) (verifiedAt : Int) : ResourceAck :=
  if reachable then makeAck rule .protected "" verifiedAt true
  else makeAck rule .failed "port not listening" verifiedAt false

structure SharedResourceState where
  active : List ActiveResource
  acks : List ResourceAck
  lastGeneration : Option ℕ
  stateSeq : ℕ

def SharedResourceState.new : SharedResourceState := ⟨[], [], none, 0⟩

/-! ### Admission -/

inductive Admission
  | apply
  | same
  | stale

def admitResourceSet (s : SharedResourceState) (generation floor : ℕ) :
    SharedResourceState × Admission :=
  if generation < floor then (s, .stale)
  else
    match s.lastGeneration with
    | some l =>
      if generation < l then (s, .stale)
      else if generation = l then (s, .same)
      else ({ s with lastGeneration := some generation }, .apply)
    | none => ({ s with lastGeneration := some generation }, .apply)

lemma admitResourceSet_apply {res generation floor}
    (h : (admitResourceSet res generation floor).2 = .apply) :
    (admitResourceSet res generation floor).1.lastGeneration = some generation ∧
      floor ≤ generation ∧ ∀ l, res.lastGeneration = some l → l < generation := by
  unfold admitResourceSet at h ⊢
  grind

/-! ### Tunnels -/

def ActiveResource.hasAddress (r : ActiveResource) (dest : IpAddr) (port : ℕ) : Bool :=
  parseIpAddr r.host == some dest && decide (r.portFrom.toNat ≤ port) &&
    decide (port ≤ r.portTo.toNat)

def allowsTunnel (active : List ActiveResource) (destination : String) (port : UInt32)
    (protocol : String) : Bool :=
  match parseIpAddr destination with
  | none => false
  | some dest =>
    if port.toNat < 65536 then
      let tunnelProto := if protocol = "udp" then "udp" else "tcp"
      active.any fun r => r.hasAddress dest port.toNat &&
        (r.protocol == tunnelProto || (r.protocol != "tcp" && r.protocol != "udp"))
    else false

/-! ### Acks -/

def storeAck (acks : List ResourceAck) (ack : ResourceAck) : List ResourceAck :=
  (acks.filter fun a => a.rule.resourceId ≠ ack.rule.resourceId) ++ [ack]

def storeAcks (acks fresh : List ResourceAck) : List ResourceAck := fresh.foldl storeAck acks

def validateHost (lanIp : Option String) (resourceHost : String) : Bool :=
  resourceHost = "127.0.0.1" || lanIp == some resourceHost

def checkPort (answers : SocketAddr → Bool) (host : String) (port : UInt16) : Bool :=
  match parseSocketAddr (host ++ ":" ++ port.toNat.repr) with
  | some addr => answers addr
  | none => false

/-- The acks of one round of `run_health_check_loop`. -/
def healthAcks (answers : SocketAddr → Bool) (now : Int) (resources : List ActiveResource) :
    List ResourceAck :=
  resources.map fun r => healthAck r.fields (checkPort answers r.host r.portFrom) now

/-! ### The ruleset -/

inductive Proto
  | tcp
  | udp

/-- A rule of the chain, for the ports from `portFrom` to `portTo`. -/
inductive Rule
  | iifAccept (proto : Proto) (portFrom portTo : UInt16) (iif : String)
  | sourceAccept (proto : Proto) (portFrom portTo : UInt16) (source : String)
  | portDrop (proto : Proto) (portFrom portTo : UInt16)

inductive NfCmd
  | addTable
  | addChain
  | flushChain
  | addRule (rule : Rule)

def protos (protocol : String) : List Proto :=
  if protocol = "tcp" then [.tcp] else if protocol = "udp" then [.udp] else [.tcp, .udp]

def resourceRules (r : ActiveResource) : List Rule :=
  (protos r.protocol).flatMap fun proto =>
    [.iifAccept proto r.portFrom r.portTo "lo",
      .sourceAccept proto r.portFrom r.portTo "127.0.0.0/8",
      .portDrop proto r.portFrom r.portTo]

def buildProtectRuleset (resources : List ActiveResource) : List NfCmd :=
  [NfCmd.addTable, .addChain, .flushChain] ++ (resources.flatMap resourceRules).map .addRule

def NfCmd.exec (chain : List Rule) : NfCmd → List Rule
  | .addTable => chain
  | .addChain => chain
  | .flushChain => []
  | .addRule rule => chain ++ [rule]

def commit (chain : List Rule) (cmds : List NfCmd) : List Rule := cmds.foldl NfCmd.exec chain

lemma foldl_addRule (chain rules : List Rule) :
    (rules.map NfCmd.addRule).foldl NfCmd.exec chain = chain ++ rules := by
  induction rules generalizing chain with
  | nil => simp
  | cons rule rest ih =>
    rw [List.map_cons, List.foldl_cons, ih]
    simp [NfCmd.exec]

lemma commit_buildProtectRuleset (chain : List Rule) (rs : List ActiveResource) :
    commit chain (buildProtectRuleset rs) = rs.flatMap resourceRules := by
  rw [commit, buildProtectRuleset, List.foldl_append, foldl_addRule]
  simp [NfCmd.exec]

/-! ### The application of a set -/

def toActive (res : ResourceInstruction) : ActiveResource :=
  ⟨res.resourceId, res.host, res.protocol, UInt16.ofInt res.portFrom, UInt16.ofInt res.portTo⟩

/-- The resources of a set that are on this host, and the acks of those that are not. -/
def validated (lanIp : Option String) (resources : List ResourceInstruction) :
    List ActiveResource :=
  (resources.filter fun res => validateHost lanIp res.host).map toActive

def hostAcks (lanIp : Option String) (now : Int) (resources : List ResourceInstruction) :
    List ResourceAck :=
  (resources.filter fun res => !validateHost lanIp res.host).map fun res =>
    makeAck res.fields .failed "resource host does not match this shield's IP" now false

/-- The first part of `apply_resource_set`: the active set becomes the validated contents. -/
def replaceActive (s : SharedResourceState) (lanIp : Option String)
    (payload : ResourceSetPayload) : SharedResourceState :=
  { s with active := validated lanIp payload.resources, stateSeq := s.stateSeq + 1 }

/-- The acks of the applied resources, by the outcome of the transaction. -/
def outcomeAcks (answers : SocketAddr → Bool) (now : Int) (applied : List ActiveResource) :
    Except String Unit → List ResourceAck
  | .ok () => healthAcks answers now applied
  | .error err => applied.map fun r => makeAck r.fields .failed err now false

def removeAcks (now : Int) (payload : ResourceSetPayload) : List ResourceAck :=
  payload.removes.map fun rm => makeAck rm.fields .unprotected "" now false

/-! ### What is acked as protected -/

lemma rule_healthAck (rule : AckRule) (reachable : Bool) (now : Int) :
    (healthAck rule reachable now).rule = rule := by
  cases reachable <;> rfl

lemma mem_storeAck {acks ack a} :
    a ∈ storeAck acks ack ↔ (a ∈ acks ∧ a.rule.resourceId ≠ ack.rule.resourceId) ∨ a = ack := by
  simp [storeAck]

lemma mem_storeAcks {acks fresh a} (h : a ∈ storeAcks acks fresh) :
    a ∈ fresh ∨ (a ∈ acks ∧ ∀ f ∈ fresh, a.rule.resourceId ≠ f.rule.resourceId) := by
  induction fresh generalizing acks with
  | nil => exact .inr ⟨h, by simp⟩
  | cons f rest ih =>
    rcases ih h with hr | ⟨hm, hne⟩
    · exact .inl (List.mem_cons_of_mem f hr)
    · rcases mem_storeAck.1 hm with ⟨ha, hf⟩ | rfl
      · exact .inr ⟨ha, List.forall_mem_cons.2 ⟨hf, hne⟩⟩
      · exact .inl List.mem_cons_self

end Zecurity.ShieldResources
