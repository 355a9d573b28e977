import Zecurity.ControlMessages
import Zecurity.ShieldAttachment

/-!
What a shield's messages cause at the controller (`connector/src/agent_server.rs`, the Control
stream of a shield, `drain_discovery_batch`, `drain_state_batch` and `stamp_shield_id`;
`connector/src/control_stream.rs`, the health and discovery ticks).

The connector keeps health, discovery and state under the id of the certificate and stamps it on
acks; upstream a state report goes as the shield has written it. What is buffered and sent carries
its sender along as history. The entries of a batch are messages of their own here, flushed in any
order.
-/

namespace Zecurity.ShieldVoice

open ControlMessages FiniteMap List Runs
open ResourceStore (ShieldId ShieldRow ResourceRow plain_r1)
open ShieldAttachment (shieldStaleThresholdSecs)

/-- With the shield that has sent it. -/
structure Sent (α : Type) where
  sender : ShieldId
  body : α

structure ShieldEntry where
  status : String
  version : String
  lastSeenUnix : ℤ
  lanIp : String

structure State where
  controller : Controller
  health : Map ShieldId (Sent ShieldEntry)
  acks : List (Sent ResourceAck)
  pendingDiscovery : Map ShieldId (Sent DiscoveryReport)
  pendingState : Map ShieldId (Sent ResourceStateReport)
  upstream : List (Sent Message)

def start (controller : Controller) : State where
  controller := controller
  health := ∅
  acks := []
  pendingDiscovery := ∅
  pendingState := ∅
  upstream := []

inductive Action
  | healthReport (sh : ShieldId) (version lanIp : String) (now : ℤ)
  | resourceAck (sh : ShieldId) (ack : ResourceAck)
  | discoveryReport (sh : ShieldId) (report : DiscoveryReport)
  | resourceState (sh : ShieldId) (report : ResourceStateReport)
  | goodbye (sh : ShieldId)
  | flushHealth (sh : ShieldId) (now : ℤ)
  | flushAck
  | flushDiscovery (sh : ShieldId)
  | flushState (sh : ShieldId)
  | handle (now : ℤ)
  | disconnect
  | elsewhere (controller : Controller)

def stampShieldId (ack : ResourceAck) (verifiedShieldId : ShieldId) : ResourceAck :=
  { ack with shieldId := verifiedShieldId }

def statusUpdate (sh : ShieldId) (e : ShieldEntry) : ShieldStatusUpdate :=
  ⟨sh, e.status, e.version, e.lanIp, e.lastSeenUnix⟩

def State.send (s : State) (sender : ShieldId) (m : Message) : State :=
  { s with upstream := s.upstream ++ [⟨sender, m⟩] }

/-- `client`: the connector's stream at the controller. -/
def step (client : Client) (s : State) : Action → Option State
  | .healthReport sh version lanIp now =>
    some { s with health := s.health.insert sh ⟨sh, "active", version, now, lanIp⟩ }
  | .resourceAck sh ack => some { s with acks := s.acks ++ [⟨sh, stampShieldId ack sh⟩] }
  | .discoveryReport sh report =>
    some { s with pendingDiscovery := s.pendingDiscovery.insert sh ⟨sh, report⟩ }
  | .resourceState sh report =>
    some { s with pendingState := s.pendingState.insert sh ⟨sh, report⟩ }
  | .goodbye sh => some { s with health := s.health.erase sh }
  | .flushHealth sh now =>
    (s.health.lookup sh).bind fun e =>
      if now - shieldStaleThresholdSecs ≤ e.body.lastSeenUnix then
        some (s.send e.sender (.shieldStatus [statusUpdate sh e.body]))
      else none
  | .flushAck =>
    match s.acks with
    | [] => none
    | a :: rest => some (({ s with acks := rest }).send a.sender (.resourceAcks [a.body]))
  | .flushDiscovery sh =>
    (s.pendingDiscovery.lookup sh).map fun r =>
      ({ s with pendingDiscovery := s.pendingDiscovery.erase sh }).send r.sender
        (.shieldDiscovery [⟨sh, some r.body⟩])
  | .flushState sh =>
    -- the key is dropped here
    (s.pendingState.lookup sh).map fun r =>
      ({ s with pendingState := s.pendingState.erase sh }).send r.sender (.resourceState [r.body])
  | .handle now =>
    match s.upstream with
    | [] => none
    | m :: rest =>
      some { s with
        controller := ControlMessages.handle s.controller client now m.body
        upstream := rest }
  | .disconnect => some { s with upstream := [] }
  | .elsewhere controller => some { s with controller := controller }

/-- The message that a step handles. -/
def Action.handled (s : State) : Action → Option (Sent Message)
  | .handle _ => s.upstream.head?
  | _ => none

/-- What a shield's message causes concerns this shield and the resources bound to it. -/
def SpeaksForItself (client : Client) (s : State) (a : Action) (s' : State) : Prop :=
  ∀ m ∈ a.handled s, Touches (· = m.sender) client.tenantId s.controller s'.controller

/-- The sender of a state report, and the shield that it names. -/
def Action.claims : Action → Option (ShieldId × ShieldId)
  | .resourceState sh report => some (sh, report.shieldId)
  | _ => none

/-- A state report names its sender. -/
def NamesSender (_ : State) (a : Action) : Prop := ∀ p ∈ a.claims, p.2 = p.1

instance (s : State) (a : Action) : Decidable (NamesSender s a) :=
  inferInstanceAs (Decidable (∀ p ∈ a.claims, p.2 = p.1))

/-! ### What is buffered is the sender's -/

structure Inv (s : State) : Prop where
  health : ∀ sh e, s.health.lookup sh = some e → e.sender = sh
  acks : ∀ a ∈ s.acks, a.body.shieldId = a.sender
  discovery : ∀ sh r, s.pendingDiscovery.lookup sh = some r → r.sender = sh
  state : ∀ sh r, s.pendingState.lookup sh = some r → r.body.shieldId = r.sender
  upstream : ∀ m ∈ s.upstream, About m.sender m.body

lemma inv_start (ctrl : Controller) : Inv (start ctrl) where
  health _ _ h := by cases h
  acks _ h := by cases h
  discovery _ _ h := by cases h
  state _ _ h := by cases h
  upstream _ h := by cases h

variable {a : Action} {cl : Client} {s s' : State}

lemma Inv.send (h : Inv s) {snd m} (hm : About snd m) : Inv (s.send snd m) := by
  refine { h with upstream := fun m' hm' => ?_ }
  rcases mem_append.1 hm' with hold | hn
  · exact h.upstream m' hold
  · rw [mem_singleton.1 hn]
    exact hm

lemma inv_step (h : Inv s) (hok : NamesSender s a) (hs : step cl s a = some s') : Inv s' := by
  cases a with
  | healthReport sh ver lanIp now =>
    cases hs
    exact { h with health := forall_lookup_insert h.health rfl }
  | resourceAck sh ack =>
    cases hs
    refine { h with acks := fun a ha => ?_ }
    rcases mem_append.1 ha with hold | hn
    · exact h.acks a hold
    · rw [mem_singleton.1 hn]
      rfl
  | discoveryReport sh rep =>
    cases hs
    exact { h with discovery := forall_lookup_insert h.discovery rfl }
  | resourceState sh rep =>
    cases hs
    exact { h with state := forall_lookup_insert h.state (hok _ rfl) }
  | goodbye sh =>
    cases hs
    exact { h with health := forall_lookup_erase h.health }
  | flushHealth sh now =>
    obtain ⟨e, he, -, ⟨⟩⟩ := bind_ite_eq_some.1 hs
    refine h.send fun u hu => ?_
    rw [mem_singleton.1 hu]
    exact (h.health sh e he).symm
  | flushAck =>
    change (match s.acks with | [] => none | a :: rest => _) = some s' at hs
    split at hs <;> cases hs
    next a rest hac =>
      have hrs : Inv { s with acks := rest } :=
        { h with acks := fun b hb => h.acks b (hac ▸ mem_cons_of_mem a hb) }
      refine hrs.send fun b hb => ?_
      rw [mem_singleton.1 hb]
      exact h.acks a (hac ▸ mem_cons_self)
  | flushDiscovery sh =>
    obtain ⟨r, hr, rfl⟩ := Option.map_eq_some_iff.1 hs
    have hrs : Inv { s with pendingDiscovery := s.pendingDiscovery.erase sh } :=
      { h with discovery := forall_lookup_erase h.discovery }
    refine hrs.send fun entry hen => ?_
    rw [mem_singleton.1 hen]
    exact (h.discovery sh r hr).symm
  | flushState sh =>
    obtain ⟨r, hr, rfl⟩ := Option.map_eq_some_iff.1 hs
    have hrs : Inv { s with pendingState := s.pendingState.erase sh } :=
      { h with state := forall_lookup_erase h.state }
    refine hrs.send fun rep hrp => ?_
    rw [mem_singleton.1 hrp]
    exact h.state sh r hr
  | handle now =>
    change (match s.upstream with | [] => none | m :: rest => _) = some s' at hs
    split at hs <;> cases hs
    next m rest hup =>
      have hrs : ∀ m' ∈ rest, About m'.sender m'.body := fun m' hm' =>
        h.upstream m' (hup ▸ mem_cons_of_mem m hm')
      exact { h with upstream := hrs }
  | disconnect =>
    cases hs
    exact { h with upstream := by rintro _ ⟨⟩ }
  | elsewhere ctrl =>
    cases hs
    exact { h with }

lemma speaksForItself_step (h : Inv s) (hs : step cl s a = some s') :
    SpeaksForItself cl s a s' := by
  intro m hm
  cases a with
  | handle now =>
    change (match s.upstream with | [] => none | m :: rest => _) = some s' at hs
    have hm : s.upstream.head? = some m := hm
    split at hs <;> cases hs
    next m' rest hu =>
      rw [hu] at hm
      obtain rfl := Option.some.inj hm
      exact touches_handle s.controller cl now (h.upstream m' (hu ▸ mem_cons_self))
  | _ => cases hm

/-- When state reports name their senders, a shield speaks only for itself. -/
theorem speaksForItself_of_namesSender (client : Client) (controller : Controller)
    (acts : List Action) (hok : Meets (step client) NamesSender (start controller) acts) :
    Always (step client) (SpeaksForItself client) (start controller) acts :=
  always_of_meets (fun _ _ _ h hok hs => inv_step h hok hs)
    (fun _ _ _ h _ hs => speaksForItself_step h hs) (inv_start controller) hok

/-! ### Two shields of one connector -/

def shieldRow : ShieldRow := ⟨"w", "n", "c", some "10.0.0.2", .active, false⟩

/-- A resource of the second shield that is being deleted. -/
def tombstone : ResourceRow where
  tenantId := "w"
  remoteNetworkId := "n"
  name := "web"
  host := "10.0.0.2"
  protocol := .tcp
  portFrom := 80
  portTo := 80
  status := .deleting
  pendingAction := .remove
  errorMessage := none
  appliedAt := none
  lastVerifiedAt := none
  updatedAt := 0
  shieldId := some "s2"

def twoShields : Controller where
  db :=
    { resources := (∅ : Map _ _).insert ⟨"r1", plain_r1⟩ tombstone
      shields := fun sh => if sh = "s1" ∨ sh = "s2" then some shieldRow else none
      networks := fun _ => none
      rules := [] }
  connectors := (∅ : Map _ _).insert "c" ⟨"w", "n", "w.example", ⟨.active, false⟩⟩
  beats := ∅
  counters _ := ⟨0, none⟩
  services := ∅
  scanRequests := ∅
  scanResults := ∅
  devices := ∅
  logs := []
  drift := ∅
  absent := ∅
  online := {"c"}
  sent := []
  versions _ := 0

def stream : Client := ⟨"c", "w"⟩

/-- A state report of a shield, handled by the controller; the resource that it lists is none of
the named shield's. -/
def reports (sender named : ShieldId) : List Action :=
  [.resourceState sender ⟨named, ["r9"]⟩, .flushState sender, .handle 0]

/-- Every kind of message, with the other shield's id where the connector overwrites it. -/
def honest : List Action :=
  [Action.healthReport "s1" "1" "10.0.0.1" 5, .flushHealth "s1" 10, .handle 10,
    .resourceAck "s1" ⟨"r1", "unprotected", "", 0, "s2", "", "", 0, 0⟩, .flushAck, .handle 11,
    .discoveryReport "s1" ⟨[⟨"tcp", 22, "0.0.0.0", "ssh"⟩], [], true⟩, .flushDiscovery "s1",
    .handle 12] ++ reports "s1" "s1" ++ reports "s1" "s1"

theorem speaksForItself_honest :
    Meets (step stream) NamesSender (start twoShields) honest ∧
      Always (step stream) (SpeaksForItself stream) (start twoShields) honest ∧
      (exec (step stream) (start twoShields) honest).map (fun s =>
        (s.controller.sent.map Push.shieldId, s.controller.services.keys,
          (s.controller.db.resources.lookup ⟨"r1", plain_r1⟩).isSome)) =
        some (["s1", "s1"], [("s1", "tcp", 22)], true) := by
  have hm : Meets (step stream) NamesSender (start twoShields) honest := by decide +kernel
  exact ⟨hm, speaksForItself_of_namesSender stream twoShields _ hm, by decide +kernel⟩

/-- The first shield reports twice in the name of the second, and a third report is on its way. -/
def impersonates : List Action :=
  reports "s1" "s2" ++ reports "s1" "s2" ++
    [.resourceState "s1" ⟨"s2", ["r9"]⟩, .flushState "s1"]

/-- The first shield has a snapshot pushed to the second, and its tombstone reaped. -/
theorem reports_in_another_name :
    ∃ s s' m, exec (step stream) (start twoShields) impersonates = some s ∧
      step stream s (.handle 0) = some s' ∧ Action.handled s (.handle 0) = some m ∧
      m.sender = "s1" ∧ s.controller.sent.map Push.shieldId = ["s2"] ∧
      s.controller.db.resources.lookup ⟨"r1", plain_r1⟩ = some tombstone ∧
      s'.controller.db.resources.lookup ⟨"r1", plain_r1⟩ = none ∧
      ¬ SpeaksForItself stream s (.handle 0) s' := by
  obtain ⟨s, hs, s', hs', m, hm, hsn, hsnt, hr, hg⟩ :
      ∃ s, exec (step stream) (start twoShields) impersonates = some s ∧
        ∃ s', step stream s (.handle 0) = some s' ∧
        ∃ m, Action.handled s (.handle 0) = some m ∧ m.sender = "s1" ∧
          s.controller.sent.map Push.shieldId = ["s2"] ∧
          s.controller.db.resources.lookup ⟨"r1", plain_r1⟩ = some tombstone ∧
          s'.controller.db.resources.lookup ⟨"r1", plain_r1⟩ = none := by
    decide +kernel
  refine ⟨s, s', m, hs, hs', hm, hsn, hsnt, hr, hg, fun hsp => ?_⟩
  have hk := (hsp m hm).kept _ tombstone hr (by
    rintro ⟨sh, hsh, rfl⟩
    rw [hsn] at hsh
    exact absurd hsh (by decide))
  rw [hg] at hk
  cases hk

end Zecurity.ShieldVoice
