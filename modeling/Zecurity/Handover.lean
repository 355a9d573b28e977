import Mathlib.Data.Finset.Basic

/-!
The drain of a renewed shield (`shield/src/control_stream.rs`, `hand_over` and
`handle_connector_msg`; `shield/src/tunnel.rs`, `send_upstream`, `refuse_tunnel_open` and
`handle_tunnel_open`).

`hand_over` takes the upstream of refusals away, handles what the old Control stream still has,
and sets the new upstream when that stream has ended; nothing else sets one meanwhile. What the
revocation list and the allowlist answer is part of a message, and so is the time that it takes
by itself. Times are in seconds.
-/

namespace Zecurity.Handover

def maxTunnels : ℕ := 256
def handoverGrace : ℕ := 15

structure TunnelHub where
  tunnels : Finset String
  count : ℕ
  /-- `false`: paused -/
  upstream : Bool

inductive Body
  /-- the acks, or the pong, cannot be sent if `sent` is `false` -/
  | resourceSnapshot (sent : Bool)
  | ping (sent : Bool)
  | reEnroll
  | tunnelOpen (connectionId : String) (cleared allowed : Bool)
  | tunnelClose (connectionId : String)
  | workspaceCrl (listsConnector : Bool)
  /-- a `ResourceInstruction`, `TunnelData` or a `PeerConnectorList` -/
  | ignored

structure Handled where
  hub : TunnelHub
  /-- the reason that `refuse_tunnel_open` sends -/
  refusal : Option String := none
  failed : Bool := false

def handleTunnelOpen (hub : TunnelHub) (connectionId : String) : Handled :=
  if maxTunnels ≤ hub.count then
    { hub, refusal := some "shield tunnel limit reached (256 per shield)" }
  else if connectionId ∈ hub.tunnels then { hub, refusal := some "tunnel id already in use" }
  else { hub := { hub with tunnels := insert connectionId hub.tunnels, count := hub.count + 1 } }

def handleConnectorMsg (hub : TunnelHub) : Body → Handled
  | .resourceSnapshot sent | .ping sent => { hub, failed := !sent }
  | .reEnroll | .ignored => { hub }
  | .tunnelOpen connectionId cleared allowed =>
    if !cleared then
      { hub, refusal := some "the connector is not cleared by the workspace CRL" }
    else if !allowed then
      { hub, refusal := some "destination is not a resource this shield protects" }
    else handleTunnelOpen hub connectionId
  | .tunnelClose connectionId => { hub := { hub with tunnels := hub.tunnels.erase connectionId } }
  | .workspaceCrl listsConnector => { hub, failed := listsConnector }

/-- When `send_upstream` returns. -/
def sendUpstream (hub : TunnelHub) (now : ℕ) : ℕ :=
  if hub.upstream then now else now + handoverGrace

inductive Event
  | message (body : Body) (arrival work : ℕ)
  | ends (connectionId : String)

/-- The tunnel that an event ends. -/
def Event.closes : Event → Option String
  | .message (.tunnelClose connectionId) .. | .ends connectionId => some connectionId
  | _ => none

def Event.refusal (hub : TunnelHub) : Event → Option String
  | .message body .. => (handleConnectorMsg hub body).refusal
  | .ends _ => none

/-- The hub, the time, and whether nothing has failed. -/
structure Drain where
  hub : TunnelHub
  now : ℕ
  ok : Bool := true

def Drain.next (d : Drain) : Event → Drain
  | .message body arrival work =>
    let start := max d.now arrival
    let handled := handleConnectorMsg d.hub body
    let returned := if handled.refusal.isSome then sendUpstream d.hub start else start
    ⟨handled.hub, returned + work, d.ok && !handled.failed⟩
  | .ends connectionId =>
    { d with
      hub := { d.hub with
        tunnels := d.hub.tunnels.erase connectionId, count := d.hub.count - 1 } }

def paused (hub : TunnelHub) (now : ℕ) : Drain := { hub := { hub with upstream := false }, now }

def drain (hub : TunnelHub) (now : ℕ) (events : List Event) : Drain :=
  events.foldl Drain.next (paused hub now)

/-- After a drain that fails or takes too long, `run_once` ends, and with it the tunnels. -/
def handOver (hub : TunnelHub) (now : ℕ) (events : List Event) : TunnelHub :=
  let d := drain hub now events
  if d.ok ∧ d.now ≤ now + handoverGrace then { d.hub with upstream := true }
  else { d.hub with tunnels := ∅ }

/-- When all is handled if each message takes only its own time. -/
def ownTime (now : ℕ) : List Event → ℕ
  | [] => now
  | .message _ arrival work :: events => ownTime (max now arrival + work) events
  | .ends _ :: events => ownTime now events

/-- **The condition.** No message is refused. -/
def NoRefusal (d : Drain) : List Event → Prop
  | [] => True
  | e :: events => e.refusal d.hub = none ∧ NoRefusal (d.next e) events

variable {d : Drain} {e : Event} {id : String} {evs : List Event}

lemma mem_handleConnectorMsg {hub body} (hid : id ∈ hub.tunnels) (h : body ≠ .tunnelClose id) :
    id ∈ (handleConnectorMsg hub body).hub.tunnels := by
  cases body with
  | tunnelOpen connectionId cleared allowed =>
    simp only [handleConnectorMsg, handleTunnelOpen]
    repeat' split
    all_goals simp [hid]
  | tunnelClose connectionId =>
    have hne : id ≠ connectionId := fun heq => h (by rw [heq])
    exact Finset.mem_erase.2 ⟨hne, hid⟩
  | _ => exact hid

lemma mem_next (hid : id ∈ d.hub.tunnels) (h : e.closes ≠ some id) :
    id ∈ (d.next e).hub.tunnels := by
  cases e with
  | message body arrival work =>
    refine mem_handleConnectorMsg hid ?_
    rintro rfl
    exact h rfl
  | ends connectionId =>
    have hne : id ≠ connectionId := fun heq => h (by rw [heq]; rfl)
    exact Finset.mem_erase.2 ⟨hne, hid⟩

lemma now_next (h : NoRefusal d (e :: evs)) :
    ownTime (d.next e).now evs = ownTime d.now (e :: evs) := by
  cases e with
  | message body arrival work =>
    have hn : (handleConnectorMsg d.hub body).refusal = none := h.1
    simp [Drain.next, ownTime, hn]
  | ends cid => rfl

lemma foldl_next : ∀ {d : Drain}, NoRefusal d evs →
    (evs.foldl Drain.next d).now = ownTime d.now evs ∧
      ∀ id ∈ d.hub.tunnels, (∀ e ∈ evs, e.closes ≠ some id) →
        id ∈ (evs.foldl Drain.next d).hub.tunnels := by
  induction evs with
  | nil => exact fun _ => ⟨rfl, fun _ hid _ => hid⟩
  | cons e evs ih =>
    intro d h
    obtain ⟨hnow, hk⟩ := ih h.2
    refine ⟨hnow.trans (now_next h), fun id hid hc => ?_⟩
    have hn := mem_next hid (hc e List.mem_cons_self)
    exact hk id hn fun e' he' => hc e' (List.mem_cons_of_mem e he')

/-- **A drain without refusals** takes the messages' own time, and closes no tunnel. -/
theorem handOver_of_noRefusal {hub : TunnelHub} {now : ℕ} {events : List Event}
    (h : NoRefusal (paused hub now) events) :
    (drain hub now events).now = ownTime now events ∧
      ((drain hub now events).ok = true → ownTime now events ≤ now + handoverGrace →
        ∀ id ∈ hub.tunnels, (∀ e ∈ events, e.closes ≠ some id) →
          id ∈ (handOver hub now events).tunnels) := by
  obtain ⟨hn, hk⟩ := foldl_next h
  refine ⟨hn, fun hok hg id hid hc => ?_⟩
  have hin : (drain hub now events).now ≤ now + handoverGrace := hn.trans_le hg
  rw [handOver, if_pos ⟨hok, hin⟩]
  exact hk id hid hc

def oneTunnel : TunnelHub := ⟨{"a"}, 1, true⟩

/-- The connector asks for another tunnel a second into the drain. -/
def asksFor (allowed : Bool) : List Event := [.message (.tunnelOpen "b" true allowed) 1 0]

theorem handOver_oneTunnel : "a" ∈ (handOver oneTunnel 0 (asksFor true)).tunnels := by
  have h : NoRefusal (paused oneTunnel 0) (asksFor true) := ⟨rfl, trivial⟩
  exact (handOver_of_noRefusal h).2 rfl (by decide) "a" (by decide) (by decide)

/-- One refusal keeps the drain waiting for all of its grace, and the tunnel is closed. -/
theorem refusal_closes_tunnels :
    ownTime 0 (asksFor false) = 1 ∧ (drain oneTunnel 0 (asksFor false)).now = 16 ∧
      (drain oneTunnel 0 (asksFor false)).ok = true ∧
      (handOver oneTunnel 0 (asksFor false)).tunnels = ∅ := by
  decide

end Zecurity.Handover
