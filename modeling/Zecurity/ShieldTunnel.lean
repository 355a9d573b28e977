import Zecurity.Acl
import Zecurity.ShieldResources

/-!
The tunnels a shield opens (`allows_tunnel` of `shield/src/resources.rs`, `TunnelOpen` in
`shield/src/control_stream.rs`, `connect_resource` of `shield/src/tunnel.rs`).

The operating system is a structure of its answers, with two documented properties: a lookup of an
IPv6 address in text form answers that address, and a UDP socket bound to an IPv4 address connects
to no IPv6 address. The refusals before the connect (the revocation list, the tunnel limit, an id
in use) only let fewer tunnels through.
-/

namespace Zecurity.ShieldTunnel

open NetAddr ShieldResources Acl List

structure TunnelOpen where
  destination : String
  port : UInt32
  protocol : String

inductive Transport
  | tcp
  | udp

def Transport.text : Transport → String
  | .tcp => "tcp"
  | .udp => "udp"

/-- A socket, and what it is connected to. -/
structure Socket where
  transport : Transport
  remote : SocketAddr

structure Os where
  lookupHost : String → Except String (List IpAddr)
  udpBind : Except String Unit
  udpConnect : SocketAddr → Except String Unit
  tcpConnect : SocketAddr → Except String Unit
  /-- the connect takes longer than `CONNECT_TIMEOUT` -/
  timesOut : Bool
  numericHost : ∀ host ip ips, parseIpAddr host = some ip → lookupHost host = .ok ips →
    ∀ x ∈ ips, x = ip
  udpFamily : ∀ addr, udpConnect addr = .ok () → addr.ip.isV4 = true

/-- The loop of `connect` over the addresses: the first that answers, or the last error. -/
def connectFirst (connect : SocketAddr → Except String Unit) :
    List SocketAddr → String → Except String SocketAddr
  | [], lastErr => .error lastErr
  | addr :: rest, _ =>
    match connect addr with
    | .ok () => .ok addr
    | .error err => connectFirst connect rest err

def connectAddrs (os : Os) (connect : SocketAddr → Except String Unit) (addr : String) :
    Except String SocketAddr :=
  match toSocketAddrs os.lookupHost addr with
  | .error err => .error err
  | .ok addrs => connectFirst connect addrs "could not resolve to any address"

def isUdp (protocol : String) : Bool := eqIgnoreAsciiCase protocol "udp"

def connectResource (os : Os) (tunnel : TunnelOpen) : Except String Socket :=
  let addr := tunnel.destination ++ ":" ++ tunnel.port.toNat.repr
  if isUdp tunnel.protocol then
    match os.udpBind with
    | .error err => .error err
    | .ok () => (connectAddrs os os.udpConnect addr).map fun remote => ⟨.udp, remote⟩
  else if os.timesOut then .error "connect timeout"
  else (connectAddrs os os.tcpConnect addr).map fun remote => ⟨.tcp, remote⟩

/-- `handle_connector_msg` for a `TunnelOpen`, up to the connect. -/
def openTunnel (os : Os) (active : List ActiveResource) (tunnel : TunnelOpen) :
    Except String Socket :=
  if allowsTunnel active tunnel.destination tunnel.port tunnel.protocol then
    connectResource os tunnel
  else .error "destination is not a resource this shield protects"

/-! ### The property and its condition -/

/-- An active resource has the socket's address and port, and its transport or `any`. -/
def Covered (active : List ActiveResource) (socket : Socket) : Prop :=
  ∃ r ∈ active, r.hasAddress socket.remote.ip socket.remote.port = true ∧
    (r.protocol = "any" ∨ r.protocol = socket.transport.text)

def transport (protocol : String) : Transport := if isUdp protocol then .udp else .tcp

/-- A resource with the tunnel's address and port that is of another protocol than `tcp`, `udp`
and `any`, or of `tcp` where the tunnel says `udp` in other letters than these, is not the only
one: another one has the transport or `any`. UDP to an IPv6 address is never opened. -/
def SpelledAsChecked (active : List ActiveResource) (tunnel : TunnelOpen) : Prop :=
  ∀ ip, parseIpAddr tunnel.destination = some ip → tunnel.port.toNat < 65536 →
    (isUdp tunnel.protocol = true → ip.isV4 = true) →
    ∀ r ∈ active, r.hasAddress ip tunnel.port.toNat = true →
      (r.protocol = "tcp" ∧ isUdp tunnel.protocol = true ∧ tunnel.protocol ≠ "udp" ∨
        r.protocol ∉ ["tcp", "udp", "any"]) →
      ∃ r' ∈ active, r'.hasAddress ip tunnel.port.toNat = true ∧
        (r'.protocol = "any" ∨ r'.protocol = (transport tunnel.protocol).text)

/-! ### What is opened -/

variable {connect : SocketAddr → Except String Unit} {addr : SocketAddr} {os : Os}
  {destination : String} {ip : IpAddr} {port : ℕ} {tunnel : TunnelOpen}

lemma connectFirst_ok {addrs err} (h : connectFirst connect addrs err = .ok addr) :
    addr ∈ addrs ∧ connect addr = .ok () := by
  induction addrs generalizing err with
  | nil => cases h
  | cons first rest ih =>
    rw [connectFirst] at h
    grind

lemma connectAddrs_ok (hip : parseIpAddr destination = some ip) (hp : port ≤ 65535)
    (h : connectAddrs os connect (destination ++ ":" ++ port.repr) = .ok addr) :
    addr.ip = ip ∧ addr.port = port ∧ connect addr = .ok () := by
  delta connectAddrs at h
  rw [toSocketAddrs_ip hp hip] at h
  by_cases hv4 : ip.isV4 = true
  · rw [if_pos hv4] at h
    obtain ⟨hm, hc⟩ := connectFirst_ok h
    obtain rfl := mem_singleton.1 hm
    exact ⟨rfl, rfl, hc⟩
  · rw [if_neg hv4] at h
    rcases hlookup : os.lookupHost destination with err | ips
    · rw [hlookup] at h
      cases h
    · rw [hlookup] at h
      obtain ⟨hm, hc⟩ := connectFirst_ok h
      obtain ⟨x, hx, rfl⟩ := mem_map.1 hm
      exact ⟨os.numericHost destination ip ips hip hlookup x hx, rfl, hc⟩

lemma map_eq_ok {α β : Type} {x : Except String α} {f : α → β} {b : β} (h : x.map f = .ok b) :
    ∃ a, x = .ok a ∧ f a = b := by
  cases x with
  | error err => cases h
  | ok a => exact ⟨a, rfl, Except.ok.inj h⟩

/-- **The socket of a tunnel** has the address and port that the check has read, and the
transport of the protocol in any letter case. -/
lemma connectResource_ok {socket : Socket} (hip : parseIpAddr tunnel.destination = some ip)
    (hp : tunnel.port.toNat < 65536) (h : connectResource os tunnel = .ok socket) :
    socket.remote.ip = ip ∧ socket.remote.port = tunnel.port.toNat ∧
      socket.transport = transport tunnel.protocol ∧
      (isUdp tunnel.protocol = true → ip.isV4 = true) := by
  have hp' : tunnel.port.toNat ≤ 65535 := Nat.le_of_lt_succ hp
  unfold connectResource at h
  simp only at h
  by_cases hu : isUdp tunnel.protocol = true
  · rw [if_pos hu] at h
    split at h
    · cases h
    · obtain ⟨rem, hr, rfl⟩ := map_eq_ok h
      obtain ⟨hri, hrp, hc⟩ := connectAddrs_ok hip hp' hr
      exact ⟨hri, hrp, by simp [transport, hu], fun _ => hri ▸ os.udpFamily rem hc⟩
  · rw [if_neg hu] at h
    split at h
    · cases h
    · obtain ⟨rem, hr, rfl⟩ := map_eq_ok h
      obtain ⟨hri, hrp, -⟩ := connectAddrs_ok hip hp' hr
      exact ⟨hri, hrp, by simp [transport, hu], fun h => absurd h hu⟩

/-- A system on which every connect succeeds that can. -/
def reachable : Os where
  lookupHost := fun host =>
    match parseIpAddr host with
    | some ip => .ok [ip]
    | none => .error "Name or service not known"
  udpBind := .ok ()
  udpConnect := fun addr =>
    if addr.ip.isV4 then .ok () else .error "Address family not supported by protocol"
  tcpConnect := fun _ => .ok ()
  timesOut := false
  numericHost := by
    intro host ip ips hip hlookup x hx
    rw [hip] at hlookup
    cases hlookup
    exact List.mem_singleton.1 hx
  udpFamily := by
    intro addr h
    split at h
    · assumption
    · cases h

lemma toSocketAddrs_reachable (hip : parseIpAddr destination = some ip) (hp : port ≤ 65535) :
    toSocketAddrs reachable.lookupHost (destination ++ ":" ++ port.repr) = .ok [⟨ip, port, 0⟩] := by
  rw [toSocketAddrs_ip hp hip]
  split
  · rfl
  · simp only [reachable, hip]
    rfl

lemma connectResource_reachable (hip : parseIpAddr tunnel.destination = some ip)
    (hp : tunnel.port.toNat < 65536) (hu : isUdp tunnel.protocol = true → ip.isV4 = true) :
    connectResource reachable tunnel =
      .ok ⟨transport tunnel.protocol, ⟨ip, tunnel.port.toNat, 0⟩⟩ := by
  have ha := toSocketAddrs_reachable hip (Nat.le_of_lt_succ hp)
  unfold connectResource transport connectAddrs
  simp only [ha]
  by_cases h : isUdp tunnel.protocol = true
  · simp [h, reachable, connectFirst, hu h, Except.map]
  · simp [h, reachable, connectFirst, Except.map]

/-! ### The check -/

lemma allowsTunnel_iff {active} :
    allowsTunnel active tunnel.destination tunnel.port tunnel.protocol = true ↔
      ∃ ip, parseIpAddr tunnel.destination = some ip ∧ tunnel.port.toNat < 65536 ∧
        ∃ r ∈ active, r.hasAddress ip tunnel.port.toNat = true ∧
          (r.protocol = (if tunnel.protocol = "udp" then "udp" else "tcp") ∨
            r.protocol ≠ "tcp" ∧ r.protocol ≠ "udp") := by
  unfold allowsTunnel
  grind

lemma transport_text_of_ne {proto} (h : ¬(isUdp proto = true ∧ proto ≠ "udp")) :
    (transport proto).text = if proto = "udp" then "udp" else "tcp" := by
  by_cases he : proto = "udp"
  · subst he
    rfl
  · have hu : isUdp proto = false := by
      by_contra hne
      exact h ⟨by simpa using hne, he⟩
    simp [transport, hu, he, Transport.text]

/-- **When every socket is covered.** For every active set and every request: all sockets that
a system can open for it are to a resource of the set, on its ports and transport, exactly if no
resource is let through by another spelling of `udp` or by a protocol of its own alone. -/
theorem covered_iff_spelledAsChecked (active : List ActiveResource) (tunnel : TunnelOpen) :
    (∀ os socket, openTunnel os active tunnel = .ok socket → Covered active socket) ↔
      SpelledAsChecked active tunnel := by
  constructor
  · intro hc ip hip hprt hu r hr ha hp
    have hal : allowsTunnel active tunnel.destination tunnel.port tunnel.protocol = true := by
      refine allowsTunnel_iff.2 ⟨ip, hip, hprt, r, hr, ha, ?_⟩
      rcases hp with ⟨htcp, -, hs⟩ | ho
      · rw [if_neg hs]
        exact .inl htcp
      · simp only [mem_cons, not_mem_nil, or_false, not_or] at ho
        exact .inr ⟨ho.1, ho.2.1⟩
    have hopn : openTunnel reachable active tunnel =
        .ok ⟨transport tunnel.protocol, ⟨ip, tunnel.port.toNat, 0⟩⟩ := by
      rw [openTunnel, if_pos hal]
      exact connectResource_reachable hip hprt hu
    exact hc reachable _ hopn
  · intro hs os socket hopn
    rw [openTunnel] at hopn
    split at hopn
    · next hal =>
      obtain ⟨ip, hip, hprt, r, hr, ha, hp⟩ := allowsTunnel_iff.1 hal
      obtain ⟨hri, hrp, ht, hu⟩ := connectResource_ok hip hprt hopn
      unfold Covered
      rw [hri, hrp, ht]
      by_cases ho : r.protocol ∉ ["tcp", "udp", "any"]
      · exact hs ip hip hprt hu r hr ha (.inr ho)
      by_cases hcs : isUdp tunnel.protocol = true ∧ tunnel.protocol ≠ "udp"
      · -- another spelling of udp: what passed as TCP
        rw [if_neg hcs.2] at hp
        rcases hp with htcp | ⟨htcp, hu'⟩
        · exact hs ip hip hprt hu r hr ha (.inl ⟨htcp, hcs⟩)
        · simp only [mem_cons, not_mem_nil, or_false, not_not, htcp, hu', false_or] at ho
          exact ⟨r, hr, ha, .inl ho⟩
      · refine ⟨r, hr, ha, ?_⟩
        rw [transport_text_of_ne hcs]
        rcases hp with hpr | ⟨htcp, hu'⟩
        · exact .inr hpr
        · simp only [mem_cons, not_mem_nil, or_false, not_not, htcp, hu', false_or] at ho
          exact .inl ho
    · cases hopn

/-! ### A name server's TCP port asked for as `UDP` -/

/-- The shield protects TCP port 53 of its host. -/
def tcpDns : List ActiveResource := [⟨"res-1", "10.0.0.5", "tcp", 53, 53⟩]

theorem udp_opened_for_tcp_resource :
    ∃ socket, openTunnel reachable tcpDns ⟨"10.0.0.5", 53, "UDP"⟩ = .ok socket ∧
      socket.transport = .udp ∧ ¬ Covered tcpDns socket := by
  refine ⟨⟨.udp, ⟨ofOctets [10, 0, 0, 5], 53, 0⟩⟩, ?_, rfl, ?_⟩
  · rfl
  · rintro ⟨r, hr, -, hp⟩
    obtain rfl := mem_singleton.1 hr
    revert hp
    decide

end Zecurity.ShieldTunnel
