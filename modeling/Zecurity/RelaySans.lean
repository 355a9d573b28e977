import Zecurity.Compiler

/-!
The names and addresses of a relay's certificate: what `Create` accepts, the allowlist that
`Provision` makes of it, the check before the token is used, and the signer's own
(`controller/internal/relay/provision.go`, `controller/internal/pki/relay.go`).
-/

namespace Zecurity.RelaySans

open Compiler (relaySpiffeId)
open List

abbrev Name := List Char

/-- `unicode.ToLower`, `uuid.Parse` followed by `String`, and the addresses of the package `net`. -/
structure Go (IP : Type) where
  toLower : Char → Char
  toLower_toLower : ∀ c, toLower (toLower c) = toLower c
  canonicalID : String → Option String
  parseIP : String → Option IP
  string : IP → String
  equal : IP → IP → Bool

structure Csr (IP : Type) where
  signed : Bool
  uris : List String
  /-- The key is one of ECDSA P-384. -/
  p384 : Bool
  dnsNames : List Name
  ipAddresses : List IP

structure Allowlist (IP : Type) where
  dnsNames : List Name
  ipAddresses : List IP

def shaped (name : Name) : Bool := name ≠ [] && name.all fun c => c ≠ '*' && c ≠ ' ' && c ≠ '/'

def trimDot (name : Name) : Name := if name.getLast? = some '.' then name.dropLast else name

variable {IP : Type} (go : Go IP)

/-- `validateDNSSANs` returns the names as they are. -/
def Go.validateDNSSANs (values : List Name) : Option (List Name) :=
  if values.Nodup ∧ ∀ value ∈ values, shaped value ∧ value.map go.toLower = value then some values
  else none

def Go.validateIPSANs (values : List String) : Option (List IP) :=
  if values.Nodup then values.mapM fun value => (go.parseIP value).filter (go.string · = value)
  else none

def Go.canonicalDNSName (value : Name) : Option Name :=
  let name := trimDot (value.map go.toLower)
  if shaped name ∧ name.getLast? ≠ some '.' then some name else none

def Go.newRelaySANAllowlist (dns : List Name) (ips : List String) : Option (Allowlist IP) := do
  let names ← dns.mapM go.canonicalDNSName
  let ipAddresses ← ips.mapM go.parseIP
  some ⟨names.eraseDups, ipAddresses⟩

def Go.allowsIP (ips : List IP) (ip : IP) : Bool := ips.any (go.equal ip)

/-- The checks of the signature, the URI and the key. -/
def Csr.proper (csr : Csr IP) (relayId : String) : Bool :=
  csr.signed && csr.uris = [relaySpiffeId relayId] && csr.p384

def Go.precheckRelayCSR (relayId : String) (csr : Csr IP) (allow : Allowlist IP) : Bool :=
  csr.proper relayId &&
    csr.dnsNames.all (fun name => (go.canonicalDNSName name).any fun canonical =>
      canonical = name && canonical ∈ allow.dnsNames) &&
    csr.ipAddresses.all (go.allowsIP allow.ipAddresses)

def Go.validateRelayCSR (relayId : String) (csr : Csr IP) (dns : List Name) (ips : List IP) :
    Bool :=
  go.canonicalID relayId = some relayId && csr.proper relayId && csr.dnsNames.all (· ∈ dns) &&
    csr.ipAddresses.all (go.allowsIP ips)

section Lists

variable {α β : Type} {f : α → Option β} {l : List α}

lemma forall_mem_mapM {r} (h : l.mapM f = some r) : ∀ y ∈ r, ∃ x ∈ l, f x = some y := by
  induction l generalizing r with
  | nil => cases h; simp
  | cons a l ih =>
    rw [mapM_cons] at h
    obtain ⟨y, hy, h⟩ := Option.bind_eq_some_iff.1 h
    obtain ⟨r, hr, h⟩ := Option.bind_eq_some_iff.1 h
    cases h
    grind

lemma exists_mapM_iff : (∃ r, l.mapM f = some r) ↔ ∀ x ∈ l, ∃ y, f x = some y := by
  induction l with
  | nil => simp
  | cons a l ih =>
    simp only [mapM_cons, Option.bind_eq_bind, Option.bind_eq_some_iff, forall_mem_cons, ← ih]
    grind

end Lists

variable {go} {name value : Name} {dns : List Name} {ips : List String} {allow : Allowlist IP}

lemma mem_of_mem_trimDot {c} (h : c ∈ trimDot name) : c ∈ name := by
  unfold trimDot at h
  split_ifs at h
  · exact dropLast_subset _ h
  · exact h

lemma canonicalDNSName_eq_some : go.canonicalDNSName value = some name ↔
    name = trimDot (value.map go.toLower) ∧ shaped name ∧ name.getLast? ≠ some '.' := by
  simp only [Go.canonicalDNSName]
  split_ifs with hc <;> grind

lemma canonicalDNSName_self (h : go.canonicalDNSName value = some name) :
    go.canonicalDNSName name = some name := by
  obtain ⟨he, hs, hd⟩ := canonicalDNSName_eq_some.1 h
  have hl : name.map go.toLower = name := by
    refine (map_congr_left fun c hm => ?_).trans name.map_id
    obtain ⟨d, -, rfl⟩ := mem_map.1 (mem_of_mem_trimDot (he ▸ hm))
    exact go.toLower_toLower d
  exact canonicalDNSName_eq_some.2 ⟨by rw [hl, trimDot, if_neg hd], hs, hd⟩

lemma canonical_of_mem (h : go.newRelaySANAllowlist dns ips = some allow)
    (hm : name ∈ allow.dnsNames) : go.canonicalDNSName name = some name := by
  obtain ⟨names, hn, h⟩ := Option.bind_eq_some_iff.1 h
  obtain ⟨as, -, h⟩ := Option.bind_eq_some_iff.1 h
  cases h
  obtain ⟨value, -, hv⟩ := forall_mem_mapM hn name (mem_eraseDups.1 hm)
  exact canonicalDNSName_self hv

/-- No empty label at the end, apart from the root's. -/
def Closed (name : Name) : Prop := trimDot name ≠ [] ∧ (trimDot name).getLast? ≠ some '.'

lemma canonicalDNSName_isSome_iff (hs : shaped name) (hl : name.map go.toLower = name) :
    (∃ n, go.canonicalDNSName name = some n) ↔ Closed name := by
  simp only [canonicalDNSName_eq_some, hl]
  constructor
  · rintro ⟨_, rfl, ht, hd⟩
    refine ⟨?_, hd⟩
    rintro hn
    rw [hn] at ht
    cases ht
  · rintro ⟨hn, hd⟩
    refine ⟨_, rfl, ?_, hd⟩
    simp only [shaped, Bool.and_eq_true, decide_eq_true_eq, all_eq_true] at hs ⊢
    exact ⟨hn, fun c hm => hs.2 c (mem_of_mem_trimDot hm)⟩

lemma exists_parseIPs {as} (hi : go.validateIPSANs ips = some as) :
    ∃ r, (as.map go.string).mapM go.parseIP = some r := by
  unfold Go.validateIPSANs at hi
  split_ifs at hi
  refine exists_mapM_iff.2 fun value hm => ?_
  obtain ⟨ip, ha, rfl⟩ := mem_map.1 hm
  obtain ⟨value, -, hp⟩ := forall_mem_mapM hi ip ha
  obtain ⟨hp, hs⟩ := Option.filter_eq_some_iff.1 hp
  exact ⟨ip, of_decide_eq_true hs ▸ hp⟩

lemma exists_allowlist_iff {names as} (hd : go.validateDNSSANs dns = some names)
    (hi : go.validateIPSANs ips = some as) :
    (∃ allow, go.newRelaySANAllowlist names (as.map go.string) = some allow) ↔
      ∀ name ∈ names, Closed name := by
  unfold Go.validateDNSSANs at hd
  split_ifs at hd with hv
  cases hd
  obtain ⟨is, hp⟩ := exists_parseIPs hi
  have hn : (∀ name ∈ dns, Closed name) ↔ ∃ r, dns.mapM go.canonicalDNSName = some r := by
    rw [exists_mapM_iff]
    exact forall₂_congr fun name hm =>
      (canonicalDNSName_isSome_iff (hv.2 name hm).1 (hv.2 name hm).2).symm
  simp only [hn, Go.newRelaySANAllowlist, hp, Option.bind_eq_bind, Option.bind_eq_some_iff]
  grind

/-- **What `Create` accepts can be provisioned** exactly where no name ends with an empty label; and
for each allowlist that is built the check before the token is used agrees with the signer's, whose
certificate has the names and addresses of the CSR. -/
theorem precheck_eq_validate : (∀ dns ips names as, go.validateDNSSANs dns = some names →
      go.validateIPSANs ips = some as →
      ((∃ allow, go.newRelaySANAllowlist names (as.map go.string) = some allow) ↔
        ∀ name ∈ names, Closed name)) ∧
    ∀ dns ips allow, go.newRelaySANAllowlist dns ips = some allow →
      ∀ rid csr, go.canonicalID rid = some rid → go.precheckRelayCSR rid csr allow =
          go.validateRelayCSR rid csr allow.dnsNames allow.ipAddresses ∧
        (go.validateRelayCSR rid csr allow.dnsNames allow.ipAddresses →
          (∀ name ∈ csr.dnsNames, name ∈ allow.dnsNames ∧ go.canonicalDNSName name = some name) ∧
          ∀ ip ∈ csr.ipAddresses, ∃ a ∈ allow.ipAddresses, go.equal ip a) := by
  refine ⟨fun _ _ _ _ hd hi => exists_allowlist_iff hd hi,
    fun dns ips allow h rid csr hr => ⟨?_, fun hv => ?_⟩⟩
  · have hn : ∀ name, ((go.canonicalDNSName name).any fun c => c = name && c ∈ allow.dnsNames) =
        decide (name ∈ allow.dnsNames) := by
      intro name
      by_cases hm : name ∈ allow.dnsNames
      · simp [hm, canonical_of_mem h hm]
      · cases go.canonicalDNSName name <;> grind
    simp [Go.precheckRelayCSR, Go.validateRelayCSR, hn, hr]
  · simp only [Go.validateRelayCSR, Go.allowsIP, Bool.and_eq_true, all_eq_true, any_eq_true,
      decide_eq_true_eq] at hv
    exact ⟨fun name hm => ⟨hv.1.2 name hm, canonical_of_mem h (hv.1.2 name hm)⟩, hv.2⟩

lemma toLower_toLower (c : Char) : c.toLower.toLower = c.toLower := by
  by_cases h : c.val ≥ 'A'.val ∧ c.val ≤ 'Z'.val
  · rw [show c.toLower = _ from dif_pos h]
    exact dif_neg (by grind)
  · rw [show c.toLower = c from dif_neg h]
    exact dif_neg h

def ascii : Go String where
  toLower := Char.toLower
  toLower_toLower := toLower_toLower
  canonicalID := some
  parseIP := some
  string := id
  equal := (· == ·)

def plainCsr : Csr String := ⟨true, [relaySpiffeId "i"], true, [['r']], ["::1"]⟩

/-- A name with the root's dot and an address: the allowlist has the name without the dot, and a
CSR with that name is accepted by both. -/
theorem precheck_eq_validate_rooted :
    ∃ allow, ascii.newRelaySANAllowlist [['r', '.']] ["::1"] = some allow ∧
      ascii.precheckRelayCSR "i" plainCsr allow = true ∧
      ascii.validateRelayCSR "i" plainCsr allow.dnsNames allow.ipAddresses = true := by
  obtain ⟨hex, hag⟩ := @precheck_eq_validate String ascii
  obtain ⟨allow, h⟩ := (hex [['r', '.']] ["::1"] [['r', '.']] ["::1"] rfl rfl).2
    (by simp [Closed, trimDot])
  have hp : ascii.precheckRelayCSR "i" plainCsr allow = true := by
    cases h
    decide +kernel
  exact ⟨allow, h, hp, (hag _ _ allow h "i" plainCsr rfl).1 ▸ hp⟩

theorem root_unprovisionable : ascii.validateDNSSANs [['.']] = some [['.']] ∧
    ascii.newRelaySANAllowlist [['.']] [] = none :=
  ⟨rfl, rfl⟩

end Zecurity.RelaySans
