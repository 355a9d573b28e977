import Mathlib.Data.Fin.VecNotation
import Zecurity.FiniteMap
import Zecurity.NetAddr
import Zecurity.Runs

/-!
Fake addresses for DNS-name resources (`client/src/name_map.rs`).

A name gets an address of the pool `198.18.0.1` to `198.18.255.254`: the slot it hashes to, or the
next free one. The two maps of a `NameMap` are inverse to each other and only grow. A literal
inside `198.18.0.0/15` is noted as a conflict, and while there is one no name gets an address; but
a name that had one keeps it, and the conflicts are forgotten when the tunnel goes down.
-/

namespace Zecurity.FakeAddresses

open FiniteMap List NetAddr Runs

@[ext]
structure Ipv4Addr where
  a : UInt8
  b : UInt8
  c : UInt8
  d : UInt8
  deriving DecidableEq

def Ipv4Addr.ofOctets (octets : Fin 4 → ℕ) : Ipv4Addr :=
  ⟨(octets 0).toUInt8, (octets 1).toUInt8, (octets 2).toUInt8, (octets 3).toUInt8⟩

def Ipv4Addr.octets (ip : Ipv4Addr) : Fin 4 → ℕ :=
  ![ip.a.toNat, ip.b.toNat, ip.c.toNat, ip.d.toNat]

def toU32 (ip : Ipv4Addr) : ℕ :=
  ip.a.toNat * 16777216 + ip.b.toNat * 65536 + ip.c.toNat * 256 + ip.d.toNat

def ofU32 (n : ℕ) : Ipv4Addr :=
  ⟨(n / 16777216).toUInt8, (n / 65536).toUInt8, (n / 256).toUInt8, n.toUInt8⟩

def poolFirst : ℕ := toU32 ⟨198, 18, 0, 1⟩

def poolLast : ℕ := toU32 ⟨198, 18, 255, 254⟩

def poolSize : ℕ := poolLast - poolFirst + 1

/-- An address that can be handed out. -/
def inPool (ip : Ipv4Addr) : Bool := poolFirst ≤ toU32 ip && toU32 ip ≤ poolLast

def inReservedRange (ip : Ipv4Addr) : Bool := ip.a == 198 && (ip.b == 18 || ip.b == 19)

def literalOf (address : String) : Option Ipv4Addr :=
  match parseIpAddr address with
  | some (.v4 octets) => some (.ofOctets octets)
  | _ => none

def isAsciiLowercase (c : Char) : Bool := 'a' ≤ c && c ≤ 'z'

def labelOk (l : List Char) : Bool :=
  l ≠ [] && l.length ≤ 63 && l.head? ≠ some '-' && l.getLast? ≠ some '-' &&
    l.all fun c => isAsciiLowercase c || c.isDigit || c == '-'

def isResourceName (address : String) : Bool :=
  let labels := address.toList.splitOn '.'
  !(address.isEmpty || 253 < address.utf8ByteSize || (parseIpAddr address).isSome) &&
    2 ≤ labels.length && labels.all labelOk && (labels.getLast?.any (·.any isAsciiLowercase))

/-- The pool slot a name hashes to: FNV-1a 64 of its bytes. -/
def homeSlot (name : String) : ℕ :=
  let h : UInt64 := name.toByteArray.data.toList.foldl
    (fun h b => (h ^^^ b.toUInt64) * 0x00000100000001b3) 0xcbf29ce484222325
  h.toNat % poolSize

structure NameMap where
  byName : Map String Ipv4Addr
  byIp : Map Ipv4Addr String
  active : Finset String
  conflicts : Finset Ipv4Addr

namespace NameMap

def default : NameMap := ⟨∅, ∅, ∅, ∅⟩

/-- The `i`th address that is tried for a home slot. -/
def probe (home i : ℕ) : Ipv4Addr := ofU32 (poolFirst + (home + i) % poolSize)

/-- The first of `n` addresses from the `i`th on that no name has. -/
def firstFree (m : NameMap) (home : ℕ) : ℕ → ℕ → Option Ipv4Addr
  | 0, _ => none
  | n + 1, i =>
    if (m.byIp.lookup (probe home i)).isSome then m.firstFree home n (i + 1)
    else some (probe home i)

def fakeIpFor (m : NameMap) (name : String) : Option Ipv4Addr × NameMap :=
  if !isResourceName name ∨ m.conflicts ≠ ∅ then (none, m)
  else
    match m.byName.lookup name with
    | some ip => (some ip, m)
    | none =>
      match m.firstFree (homeSlot name) poolSize 0 with
      | some ip =>
        (some ip, { m with byName := m.byName.insert name ip, byIp := m.byIp.insert ip name })
      | none => (none, m)

def nameFor (m : NameMap) (ip : Ipv4Addr) : Option String := m.byIp.lookup ip

def setActive (m : NameMap) (names : Finset String) : NameMap := { m with active := names }

def answerA (m : NameMap) (name : String) : Option Ipv4Addr :=
  if name ∈ m.active ∧ m.conflicts = ∅ then m.byName.lookup name else none

def noteLiteral (m : NameMap) (ip : Ipv4Addr) : NameMap :=
  if inReservedRange ip then { m with conflicts := insert ip m.conflicts } else m

def clearConflicts (m : NameMap) : NameMap := { m with conflicts := ∅ }

/-- The IPv4 address that a resource's `address` is captured on. -/
def resourceIpv4 (m : NameMap) (address : String) : Option Ipv4Addr × NameMap :=
  match parseIpAddr address with
  | some (.v4 octets) => (some (.ofOctets octets), m.noteLiteral (.ofOctets octets))
  | some (.v6 _) => (none, m)
  | none => m.fakeIpFor address

def destinationFor (m : NameMap) (ip : Ipv4Addr) : String :=
  (m.nameFor ip).getD (dottedQuad ip.octets)

end NameMap

example : (NameMap.default.fakeIpFor "db.internal").1 = some ⟨198, 18, 230, 163⟩ := by
  decide +kernel

/-! ### The two maps -/

variable {addr name : String} {ip : Ipv4Addr} {m' : NameMap}

lemma toU32_ofU32 {n} (h : n < 4294967296) : toU32 (ofU32 n) = n := by
  simp only [toU32, ofU32, Nat.toUInt8_eq, UInt8.toNat_ofNat']
  omega

lemma ofU32_toU32 (ip : Ipv4Addr) : ofU32 (toU32 ip) = ip := by
  have ha := ip.a.toNat_lt
  have hb := ip.b.toNat_lt
  have hc := ip.c.toNat_lt
  have hd := ip.d.toNat_lt
  ext <;> simp only [toU32, ofU32, Nat.toUInt8_eq, UInt8.toNat_ofNat'] <;> omega

lemma octets_ofOctets {octets : Fin 4 → ℕ} (h : ∀ i, octets i ≤ 255) :
    (Ipv4Addr.ofOctets octets).octets = octets := by
  have ho : ∀ i, (octets i).toUInt8.toNat = octets i := fun i => by
    have := h i
    rw [Nat.toUInt8_eq, UInt8.toNat_ofNat']
    omega
  funext i
  match i with
  | 0 | 1 | 2 | 3 => exact ho _

lemma dottedQuad_of_literalOf (h : literalOf addr = some ip) : dottedQuad ip.octets = addr := by
  unfold literalOf at h
  split at h
  next os hp =>
    cases h
    obtain ⟨hle, ht⟩ := dottedQuad_of_parseIpAddr hp
    rw [octets_ofOctets hle]
    exact ht
  next => cases h

lemma parseIpAddr_of_isResourceName (h : isResourceName name = true) : parseIpAddr name = none := by
  simp only [isResourceName, Bool.and_eq_true, Bool.not_eq_true', Bool.or_eq_false_iff] at h
  simpa using h.1.1.1.2

lemma literalOf_of_isResourceName (h : isResourceName name = true) : literalOf name = none := by
  rw [literalOf, parseIpAddr_of_isResourceName h]

lemma inPool_probe (home i : ℕ) : inPool (NameMap.probe home i) = true := by
  have hlt : (home + i) % 65534 < 65534 := Nat.mod_lt _ (by decide)
  have hf : poolFirst = 3323068417 := rfl
  have hl : poolLast = 3323133950 := rfl
  have hs : poolSize = 65534 := rfl
  have hu32 : toU32 (NameMap.probe home i) = 3323068417 + (home + i) % 65534 := by
    rw [NameMap.probe, hf, hs]
    exact toU32_ofU32 (by omega)
  rw [inPool, hu32, hf, hl]
  simp only [Bool.and_eq_true, decide_eq_true_eq]
  omega

variable {a : String} {α β : Type} {home : ℕ}

lemma firstFree_eq_some {m : NameMap} :
    ∀ {n i : ℕ}, m.firstFree home n i = some ip → inPool ip = true ∧ m.byIp.lookup ip = none
  | 0, _, h => by cases h
  | n + 1, i, h => by
    unfold NameMap.firstFree at h
    split at h
    next => exact firstFree_eq_some h
    next hf =>
      cases h
      exact ⟨inPool_probe home i, by simpa using hf⟩

/-- The maps are inverse to each other, from names to addresses of the pool. -/
structure Inverse (m : NameMap) : Prop where
  inverse : ∀ name ip, m.byName.lookup name = some ip ↔ m.byIp.lookup ip = some name
  pool : ∀ ip name, m.byIp.lookup ip = some name → inPool ip = true

/-- `m'` comes after `m`: no name has lost its address. -/
structure Later (m m' : NameMap) : Prop where
  names : ∀ name ip, m.byName.lookup name = some ip → m'.byName.lookup name = some ip
  addresses : ∀ ip name, m.byIp.lookup ip = some name → m'.byIp.lookup ip = some name
  inverse : Inverse m'

lemma Later.refl {m : NameMap} (h : Inverse m) : Later m m :=
  ⟨fun _ _ hn => hn, fun _ _ hip => hip, h⟩

lemma Later.trans {m m''} (h : Later m m') (h' : Later m' m'') : Later m m'' :=
  ⟨fun n ip hn => h'.names n ip (h.names n ip hn),
    fun ip n hip => h'.addresses ip n (h.addresses ip n hip), h'.inverse⟩

lemma inverse_default : Inverse NameMap.default where
  inverse := fun _ _ => ⟨nofun, nofun⟩
  pool := nofun

section Maps

variable {m : NameMap} (h : Inverse m)
include h

lemma Inverse.insert (hnm : m.byName.lookup name = none) (hip : m.byIp.lookup ip = none)
    (hp : inPool ip = true) :
    Inverse { m with byName := m.byName.insert name ip, byIp := m.byIp.insert ip name } := by
  refine ⟨fun n i => ?_, fun i n hi => ?_⟩
  · rw [lookup_insert_eq_some, lookup_insert_eq_some]
    constructor
    · rintro (⟨rfl, rfl⟩ | ⟨hn, hold⟩)
      · exact .inl ⟨rfl, rfl⟩
      · have hb := (h.inverse n i).1 hold
        refine .inr ⟨?_, hb⟩
        rintro rfl
        rw [hip] at hb
        cases hb
    · rintro (⟨rfl, rfl⟩ | ⟨hi, hold⟩)
      · exact .inl ⟨rfl, rfl⟩
      · have hb := (h.inverse n i).2 hold
        refine .inr ⟨?_, hb⟩
        rintro rfl
        rw [hnm] at hb
        cases hb
  · rcases lookup_insert_eq_some.1 hi with ⟨rfl, -⟩ | ⟨-, hi⟩
    · exact hp
    · exact h.pool i n hi

lemma fakeIpFor_spec (name : String) :
    Later m (m.fakeIpFor name).2 ∧ (m.fakeIpFor name).2.conflicts = m.conflicts ∧
      ∀ ip, (m.fakeIpFor name).1 = some ip → (m.fakeIpFor name).2.byName.lookup name = some ip := by
  unfold NameMap.fakeIpFor
  split
  · exact ⟨.refl h, rfl, by simp⟩
  split
  next ip hip =>
    refine ⟨.refl h, rfl, fun ip' heq => ?_⟩
    cases heq
    exact hip
  next hn =>
    split
    next ip hf =>
      obtain ⟨hp, hip⟩ := firstFree_eq_some hf
      refine ⟨⟨fun n i => lookup_insert_of_new hn, fun i n => lookup_insert_of_new hip,
        h.insert hn hip hp⟩, rfl, fun ip' heq => ?_⟩
      cases heq
      exact AList.lookup_insert _
    next => exact ⟨.refl h, rfl, by simp⟩

lemma later_noteLiteral (ip : Ipv4Addr) : Later m (m.noteLiteral ip) := by
  unfold NameMap.noteLiteral
  split
  · exact ⟨fun _ _ hn => hn, fun _ _ hi => hi, ⟨h.inverse, h.pool⟩⟩
  · exact .refl h

lemma resourceIpv4_spec (addr : String) :
    Later m (m.resourceIpv4 addr).2 ∧
      ∀ ip, (m.resourceIpv4 addr).1 = some ip → literalOf addr = some ip ∨
        (m.resourceIpv4 addr).2.byName.lookup addr = some ip := by
  unfold NameMap.resourceIpv4
  split
  next os hp =>
    refine ⟨later_noteLiteral h _, fun ip' heq => .inl ?_⟩
    rw [literalOf, hp]
    exact heq
  next => exact ⟨.refl h, by simp⟩
  next hp =>
    obtain ⟨hl, -, hs⟩ := fakeIpFor_spec h addr
    exact ⟨hl, fun ip hip => .inr (hs ip hip)⟩

end Maps

lemma resourceIpv4_byIp (m : NameMap) (addr : String) :
    (m.resourceIpv4 addr).2.byIp = m.byIp ∨
      isResourceName addr = true ∧ m.byName.lookup addr = none ∧ m.conflicts = ∅ ∧
        ∃ ip, inPool ip = true ∧ (m.resourceIpv4 addr).2.byIp = m.byIp.insert ip addr := by
  unfold NameMap.resourceIpv4 NameMap.noteLiteral NameMap.fakeIpFor
  split
  · exact .inl (by split <;> rfl)
  · exact .inl rfl
  split
  · exact .inl rfl
  next hg =>
    split
    · exact .inl rfl
    next hn =>
      split
      next ip hf =>
        simp only [not_or, Bool.not_eq_true', Bool.not_eq_false, not_not] at hg
        exact .inr ⟨hg.1, hn, hg.2, ip, (firstFree_eq_some hf).1, rfl⟩
      · exact .inl rfl

/-! ### Addresses that stay -/

/-- The address that stands for a resource, without asking for it. -/
def addressOf (m : NameMap) (address : String) : Option Ipv4Addr :=
  if isResourceName address then m.byName.lookup address else literalOf address

def Exhausted (m : NameMap) : Prop := ∀ ip, inPool ip = true → (m.byIp.lookup ip).isSome

/-- The resource has its address, or will have none. -/
def Settled (m : NameMap) (address : String) : Prop :=
  isResourceName address = true → (m.byName.lookup address).isSome ∨ Exhausted m

/-- Names and literals of the reserved range do not meet. -/
def Calm (m : NameMap) (addresses : List String) : Prop :=
  (∀ a ∈ addresses, isResourceName a = false) ∨
    m.conflicts = ∅ ∧ ∀ a ∈ addresses, ∀ ip ∈ literalOf a, inReservedRange ip = false

instance (m : NameMap) (addresses : List String) : Decidable (Calm m addresses) := by
  unfold Calm
  infer_instance

lemma Later.settled {m} (h : Later m m') (hset : Settled m addr) : Settled m' addr := by
  intro hnm
  rcases hset hnm with hs | hf
  · obtain ⟨ip, hip⟩ := Option.isSome_iff_exists.1 hs
    rw [h.names addr ip hip]
    exact .inl rfl
  · refine .inr fun ip hp => ?_
    obtain ⟨n, hn⟩ := Option.isSome_iff_exists.1 (hf ip hp)
    rw [h.addresses ip n hn]
    rfl

lemma Later.addressOf {m} (h : Later m m') (hi : Inverse m) (hset : Settled m addr) :
    addressOf m' addr = addressOf m addr := by
  unfold FakeAddresses.addressOf
  split
  next hnm =>
    cases hold : m.byName.lookup addr with
    | some ip => exact h.names addr ip hold
    | none =>
      -- all of the pool is taken, and stays with whom it is taken by
      rcases hset hnm with hs | hf
      · rw [hold] at hs
        cases hs
      cases hnew : m'.byName.lookup addr with
      | none => rfl
      | some ip =>
        have hb := (h.inverse.inverse addr ip).1 hnew
        obtain ⟨n, hn⟩ := Option.isSome_iff_exists.1 (hf ip (h.inverse.pool ip addr hb))
        cases hb.symm.trans (h.addresses ip n hn)
        rw [(hi.inverse addr ip).2 hn] at hold
        cases hold
  next => rfl

lemma exhausted_of_firstFree {m} (h : m.firstFree home poolSize 0 = none) : Exhausted m := by
  have htr : ∀ n i, m.firstFree home n i = none →
      ∀ j, i ≤ j → j < i + n → (m.byIp.lookup (NameMap.probe home j)).isSome := by
    intro n
    induction n with
    | zero => intro i _ j hij hjn; omega
    | succ n ih =>
      intro i hn j hij hjn
      unfold NameMap.firstFree at hn
      grind
  intro ip hpl
  have hf : poolFirst = 3323068417 := rfl
  have hl : poolLast = 3323133950 := rfl
  have hs : poolSize = 65534 := rfl
  simp only [inPool, Bool.and_eq_true, decide_eq_true_eq, hf, hl] at hpl
  rw [hs] at h
  -- the number of the probe that comes to the addr
  have hp : NameMap.probe home ((toU32 ip - 3323068417 + (65534 - home % 65534)) % 65534) = ip := by
    have hsl : 3323068417 +
        (home + (toU32 ip - 3323068417 + (65534 - home % 65534)) % 65534) % 65534 = toU32 ip := by
      omega
    rw [NameMap.probe, hf, hs, hsl, ofU32_toU32]
  have ht := htr 65534 0 h _ (Nat.zero_le _) (Nat.lt_of_lt_of_eq
    (Nat.mod_lt (toU32 ip - 3323068417 + (65534 - home % 65534)) (by decide)) (Nat.zero_add _).symm)
  rwa [hp] at ht

lemma resourceIpv4_of_not_name (m : NameMap) (hn : isResourceName addr = false) :
    m.resourceIpv4 addr = (literalOf addr, (literalOf addr).elim m m.noteLiteral) := by
  unfold NameMap.resourceIpv4 literalOf
  rcases parseIpAddr addr with _ | octets | groups
  · simp [NameMap.fakeIpFor, hn]
  · rfl
  · rfl

lemma fakeIpFor_settled {m : NameMap} (hn : isResourceName name = true) (he : m.conflicts = ∅) :
    (isResourceName name = true → ((m.fakeIpFor name).2.byName.lookup name).isSome ∨
      Exhausted (m.fakeIpFor name).2) ∧
      (m.fakeIpFor name).1 = (m.fakeIpFor name).2.byName.lookup name := by
  have hgo : ¬ ((!isResourceName name) = true ∨ m.conflicts ≠ ∅) := by simp [hn, he]
  unfold NameMap.fakeIpFor
  rw [if_neg hgo]
  split
  next ip hip => exact ⟨fun _ => .inl (by rw [hip]; rfl), hip.symm⟩
  next hnn =>
    split
    next ip hfr =>
      have hl := AList.lookup_insert (a := name) (b := ip) m.byName
      exact ⟨fun _ => .inl (by rw [hl]; rfl), hl.symm⟩
    next hf => exact ⟨fun _ => .inr (exhausted_of_firstFree hf), hnn.symm⟩

lemma resourceIpv4_of_calm {m : NameMap} {addrs : List String} (h : Inverse m)
    (hcl : Calm m addrs) (ha : a ∈ addrs) :
    Later m (m.resourceIpv4 a).2 ∧ Calm (m.resourceIpv4 a).2 addrs ∧
      Settled (m.resourceIpv4 a).2 a ∧ (m.resourceIpv4 a).1 = addressOf (m.resourceIpv4 a).2 a := by
  have hl := (resourceIpv4_spec h a).1
  cases hn : isResourceName a with
  | true =>
    rcases hcl with hnn | ⟨he, hlt⟩
    · rw [hnn a ha] at hn
      cases hn
    obtain ⟨-, hc, -⟩ := fakeIpFor_spec h a
    have han : m.resourceIpv4 a = m.fakeIpFor a := by
      rw [NameMap.resourceIpv4, parseIpAddr_of_isResourceName hn]
    rw [han] at hl ⊢
    refine ⟨hl, .inr ⟨hc.trans he, hlt⟩, ?_⟩
    unfold Settled addressOf
    rw [if_pos hn]
    exact fakeIpFor_settled hn he
  | false =>
    have hs : ∀ m', Settled m' a := fun m' h => by
      rw [hn] at h
      cases h
    refine ⟨hl, ?_, hs _, ?_⟩
    · rcases hcl with hnn | ⟨he, hlt⟩
      · exact .inl hnn
      · refine .inr ⟨?_, hlt⟩
        rw [resourceIpv4_of_not_name m hn]
        cases hlit : literalOf a with
        | none => exact he
        | some ip =>
          change (m.noteLiteral ip).conflicts = ∅
          rw [NameMap.noteLiteral, hlt a ha ip hlit]
          exact he
    · rw [addressOf, hn, resourceIpv4_of_not_name m hn]
      rfl

/-- A pass over a list, with the map handed on from one element to the next. -/
def filterMapWith {α β : Type} (f : NameMap → α → Option β × NameMap) :
    NameMap → List α → List β × NameMap
  | m, [] => ([], m)
  | m, x :: xs =>
    ((f m x).1.toList ++ (filterMapWith f (f m x).2 xs).1, (filterMapWith f (f m x).2 xs).2)

/-- The elements that have an `address` ask for it, and what they get is made of the answer. -/
def Asks {α β : Type} (f : NameMap → α → Option β × NameMap) (address : α → Option String)
    (make : α → Ipv4Addr → β) : Prop :=
  ∀ m x, f m x = match address x with
    | none => (none, m)
    | some a => ((m.resourceIpv4 a).1.map (make x), (m.resourceIpv4 a).2)

lemma filterMapWith_spec {f : NameMap → α → Option β × NameMap} {addr : α → Option String}
    {make : α → Ipv4Addr → β} (hf : Asks f addr make) {addresses xs} :
    ∀ {m : NameMap}, Inverse m → Calm m addresses → (∀ x ∈ xs, ∀ a ∈ addr x, a ∈ addresses) →
      Later m (filterMapWith f m xs).2 ∧ Calm (filterMapWith f m xs).2 addresses ∧
        (∀ x ∈ xs, ∀ a ∈ addr x, Settled (filterMapWith f m xs).2 a) ∧
        (filterMapWith f m xs).1 = xs.filterMap fun x => (addr x).bind fun a =>
          (addressOf (filterMapWith f m xs).2 a).map (make x) := by
  induction xs with
  | nil => exact fun h hc _ => ⟨.refl h, hc, fun _ hx => absurd hx not_mem_nil, rfl⟩
  | cons x xs ih =>
    intro m h hc hm
    have hr : ∀ y ∈ xs, ∀ a ∈ addr y, a ∈ addresses := fun y hy =>
      hm y (mem_cons_of_mem x hy)
    unfold filterMapWith
    rw [hf m x]
    cases hx : addr x with
    | none => grind
    | some a =>
      obtain ⟨hl, hc', hs, han⟩ := resourceIpv4_of_calm h hc (hm x mem_cons_self a hx)
      obtain ⟨hl', hc'', hs', heq⟩ := ih hl.inverse hc' hr
      refine ⟨hl.trans hl', hc'', forall_mem_cons.2 ⟨fun b hb => ?_, hs'⟩, ?_⟩
      · rw [hx] at hb
        cases hb
        exact hl'.settled hs
      · dsimp only
        rw [filterMap_cons, hx, Option.bind_some, hl'.addressOf hl.inverse hs, ← han, heq]
        cases (m.resourceIpv4 a).1 <;> rfl

lemma mem_conflicts_resourceIpv4 {m} (h : Inverse m) :
    ip ∈ (m.resourceIpv4 a).2.conflicts ↔
      ip ∈ m.conflicts ∨ literalOf a = some ip ∧ inReservedRange ip = true := by
  cases hn : isResourceName a with
  | true =>
    rw [NameMap.resourceIpv4, parseIpAddr_of_isResourceName hn, literalOf_of_isResourceName hn]
    simp [(fakeIpFor_spec h a).2.1]
  | false =>
    rw [resourceIpv4_of_not_name m hn]
    cases literalOf a with
    | none => simp
    | some lit =>
      change ip ∈ (m.noteLiteral lit).conflicts ↔ _
      unfold NameMap.noteLiteral
      grind

lemma mem_conflicts_filterMapWith {f : NameMap → α → Option β × NameMap}
    {addr : α → Option String} {make : α → Ipv4Addr → β} (hf : Asks f addr make) {xs} :
    ∀ {m : NameMap}, Inverse m → (ip ∈ (filterMapWith f m xs).2.conflicts ↔ ip ∈ m.conflicts ∨
      ∃ x ∈ xs, ∃ a ∈ addr x, literalOf a = some ip ∧ inReservedRange ip = true) := by
  induction xs with
  | nil => simp [filterMapWith]
  | cons x xs ih =>
    intro m h
    unfold filterMapWith
    rw [hf m x]
    cases hx : addr x with
    | none => simp [ih h, hx]
    | some a =>
      rw [ih (resourceIpv4_spec h a).1.inverse, mem_conflicts_resourceIpv4 h]
      simp [hx, or_assoc]

lemma later_forget {m} (h : Inverse m) : Later m (m.setActive ∅).clearConflicts :=
  ⟨fun _ _ hn => hn, fun _ _ hi => hi, ⟨h.inverse, h.pool⟩⟩

/-! ### Runs -/

structure State where
  map : NameMap
  returned : List (String × Ipv4Addr)

def start : State := ⟨.default, []⟩

/-- The calls that change the map; the lookups leave it as it is. -/
inductive Action
  | resourceIpv4 (address : String)
  | setActive (names : Finset String)
  | clearConflicts

def step (s : State) : Action → Option State
  | .resourceIpv4 address =>
    let r := s.map.resourceIpv4 address
    some ⟨r.2, (r.1.map (address, ·)).toList ++ s.returned⟩
  | .setActive names => some { s with map := s.map.setActive names }
  | .clearConflicts => some { s with map := s.map.clearConflicts }

structure NamesKept (s : State) : Prop where
  distinct : ∀ name name' ip, isResourceName name = true → isResourceName name' = true →
    (name, ip) ∈ s.returned → (name', ip) ∈ s.returned → name = name'
  stable : ∀ name ip ip', isResourceName name = true → (name, ip) ∈ s.returned →
    (name, ip') ∈ s.returned → ip = ip'
  pool : ∀ name ip, isResourceName name = true → (name, ip) ∈ s.returned → inPool ip = true

def LeadsBack (s : State) : Prop :=
  ∀ address ip, (address, ip) ∈ s.returned → s.map.destinationFor ip = address

/-- **The condition.** No name has the literal that is asked for; and where a literal of the pool
was asked for and the conflicts have been forgotten, no further name is. -/
def Unshadowed (s : State) : Action → Prop
  | .resourceIpv4 address =>
    (∀ ip ∈ literalOf address, s.map.byIp.lookup ip = none) ∧
      (isResourceName address = true → s.map.byName.lookup address = none → s.map.conflicts = ∅ →
        ∀ r ∈ s.returned, ∀ ip ∈ literalOf r.1, inPool ip = false)
  | _ => True

instance (s : State) : ∀ a, Decidable (Unshadowed s a)
  | .resourceIpv4 _ => inferInstanceAs (Decidable (_ ∧ (_ → _ → _ → _)))
  | .setActive _ | .clearConflicts => inferInstanceAs (Decidable True)

structure Inv (s : State) : Prop where
  maps : Inverse s.map
  returned : ∀ address ip, (address, ip) ∈ s.returned →
    literalOf address = some ip ∨ s.map.byName.lookup address = some ip

/-- Beside the invariant: no name has a literal that was asked for. -/
structure InvUnshadowed (s : State) : Prop extends Inv s where
  literals : ∀ address ip, (address, ip) ∈ s.returned → literalOf address = some ip →
    s.map.byIp.lookup ip = none

lemma inv_start : Inv start where
  maps := inverse_default
  returned := nofun

lemma inv_step (s : State) (a : Action) (s' : State) (hi : Inv s) (hs : step s a = some s') :
    Inv s' := by
  cases a with
  | resourceIpv4 addr =>
    cases hs
    obtain ⟨hl, hsm⟩ := resourceIpv4_spec hi.maps addr
    refine ⟨hl.inverse, fun b ip hm => ?_⟩
    rcases mem_append.1 hm with hn | hold
    · obtain ⟨ip', hip', heq⟩ := Option.map_eq_some_iff.1 (Option.mem_toList.1 hn)
      obtain ⟨rfl, rfl⟩ := Prod.mk.inj heq
      exact hsm ip' hip'
    · exact (hi.returned b ip hold).imp_right (hl.names b ip)
  | setActive names | clearConflicts =>
    cases hs
    exact ⟨⟨hi.maps.inverse, hi.maps.pool⟩, hi.returned⟩

lemma invUnshadowed_step (s : State) (a : Action) (s' : State) (hi : InvUnshadowed s)
    (hok : Unshadowed s a) (hs : step s a = some s') : InvUnshadowed s' := by
  refine ⟨inv_step s a s' hi.toInv hs, ?_⟩
  cases a with
  | resourceIpv4 addr =>
    cases hs
    have hold : ∀ b ip, (b, ip) ∈ s.returned → literalOf b = some ip →
        (s.map.resourceIpv4 addr).2.byIp.lookup ip = none := by
      intro b ip hm hl
      rcases resourceIpv4_byIp s.map addr with heq | ⟨hn, hnew, hc, ip', hp, heq⟩
      · rw [heq]
        exact hi.literals b ip hm hl
      · -- the new name's addr is of the pool, and the literal is not
        have ho := hok.2 hn hnew hc _ hm ip hl
        rw [heq, AList.lookup_insert_ne (by rintro rfl; rw [hp] at ho; cases ho)]
        exact hi.literals b ip hm hl
    intro b ip hm hl
    rcases mem_append.1 hm with hn | hm
    · obtain ⟨ip', -, heq⟩ := Option.map_eq_some_iff.1 (Option.mem_toList.1 hn)
      obtain ⟨rfl, rfl⟩ := Prod.mk.inj heq
      rcases resourceIpv4_byIp s.map addr with heq | ⟨hn, -⟩
      · rw [heq]
        exact hok.1 ip' hl
      · rw [literalOf_of_isResourceName hn] at hl
        cases hl
    · exact hold b ip hm hl
  | setActive names | clearConflicts =>
    cases hs
    exact hi.literals

variable {s : State}

lemma Inv.byName (hi : Inv s) (hn : isResourceName name = true) (hm : (name, ip) ∈ s.returned) :
    s.map.byName.lookup name = some ip := by
  rcases hi.returned name ip hm with hl | hlk
  · rw [literalOf_of_isResourceName hn] at hl
    cases hl
  · exact hlk

lemma InvUnshadowed.leadsBack (hi : InvUnshadowed s) : LeadsBack s := by
  intro addr ip hm
  rcases hi.returned addr ip hm with hl | hlk
  · rw [NameMap.destinationFor, NameMap.nameFor, hi.literals addr ip hm hl]
    exact dottedQuad_of_literalOf hl
  · have hn : s.map.nameFor ip = some addr := (hi.maps.inverse addr ip).1 hlk
    rw [NameMap.destinationFor, hn]
    rfl

/-- In every run, names have addresses of their own; where no name has the address of a literal,
every address leads back to the resource it was given for. -/
theorem leadsBack_of_unshadowed {acts : List Action} {s : State}
    (hexec : exec step start acts = some s) :
    NamesKept s ∧ (Meets step Unshadowed start acts → LeadsBack s) := by
  have hi : Inv s := exec_inv inv_step inv_start hexec
  refine ⟨⟨fun n n' ip hn hn' hm hm' => ?_, fun n ip ip' hn hm hm' => ?_, fun n ip hn hm => ?_⟩,
    fun hmeets => ?_⟩
  · have hb := (hi.maps.inverse n ip).1 (hi.byName hn hm)
    have hb' := (hi.maps.inverse n' ip).1 (hi.byName hn' hm')
    exact Option.some.inj (hb.symm.trans hb')
  · exact Option.some.inj ((hi.byName hn hm).symm.trans (hi.byName hn hm'))
  · exact hi.maps.pool ip n ((hi.maps.inverse n ip).1 (hi.byName hn hm))
  · have hu : InvUnshadowed s :=
      exec_inv_of_meets invUnshadowed_step ⟨inv_start, by rintro _ _ ⟨⟩⟩ hmeets hexec
    exact hu.leadsBack

/-- Two names, a literal outside the reserved range and one of the pool. -/
def resources : List Action :=
  [.resourceIpv4 "a.example", .resourceIpv4 "10.0.0.9", .resourceIpv4 "db.internal",
    .resourceIpv4 "198.18.0.1", .resourceIpv4 "a.example", .clearConflicts]

theorem leadsBack_resources :
    ∃ s, exec step start resources = some s ∧ s.returned.length = 4 ∧ LeadsBack s := by
  have hm : Meets step Unshadowed start resources := by decide +kernel
  obtain ⟨s, he, hl⟩ : ∃ s, exec step start resources = some s ∧ s.returned.length = 4 := by
    decide +kernel
  exact ⟨s, he, hl, (leadsBack_of_unshadowed he).2 hm⟩

def literalOfName : List Action :=
  [.resourceIpv4 "db.internal", .resourceIpv4 "198.18.230.163"]

theorem literal_requested_as_name :
    ∃ s, exec step start literalOfName = some s ∧
      ("198.18.230.163", ⟨198, 18, 230, 163⟩) ∈ s.returned ∧
      s.map.destinationFor ⟨198, 18, 230, 163⟩ = "db.internal" ∧ ¬ LeadsBack s := by
  obtain ⟨s, he, hm, hd⟩ : ∃ s, exec step start literalOfName = some s ∧
      ("198.18.230.163", ⟨198, 18, 230, 163⟩) ∈ s.returned ∧
      s.map.destinationFor ⟨198, 18, 230, 163⟩ = "db.internal" := by
    decide +kernel
  refine ⟨s, he, hm, hd, fun h => ?_⟩
  have hb := h _ _ hm
  rw [hd] at hb
  revert hb
  decide

/-! ### Answers -/

/-- **An answer leads back for good**: a flow to an address that a name was answered with is for
this name at any later time, and no later answer for the name is another one. -/
theorem answerA_leads_back {acts later : List Action} {s s' : State}
    (he : exec step start acts = some s) (hl : exec step s later = some s')
    (ha : s.map.answerA name = some ip) :
    inPool ip = true ∧ s'.map.destinationFor ip = name ∧
      ∀ ip', s'.map.answerA name = some ip' → ip' = ip := by
  have hn : s.map.byName.lookup name = some ip := (Option.ite_none_right_eq_some.1 ha).2
  have hi : Inv s := exec_inv inv_step inv_start he
  obtain ⟨hi', hn'⟩ : Inv s' ∧ s'.map.byName.lookup name = some ip := by
    refine exec_inv (I := fun u => Inv u ∧ u.map.byName.lookup name = some ip)
      (fun u a u' h hs => ⟨inv_step u a u' h.1 hs, ?_⟩) ⟨hi, hn⟩ hl
    cases a <;> cases hs
    · exact (resourceIpv4_spec h.1.maps _).1.names name ip h.2
    · exact h.2
    · exact h.2
  have hb := (hi'.maps.inverse name ip).1 hn'
  refine ⟨hi'.maps.pool ip name hb, by rw [NameMap.destinationFor, NameMap.nameFor, hb]; rfl, ?_⟩
  intro ip' ha'
  exact Option.some.inj ((Option.ite_none_right_eq_some.1 ha').2.symm.trans hn')

theorem answerA_leads_back_literal :
    ∃ s s', exec step start [.setActive {"db.internal"}, .resourceIpv4 "db.internal"] = some s ∧
      exec step s [.resourceIpv4 "198.18.230.163"] = some s' ∧
      s'.map.destinationFor ⟨198, 18, 230, 163⟩ = "db.internal" := by
  obtain ⟨s, he, s', hl, ha⟩ :
      ∃ s, exec step start [.setActive {"db.internal"}, .resourceIpv4 "db.internal"] = some s ∧
        ∃ s', exec step s [.resourceIpv4 "198.18.230.163"] = some s' ∧
          s.map.answerA "db.internal" = some ⟨198, 18, 230, 163⟩ := by
    decide +kernel
  exact ⟨s, s', he, hl, (answerA_leads_back he hl ha).2.1⟩

end Zecurity.FakeAddresses
