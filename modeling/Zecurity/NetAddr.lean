import Mathlib.Data.Fintype.Pi
import Mathlib.Data.List.TakeWhile

/-!
Network addresses as text, the way the Rust standard library reads them (`core::net::parser`,
`std::net::ToSocketAddrs`).

A reader takes the characters that are left and gives a value with those left after it; one
that fails has consumed nothing. An address is what `parse` accepts: a reader must leave
nothing. The text `host:port` is read as a socket address if it is one, and else split at its
last colon, with the host looked up. A number is read without leading zeros, so the text of an
IPv4 address is the one it is displayed with.
-/

namespace Zecurity.NetAddr

open List Option

inductive IpAddr
  | v4 (octets : Fin 4 → ℕ)
  | v6 (groups : Fin 8 → ℕ)
  deriving DecidableEq

def IpAddr.isV4 : IpAddr → Bool
  | .v4 _ => true
  | .v6 _ => false

structure SocketAddr where
  ip : IpAddr
  port : ℕ
  /-- zero for IPv4 -/
  scopeId : ℕ

/-! ### Readers -/

def toDigit (radix : ℕ) (c : Char) : Option ℕ :=
  let d :=
    if c.isDigit then c.toNat - '0'.toNat
    else if 'a' ≤ c ∧ c ≤ 'z' then c.toNat - 'a'.toNat + 10
    else if 'A' ≤ c ∧ c ≤ 'Z' then c.toNat - 'A'.toNat + 10
    else radix
  if d < radix then some d else none

def isDigitOf (radix : ℕ) (c : Char) : Bool := (toDigit radix c).isSome

def digitsValue (radix : ℕ) (ds : List Char) : ℕ :=
  ds.foldl (fun acc c => acc * radix + (toDigit radix c).getD 0) 0

/-- `read_number` for a type whose largest value is `max`; all digits there are belong to the
number. -/
def readNumber (radix : ℕ) (maxDigits : Option ℕ) (allowZeroPrefix : Bool) (max : ℕ)
    (cs : List Char) : Option (ℕ × List Char) :=
  let ds := cs.takeWhile (isDigitOf radix)
  if maxDigits.any (· < ds.length) then none
  else if ds = [] then none
  else if !allowZeroPrefix ∧ ds.head? = some '0' ∧ 1 < ds.length then none
  else if digitsValue radix ds ≤ max then
    some (digitsValue radix ds, cs.dropWhile (isDigitOf radix))
  else none

def readGivenChar (target : Char) : List Char → Option (List Char)
  | c :: rest => if c = target then some rest else none
  | [] => none

/-- `read_separator`: the separator comes before every item but the first. -/
def readSeparator {α : Type} (sep : Char) (index : ℕ) (inner : List Char → Option (α × List Char))
    (cs : List Char) : Option (α × List Char) :=
  if 0 < index then (readGivenChar sep cs).bind inner else inner cs

def readOctet : List Char → Option (ℕ × List Char) := readNumber 10 (some 3) false 255

/-- The octets from `index` on. -/
def readOctets : ℕ → ℕ → List Char → Option (List ℕ × List Char)
  | 0, _, cs => some ([], cs)
  | n + 1, index, cs =>
    (readSeparator '.' index readOctet cs).bind fun octet =>
      (readOctets n (index + 1) octet.2).map fun rest => (octet.1 :: rest.1, rest.2)

def readIpv4Addr (cs : List Char) : Option (List ℕ × List Char) := readOctets 4 0 cs

def readGroup : List Char → Option (ℕ × List Char) := readNumber 16 (some 4) true 65535

/-- `read_groups`: at most so many groups, those from `index` on, and whether they end with an
embedded IPv4 address, which takes two. -/
def readGroups : ℕ → ℕ → List Char → List ℕ × Bool × List Char
  | 0, _, cs => ([], false, cs)
  | n + 1, index, cs =>
    match if 0 < n then readSeparator ':' index readIpv4Addr cs else none with
    | some (octets, rest) =>
      ([octets.getD 0 0 * 256 + octets.getD 1 0, octets.getD 2 0 * 256 + octets.getD 3 0], true,
        rest)
    | none =>
      match readSeparator ':' index readGroup cs with
      | some (group, rest) =>
        let next := readGroups n (index + 1) rest
        (group :: next.1, next.2)
      | none => ([], false, cs)

/-- The groups before a `::`, and those after it if there are fewer than eight. -/
def readIpv6Addr (cs : List Char) : Option (List ℕ × List Char) :=
  let head := readGroups 8 0 cs
  if head.1.length = 8 then some (head.1, head.2.2)
  else if head.2.1 then none
  else
    ((readGivenChar ':' head.2.2).bind (readGivenChar ':')).map fun cs =>
      let tail := readGroups (8 - (head.1.length + 1)) 0 cs
      (head.1 ++ List.replicate (8 - head.1.length - tail.1.length) 0 ++ tail.1, tail.2.2)

def ofOctets (octets : List ℕ) : IpAddr := .v4 fun i => octets.getD i 0

def ofGroups (groups : List ℕ) : IpAddr := .v6 fun i => groups.getD i 0

def readIpAddr (cs : List Char) : Option (IpAddr × List Char) :=
  match readIpv4Addr cs with
  | some (octets, rest) => some (ofOctets octets, rest)
  | none => (readIpv6Addr cs).map fun r => (ofGroups r.1, r.2)

def readPort (cs : List Char) : Option (ℕ × List Char) :=
  (readGivenChar ':' cs).bind (readNumber 10 none true 65535)

def readScopeId (cs : List Char) : Option (ℕ × List Char) :=
  (readGivenChar '%' cs).bind (readNumber 10 none true 4294967295)

def readSocketAddrV4 (cs : List Char) : Option (SocketAddr × List Char) :=
  (readIpv4Addr cs).bind fun ip =>
    (readPort ip.2).map fun port => (⟨ofOctets ip.1, port.1, 0⟩, port.2)

def readSocketAddrV6 (cs : List Char) : Option (SocketAddr × List Char) :=
  (readGivenChar '[' cs).bind fun cs =>
    (readIpv6Addr cs).bind fun ip =>
      let scope := (readScopeId ip.2).getD (0, ip.2)
      (readGivenChar ']' scope.2).bind fun cs =>
        (readPort cs).map fun port => (⟨ofGroups ip.1, port.1, scope.1⟩, port.2)

def readSocketAddr (cs : List Char) : Option (SocketAddr × List Char) :=
  (readSocketAddrV4 cs).or (readSocketAddrV6 cs)

/-- `parse_with`: the reader must leave nothing. -/
def parseWith {α : Type} (read : List Char → Option (α × List Char)) (s : String) : Option α :=
  match read s.toList with
  | some (a, []) => some a
  | _ => none

def parseIpAddr : String → Option IpAddr := parseWith readIpAddr

def parseSocketAddr : String → Option SocketAddr := parseWith readSocketAddr

/-- `u16::from_str`: digits after an optional plus sign. -/
def parseU16 (cs : List Char) : Option ℕ :=
  let ds := if cs.head? = some '+' then cs.tail else cs
  match readNumber 10 none true 65535 ds with
  | some (n, []) => some n
  | _ => none

/-- `str::rsplit_once`: what stands before and after the last occurrence. -/
def rsplitOnce (c : Char) : List Char → Option (List Char × List Char)
  | [] => none
  | x :: rest =>
    match rsplitOnce c rest with
    | some (before, after) => some (x :: before, after)
    | none => if x = c then some ([], rest) else none

/-- `ToSocketAddrs` of a string, over the system's lookup of a host. -/
def toSocketAddrs (lookupHost : String → Except String (List IpAddr)) (s : String) :
    Except String (List SocketAddr) :=
  match parseSocketAddr s with
  | some addr => .ok [addr]
  | none =>
    match rsplitOnce ':' s.toList with
    | none => .error "invalid socket address"
    | some (host, port) =>
      match parseU16 port with
      | none => .error "invalid port value"
      | some port =>
        match lookupHost (String.ofList host) with
        | .error err => .error err
        | .ok ips => .ok (ips.map fun ip => ⟨ip, port, 0⟩)

/-! ### Digits -/

variable {c : Char} {ds : List Char} {α : Type} {port : ℕ} {s : String} {ip : IpAddr}

lemma toDigit_decimal (h : c.isDigit = true) : toDigit 10 c = some (c.toNat - 48) := by
  have hle : c.toNat ≤ 57 := by
    simp only [Char.isDigit, Bool.and_eq_true, decide_eq_true_eq] at h
    exact h.2
  have hlt : c.toNat - 48 < 10 := by omega
  simp [toDigit, h, hlt]

lemma isDigitOf_decimal (h : c.isDigit = true) : isDigitOf 10 c = true := by
  rw [isDigitOf, toDigit_decimal h]
  rfl

lemma digitsValue_decimal (h : ∀ c ∈ ds, c.isDigit = true) :
    digitsValue 10 ds = Nat.ofDigitChars 10 ds 0 := by
  have hf : ∀ acc, ds.foldl (fun acc c => acc * 10 + (toDigit 10 c).getD 0) acc =
      Nat.ofDigitChars 10 ds acc := by
    induction ds with
    | nil => exact fun _ => rfl
    | cons c rest ih =>
      intro acc
      have hc := toDigit_decimal (h c mem_cons_self)
      rw [foldl_cons, hc, ih fun d hd => h d (mem_cons_of_mem c hd)]
      simp only [Nat.ofDigitChars, foldl_cons, getD_some, Nat.mul_comm acc 10]
      rfl
  exact hf 0

lemma readNumber_repr {n max} (h : n ≤ max) :
    readNumber 10 none true max n.repr.toList = some (n, []) := by
  have hd : ∀ c ∈ Nat.toDigits 10 n, c.isDigit = true :=
    fun c hc => Nat.isDigit_of_mem_toDigits (by decide) (by decide) hc
  have ha : ∀ c ∈ Nat.toDigits 10 n, isDigitOf 10 c = true :=
    fun c hc => isDigitOf_decimal (hd c hc)
  have hv : digitsValue 10 (Nat.toDigits 10 n) = n := by
    rw [digitsValue_decimal hd, Nat.ofDigitChars_toDigits (by decide) (by decide)]
  rw [Nat.toList_repr, readNumber, takeWhile_eq_self_iff.2 ha, dropWhile_eq_nil_iff.2 ha]
  simp [hv, h, Nat.toDigits_ne_nil]

lemma colon_notMem_repr (n : ℕ) : ':' ∉ n.repr.toList := by
  rw [Nat.toList_repr]
  intro h
  exact absurd (Nat.isDigit_of_mem_toDigits (by decide) (by decide) h) (by decide)

/-! ### A colon after an address -/

variable {sep : Char} {x : α} {index : ℕ} {cs : List Char} {p : α → Bool}
  {inner : List Char → Option (α × List Char)}

lemma takeWhile_append_stop (h : p x = false) (l r : List α) :
    (l ++ x :: r).takeWhile p = l.takeWhile p := by
  induction l with
  | nil => simp [h]
  | cons y l ih => by_cases hy : p y = true <;> simp [hy, ih]

lemma dropWhile_append_stop (h : p x = false) (l r : List α) :
    (l ++ x :: r).dropWhile p = l.dropWhile p ++ x :: r := by
  induction l with
  | nil => simp [h]
  | cons y l ih => by_cases hy : p y = true <;> simp [hy, ih]

/-- A reader does not look past a colon: it reads the same and leaves the colon. -/
def StopsAtColon {α : Type} (read : List Char → Option (α × List Char)) : Prop :=
  ∀ cs ds, read (cs ++ ':' :: ds) = (read cs).map fun r => (r.1, r.2 ++ ':' :: ds)

lemma readNumber_stopsAtColon (maxDigits : Option ℕ) (zero : Bool) (max : ℕ) :
    StopsAtColon (readNumber 10 maxDigits zero max) := by
  intro cs ds
  have hc : isDigitOf 10 ':' = false := by decide
  unfold readNumber
  rw [takeWhile_append_stop hc, dropWhile_append_stop hc]
  simp only
  split
  · rfl
  · split
    · rfl
    · split
      · rfl
      · split <;> rfl

lemma readGivenChar_append {tgt} (h : tgt ≠ ':') (cs ds : List Char) :
    readGivenChar tgt (cs ++ ':' :: ds) = (readGivenChar tgt cs).map fun r => r ++ ':' :: ds := by
  cases cs with
  | nil => simp [readGivenChar, h.symm]
  | cons c rest => by_cases hc : c = tgt <;> simp [readGivenChar, hc]

lemma readSeparator_stopsAtColon (hs : sep ≠ ':') (h : StopsAtColon inner) :
    StopsAtColon (readSeparator sep index inner) := by
  intro cs ds
  unfold readSeparator
  split
  · rw [readGivenChar_append hs]
    cases readGivenChar sep cs with
    | none => rfl
    | some rest => exact h rest ds
  · exact h cs ds

lemma readOctets_stopsAtColon : ∀ n index, StopsAtColon (readOctets n index)
  | 0, _ => fun _ _ => rfl
  | n + 1, index => by
    intro cs ds
    have ho : StopsAtColon (readSeparator '.' index readOctet) :=
      readSeparator_stopsAtColon (by decide) (readNumber_stopsAtColon _ _ _)
    rw [readOctets, readOctets, ho cs ds]
    rcases readSeparator '.' index readOctet cs with _ | octet
    · rfl
    · simp only [map_some, bind_some, readOctets_stopsAtColon n (index + 1) octet.2 ds]
      cases readOctets n (index + 1) octet.2 <;> rfl

lemma readIpv4Addr_stopsAtColon : StopsAtColon readIpv4Addr := readOctets_stopsAtColon 4 0

lemma readPort_repr (h : port ≤ 65535) : readPort (':' :: port.repr.toList) = some (port, []) :=
  readNumber_repr h

/-! ### The text `ip:port` -/

lemma parseIpAddr_eq_some : parseIpAddr s = some ip ↔ readIpAddr s.toList = some (ip, []) := by
  unfold parseIpAddr parseWith
  constructor
  · intro h
    split at h
    · next a heq => cases h; exact heq
    · cases h
  · intro h
    rw [h]

lemma readIpAddr_bracket (cs : List Char) : readIpAddr ('[' :: cs) = none := by
  have hv4 : readIpv4Addr ('[' :: cs) = none := rfl
  have hgr : readGroup ('[' :: cs) = none := rfl
  have hg : readGroups 8 0 ('[' :: cs) = ([], false, '[' :: cs) := by
    simp [readGroups, readSeparator, hv4, hgr]
  simp [readIpAddr, readIpv6Addr, hv4, hg, readGivenChar]

lemma toList_append_port (s : String) (port : ℕ) :
    (s ++ ":" ++ port.repr).toList = s.toList ++ ':' :: port.repr.toList := by
  simp [String.toList_append]

lemma parseSocketAddr_v4 {os} (hp : port ≤ 65535) (h : readIpv4Addr s.toList = some (os, [])) :
    parseSocketAddr (s ++ ":" ++ port.repr) = some ⟨ofOctets os, port, 0⟩ := by
  have hr : readSocketAddr (s.toList ++ ':' :: port.repr.toList) =
      some (⟨ofOctets os, port, 0⟩, []) := by
    rw [readSocketAddr, readSocketAddrV4, readIpv4Addr_stopsAtColon, h]
    simp only [map_some, bind_some, nil_append, readPort_repr hp, some_or]
  rw [parseSocketAddr, parseWith, toList_append_port, hr]

lemma parseSocketAddr_of_readIpv4Addr_none (port : ℕ) (h : readIpAddr s.toList = some (ip, []))
    (hv4 : readIpv4Addr s.toList = none) : parseSocketAddr (s ++ ":" ++ port.repr) = none := by
  have hv4' : readSocketAddrV4 (s.toList ++ ':' :: port.repr.toList) = none := by
    rw [readSocketAddrV4, readIpv4Addr_stopsAtColon, hv4]
    rfl
  have hv6 : readSocketAddrV6 (s.toList ++ ':' :: port.repr.toList) = none := by
    rcases hs : s.toList with _ | ⟨c, cs⟩
    · rfl
    · have hne : c ≠ '[' := by
        rintro rfl
        rw [hs, readIpAddr_bracket] at h
        cases h
      simp [readSocketAddrV6, readGivenChar, hne]
  rw [parseSocketAddr, parseWith, toList_append_port, readSocketAddr, hv4', hv6]
  rfl

lemma rsplitOnce_append (h : c ∉ ds) (cs : List Char) :
    rsplitOnce c (cs ++ c :: ds) = some (cs, ds) := by
  have hn : rsplitOnce c ds = none := by
    induction ds with
    | nil => rfl
    | cons d ds ih =>
      rw [mem_cons, not_or] at h
      rw [rsplitOnce, ih h.2]
      exact if_neg (Ne.symm h.1)
  induction cs with
  | nil => simp [rsplitOnce, hn]
  | cons d cs ih => simp [rsplitOnce, ih]

lemma parseU16_repr (h : port ≤ 65535) : parseU16 port.repr.toList = some port := by
  have hp : port.repr.toList.head? ≠ some '+' := by
    intro hh
    have hm : '+' ∈ port.repr.toList := mem_of_mem_head? hh
    rw [Nat.toList_repr] at hm
    exact absurd (Nat.isDigit_of_mem_toDigits (by decide) (by decide) hm) (by decide)
  rw [parseU16, if_neg hp, readNumber_repr h]

/-- **The addresses of `ip:port`**: the address itself for IPv4, and what the lookup of the
text answers for IPv6. -/
theorem toSocketAddrs_ip {lookupHost : String → Except String (List IpAddr)}
    (hp : port ≤ 65535) (h : parseIpAddr s = some ip) :
    toSocketAddrs lookupHost (s ++ ":" ++ port.repr) =
      if ip.isV4 then .ok [⟨ip, port, 0⟩]
      else (lookupHost s).map fun ips => ips.map fun ip => ⟨ip, port, 0⟩ := by
  rw [parseIpAddr_eq_some] at h
  rcases hv4 : readIpv4Addr s.toList with _ | ⟨os, rest⟩
  · have hv6 : ip.isV4 = false := by
      simp only [readIpAddr, hv4, map_eq_some_iff] at h
      obtain ⟨r, -, hr⟩ := h
      rw [← (Prod.mk.inj hr).1]
      rfl
    delta toSocketAddrs
    rw [parseSocketAddr_of_readIpv4Addr_none port h hv4, toList_append_port,
      rsplitOnce_append (colon_notMem_repr port)]
    simp only [parseU16_repr hp, String.ofList_toList, hv6]
    cases lookupHost s <;> rfl
  · rw [readIpAddr, hv4] at h
    obtain ⟨rfl, rfl⟩ : ofOctets os = ip ∧ rest = [] := by simpa using h
    delta toSocketAddrs
    rw [parseSocketAddr_v4 hp hv4]
    rfl

/-! ### The text of an IPv4 address -/

/-- The octets as text, with a dot before every octet but the first. -/
def octetsText : ℕ → List ℕ → List Char
  | _, [] => []
  | index, v :: vs =>
    (if 0 < index then ['.'] else []) ++ v.repr.toList ++ octetsText (index + 1) vs

/-- `Display for Ipv4Addr` -/
def dottedQuad (octets : Fin 4 → ℕ) : String := String.ofList (octetsText 0 (List.ofFn octets))

lemma isDigit_of_isDigitOf (h : isDigitOf 10 c = true) : c.isDigit = true := by
  by_contra hc
  obtain ⟨d, hd⟩ := isSome_iff_exists.1 h
  obtain ⟨hlt, -⟩ := ite_none_right_eq_some.1 hd
  split_ifs at hlt <;> omega

lemma digitChar_of_isDigit (h : c.isDigit = true) :
    c.toNat - 48 < 10 ∧ (c.toNat - 48).digitChar = c := by
  simp only [Char.isDigit, Bool.and_eq_true, decide_eq_true_eq] at h
  obtain ⟨hlow, hhg⟩ := h
  have hl : 48 ≤ c.toNat := hlow
  have hh : c.toNat ≤ 57 := hhg
  refine ⟨by omega, Char.ext (UInt32.toNat_inj.1 ?_)⟩
  have := Nat.toNat_digitChar_of_lt_ten (n := c.toNat - 48) (by omega)
  change (Nat.digitChar (c.toNat - 48)).toNat = c.toNat
  rw [this]
  omega

lemma digitsValue_concat (ds : List Char) (c : Char) :
    digitsValue 10 (ds ++ [c]) = digitsValue 10 ds * 10 + (toDigit 10 c).getD 0 := by
  simp [digitsValue]

lemma toDigits_digitsValue (hds : ∀ c ∈ ds, c.isDigit = true) (hne : ds ≠ [])
    (hz : ds.head? ≠ some '0') :
    0 < digitsValue 10 ds ∧ Nat.toDigits 10 (digitsValue 10 ds) = ds := by
  induction ds using List.reverseRecOn with
  | nil => exact absurd rfl hne
  | append_singleton init c ih =>
    have hc := hds c (by simp)
    obtain ⟨hlt, hch⟩ := digitChar_of_isDigit hc
    have hv := digitsValue_concat init c
    rw [toDigit_decimal hc, getD_some] at hv
    rw [hv]
    cases init with
    | nil =>
      have hp : 0 < c.toNat - 48 := by
        rcases Nat.eq_zero_or_pos (c.toNat - 48) with h0 | hp
        · rw [h0] at hch
          exact absurd (congrArg some hch.symm) hz
        · exact hp
      have h0 : digitsValue 10 [] = 0 := rfl
      rw [h0, Nat.zero_mul, Nat.zero_add]
      exact ⟨hp, by rw [Nat.toDigits_of_lt_base hlt, hch]; rfl⟩
    | cons d ds =>
      obtain ⟨hp, ht⟩ := ih (fun e he => hds e (mem_append_left _ he)) (by simp) (by simpa using hz)
      refine ⟨by omega, ?_⟩
      rw [Nat.mul_comm, ← Nat.toDigits_append_toDigits (by decide) hp hlt, ht,
        Nat.toDigits_of_lt_base hlt, hch]

lemma readOctet_eq_some {rest v} (h : readOctet cs = some (v, rest)) :
    v ≤ 255 ∧ cs = v.repr.toList ++ rest := by
  have hs := takeWhile_append_dropWhile (p := isDigitOf 10) (l := cs)
  have ha : ∀ c ∈ cs.takeWhile (isDigitOf 10), c.isDigit = true := fun c hc =>
    isDigit_of_isDigitOf (mem_takeWhile_imp hc)
  unfold readOctet readNumber at h
  dsimp only at h
  split at h
  · cases h
  split at h
  · cases h
  split at h
  · cases h
  split at h
  next hne hz hm =>
    obtain ⟨hv, hr⟩ := Prod.mk.inj (some.inj h)
    refine ⟨hv ▸ hm, ?_⟩
    rw [Nat.toList_repr, ← hv, ← hr]
    generalize cs.takeWhile (isDigitOf 10) = ds at *
    by_cases hh : ds.head? = some '0'
    · obtain ⟨tail, rfl⟩ : ∃ tail, ds = '0' :: tail := by
        cases ds with
        | nil => cases hh
        | cons c tail => exact ⟨tail, by simpa using hh⟩
      have ht : tail = [] := by
        by_contra ht
        exact hz ⟨by decide, rfl, by simpa using length_pos_iff.2 ht⟩
      subst ht
      exact hs.symm
    · rw [(toDigits_digitsValue ha hne hh).2]
      exact hs.symm
  next => cases h

lemma readSeparator_eq_some {r} (h : readSeparator sep index inner cs = some r) :
    ∃ cs', cs = (if 0 < index then [sep] else []) ++ cs' ∧ inner cs' = some r := by
  unfold readSeparator at h
  split at h
  next hp =>
    obtain ⟨cs', hcs, hi⟩ := bind_eq_some_iff.1 h
    refine ⟨cs', ?_, hi⟩
    cases cs with
    | nil => cases hcs
    | cons c rest =>
      obtain ⟨rfl, rfl⟩ := ite_some_none_eq_some.1 hcs
      rw [if_pos hp]
      rfl
  next hp => exact ⟨cs, by rw [if_neg hp]; rfl, h⟩

lemma readOctets_eq_some : ∀ (n index : ℕ) {cs rest : List Char} {vs : List ℕ},
    readOctets n index cs = some (vs, rest) →
      vs.length = n ∧ (∀ v ∈ vs, v ≤ 255) ∧ cs = octetsText index vs ++ rest
  | 0, _, _, _, _, h => by
    obtain ⟨rfl, rfl⟩ := Prod.mk.inj (some.inj h)
    exact ⟨rfl, fun _ hv => absurd hv not_mem_nil, rfl⟩
  | n + 1, index, cs, rest, vs, h => by
    obtain ⟨⟨v, cs'⟩, ho, h⟩ := bind_eq_some_iff.1 h
    obtain ⟨⟨vs', rest'⟩, hrs, heq⟩ := map_eq_some_iff.1 h
    obtain ⟨rfl, rfl⟩ := Prod.mk.inj heq
    obtain ⟨ds, rfl, hr⟩ := readSeparator_eq_some ho
    obtain ⟨hl, hle, ht⟩ := readOctets_eq_some n (index + 1) hrs
    obtain ⟨hv, hds⟩ := readOctet_eq_some hr
    refine ⟨congrArg (· + 1) hl, forall_mem_cons.2 ⟨hv, hle⟩, ?_⟩
    dsimp only at ht ⊢
    rw [hds, octetsText, ht]
    simp only [append_assoc]

lemma dottedQuad_of_parseIpAddr {octets : Fin 4 → ℕ} (h : parseIpAddr s = some (.v4 octets)) :
    (∀ i, octets i ≤ 255) ∧ dottedQuad octets = s := by
  have hr := parseIpAddr_eq_some.1 h
  unfold readIpAddr at hr
  split at hr
  next vs rest hv4 =>
    obtain ⟨hip, rfl⟩ := Prod.mk.inj (some.inj hr)
    obtain ⟨hl, hle, ht⟩ := readOctets_eq_some 4 0 hv4
    match vs, hl with
    | [a, b, c, d], _ =>
      obtain rfl : (fun i : Fin 4 => [a, b, c, d].getD i 0) = octets := IpAddr.v4.inj hip
      refine ⟨fun i => ?_, ?_⟩
      · match i with
        | 0 | 1 | 2 | 3 => exact hle _ (by simp)
      apply String.toList_inj.1
      rw [ht]
      simp [dottedQuad]
  next =>
    obtain ⟨r, -, heq⟩ := map_eq_some_iff.1 hr
    cases (Prod.mk.inj heq).1

end Zecurity.NetAddr
